import SmartHome.Binding.Service
import SmartHome.LightSwitch.System
import SmartHome.Machine.Feed

/-!
# Light switch: the whole firmware

The application task of `app_task.cpp` in front of the binding handler of
`binding_handler.cpp`, as `main` starts them. The task calls `LightSwitch`
from the handlers of its events, and those calls are all the binding handler
hears of it; of the binding handler the task hears nothing. What an
allocation comes to is decided when it is made, so the inputs of the task
carry it.
-/

namespace SmartHome.Firmware

open LightSwitch (Config Effect)
open Binding (EmberBindingTableEntry EndpointId ClusterId Environment Service
  ServiceInput Shell)

def kLightSwitchEndpointId : EndpointId := 1

/-- The call of `LightSwitch` that an effect is, if it is one. -/
def call? (allocated : Bool) : Effect → Option ServiceInput
  | .initiateActionSwitch action =>
      some (.initiateActionSwitch action allocated)
  | .dimmerChangeBrightness => some (.dimmerChangeBrightness allocated)
  | _ => none

structure AppInput where
  input : LightSwitch.Input
  /-- `Platform::New` finds memory while the input is handled. -/
  allocated : Bool
deriving DecidableEq, Repr

abbrev Input := AppInput ⊕ Environment

abbrev State := LightSwitch.System × Service

section Firmware

variable (cfg : Config) (shell : Shell)
  (matching : EndpointId → ClusterId → EmberBindingTableEntry → Bool)

def appStep (s : LightSwitch.System) (i : AppInput) : LightSwitch.System :=
  s.step cfg i.input

/-- The calls that the task makes in the course of an input. -/
def calls (s : LightSwitch.System) (i : AppInput) : List ServiceInput :=
  ((appStep cfg s i).dispatched.drop s.dispatched.length).flatMap fun d =>
    d.effects.filterMap (call? i.allocated)

def step : State → Input → State :=
  Machine.feed (appStep cfg) (calls cfg) (Service.step shell matching)
    ServiceInput.environment

/-- After `StartApp`, with some buttons held down and a table from the
flash. -/
def boot (buttonState : BitVec 32)
    (bindingTable : List EmberBindingTableEntry) : State :=
  (.boot cfg buttonState, .boot bindingTable kLightSwitchEndpointId)

def after (buttonState : BitVec 32)
    (bindingTable : List EmberBindingTableEntry) (inputs : List Input) :
    State :=
  Machine.run (step cfg shell matching) (boot cfg buttonState bindingTable)
    inputs

end Firmware

end SmartHome.Firmware
