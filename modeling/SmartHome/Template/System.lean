import SmartHome.Machine.Run
import SmartHome.Template.AppTask

/-!
# Template: the application as a machine

As for the light switch, a run is any sequence of button scans, timer
expiries, LED updates, device events and rounds of the task's loop, and
`dispatched` is its record. An entry of the record also has the generation
the dispatch left the timer in, so that a push can be told by the start it
made.
-/

namespace SmartHome.Template

open Zephyr
open LightSwitch (Edge)

structure Dispatch where
  event : AppEvent
  effects : List Effect
  generation : Nat
deriving DecidableEq, Repr

structure System where
  task : AppTask
  buttonState : BitVec 32
  dispatched : List Dispatch := []

/-- The device events `ChipEventHandler` has a case for. -/
inductive ChipDeviceEvent where
  | chipoBLEAdvertisingChange (numBLEConnections : Nat)
  | connectivityChange (provisioned enabled : Bool)
  | other
deriving DecidableEq, Repr

inductive Input where
  /-- The DK library reports a new button state. -/
  | buttons (buttonState : BitVec 32)
  | timerExpiry
  /-- The task takes the oldest event, if there is one. -/
  | dispatch
  | ledStateUpdate (led : Led)
  | chipEvent (event : ChipDeviceEvent)
deriving DecidableEq, Repr

namespace AppTask

/-! ## The callbacks that post events -/

def buttonEvent (action : AppEventType) : AppEvent :=
  { type := .button
    data := .buttonEvent functionButton action
    handler := some .functionHandler }

def buttonEventHandler (t : AppTask) (buttonState hasChanged : BitVec 32) :
    AppTask :=
  if functionButton.msk &&& hasChanged ≠ 0#32 then
    t.postEvent (buttonEvent
      (if functionButton.msk &&& buttonState ≠ 0#32 then .buttonPushed
      else .buttonReleased))
  else t

def timerEvent (generation : Nat) : AppEvent :=
  { type := .timer
    data := .timerEvent generation
    handler := some .functionTimerEventHandler }

/-- An expiry of the running timer, and `FunctionTimerTimeoutCallback` on
it. -/
def timerExpiry (t : AppTask) : AppTask :=
  if t.sFunctionTimer.running.isSome then
    ({ t with sFunctionTimer := t.sFunctionTimer.expire }).postEvent
      (timerEvent t.sFunctionTimer.generation)
  else t

def ledStateUpdateHandler (t : AppTask) (led : Led) : AppTask :=
  t.postEvent
    { type := .updateLedState
      data := .updateLedStateEvent led
      handler := some .updateLedStateEventHandler }

def chipEventHandler (t : AppTask) : ChipDeviceEvent → AppTask
  | .chipoBLEAdvertisingChange numBLEConnections =>
      ({ t with
          sHaveBLEConnections := numBLEConnections != 0 }).updateStatusLED
  | .connectivityChange provisioned enabled =>
      ({ t with
          sIsNetworkProvisioned := provisioned
          sIsNetworkEnabled := enabled }).updateStatusLED
  | .other => t

/-- The part of `Init` that touches this state. -/
def init : AppTask := ({} : AppTask).updateStatusLED

end AppTask

/-! ## Reading an event -/

/-- The edge of the function button that `FunctionHandler` sees in an
event. -/
def AppEvent.edge? (e : AppEvent) : Option Edge :=
  match e.handler, e.data with
  | some .functionHandler, .buttonEvent functionButton .buttonPushed =>
      some .push
  | some .functionHandler, .buttonEvent functionButton .buttonReleased =>
      some .release
  | _, _ => none

/-- The start of the timer that an expiry stems from. -/
def AppEvent.generation? (e : AppEvent) : Option Nat :=
  match e.handler, e.data with
  | some .functionTimerEventHandler, .timerEvent generation =>
      some generation
  | _, _ => none

/-- The last edge among some events. -/
def lastEdge (events : List AppEvent) : Option Edge :=
  (events.filterMap (·.edge?)).getLast?

namespace System

/-- The application after `Init`, with the given buttons held down. -/
def boot (buttonState : BitVec 32) : System :=
  { task := AppTask.init, buttonState }

/-- The body of `StartApp`'s loop; with an empty queue the task waits. -/
def dispatch (s : System) : System :=
  match s.task.sAppEventQueue.get with
  | none => s
  | some (event, q) =>
      let r := AppTask.dispatchEvent { s.task with sAppEventQueue := q } event
      { s with
        task := r.1
        dispatched := s.dispatched ++
          [⟨event, r.2, r.1.sFunctionTimer.generation⟩] }

def step (s : System) : Input → System
  | .buttons buttonState =>
      { s with
        task := s.task.buttonEventHandler buttonState
          (s.buttonState ^^^ buttonState)
        buttonState }
  | .timerExpiry => { s with task := s.task.timerExpiry }
  | .dispatch => s.dispatch
  | .ledStateUpdate led => { s with task := s.task.ledStateUpdateHandler led }
  | .chipEvent event => { s with task := s.task.chipEventHandler event }

/-- The state a boot and a sequence of inputs lead to. -/
def after (buttonState : BitVec 32) (inputs : List Input) : System :=
  Machine.run step (boot buttonState) inputs

end System

end SmartHome.Template
