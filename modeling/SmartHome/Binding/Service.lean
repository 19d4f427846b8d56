import SmartHome.Binding.Shell
import SmartHome.Binding.System
import SmartHome.Spec.Sentence

/-!
# Light switch: everything that reaches the binding handler

The binding handler as the device has it: work is scheduled by the button,
through `LightSwitch`, and by the shell, the table it goes by is rewritten
by whoever commissions the device, and calls that the manager owes are
dropped by it when no session comes about. `Service` is the handler with all
that may happen to it, in any order.

Three records are kept beside the handler, which no function reads. `asked`
is what the inputs have asked for, and from where, noted by `asks` whatever
the handler does about it; `notices` is every notification with the table as
it was then; `givenUp` are the calls that the manager dropped.
-/

namespace SmartHome.Binding

open LightSwitch (Action)

inductive Origin where
  | button
  | shell
deriving DecidableEq, Repr

structure Asked where
  origin : Origin
  data : BindingData
deriving DecidableEq, Repr

structure Notice where
  bindingTable : List EmberBindingTableEntry
  data : BindingData
deriving DecidableEq, Repr

structure Service where
  handler : System
  asked : List Asked := []
  notices : List Notice := []
  givenUp : List (EmberBindingTableEntry × BindingData) := []

/-- What happens to the handler that is not the button's doing. -/
inductive Environment where
  /-- The words after `switch` on a line of the shell. -/
  | switchCommand (argv : List String)
  /-- The Binding cluster's list is written. -/
  | bindingTable (bindingTable : List EmberBindingTableEntry)
  /-- The manager drops one of the calls it owes. -/
  | giveUp (position : Nat)
  | handler (i : Input)
deriving DecidableEq, Repr

inductive ServiceInput where
  /-- `LightSwitch::InitiateActionSwitch`. -/
  | initiateActionSwitch (mAction : Action) (allocated : Bool)
  /-- `LightSwitch::DimmerChangeBrightness`. -/
  | dimmerChangeBrightness (allocated : Bool)
  | environment (e : Environment)
deriving DecidableEq, Repr

namespace Service

/-- What an input asks for. The button asks for nothing if there is no memory
to ask with, and a line of the shell only if its sentence does. -/
def asks (s : Service) : ServiceInput → List Asked
  | .initiateActionSwitch mAction allocated =>
      if allocated then
        [⟨.button, actionSwitchData s.handler.bindingTable
          s.handler.mLightSwitchEndpoint mAction⟩]
      else []
  | .dimmerChangeBrightness allocated =>
      if allocated then
        [⟨.button, changeBrightnessData s.handler.bindingTable
          s.handler.mLightSwitchEndpoint
          (nextBrightness s.handler.sBrightness)⟩]
      else []
  | .environment (.switchCommand argv) =>
      ((switchSentence argv).join.map fun asked =>
        ⟨.shell, shellData s.handler.mLightSwitchEndpoint asked⟩).toList
  | .environment _ => []

/-- The handler as an input left it, with a record of what that asked for. -/
def ask (s : Service) (i : ServiceInput) (handler : System) : Service :=
  { s with
    handler
    asked := s.asked ++ s.asks i }

def initiateActionSwitch (s : Service) (mAction : Action) (allocated : Bool) :
    Service :=
  s.ask (.initiateActionSwitch mAction allocated)
    (s.handler.initiateActionSwitch mAction allocated)

def dimmerChangeBrightness (s : Service) (allocated : Bool) : Service :=
  s.ask (.dimmerChangeBrightness allocated)
    (s.handler.dimmerChangeBrightness allocated)

/-- `PlatformMgr().ScheduleWork(SwitchWorkerHandler, data)`. -/
def runEffect (handler : System) : ShellEffect → System
  | .scheduleWork data =>
      { handler with scheduled := handler.scheduled ++ [data] }
  | .printCommandHelp _ => handler
  | .printBindingTable => handler

def switchCommand (shell : Shell) (s : Service) (argv : List String) :
    Service :=
  let r := SwitchCommands.switchCommandHandler shell
    s.handler.mLightSwitchEndpoint argv
  s.ask (.environment (.switchCommand argv))
    (r.2.foldl runEffect s.handler)

def giveUp (s : Service) (position : Nat) : Service :=
  match s.handler.owed[position]? with
  | none => s
  | some call =>
      { s with
        handler.owed := s.handler.owed.eraseIdx position
        givenUp := s.givenUp ++ [call] }

end Service

def Occurrence.notified? : Occurrence → Option BindingData
  | .notified _ data => some data
  | _ => none

namespace Service

section Manager

variable (shell : Shell)
  (matching : EndpointId → ClusterId → EmberBindingTableEntry → Bool)

/-- A step of the handler, with a record of the notification that it sent. -/
def handlerStep (s : Service) (i : Input) : Service :=
  let handler := s.handler.step matching i
  { s with
    handler
    notices := s.notices ++
      ((handler.history.drop s.handler.history.length).filterMap
        Occurrence.notified?).map (⟨s.handler.bindingTable, ·⟩) }

def environment (s : Service) : Environment → Service
  | .switchCommand argv => s.switchCommand shell argv
  | .bindingTable bindingTable =>
      { s with handler.bindingTable := bindingTable }
  | .giveUp position => s.giveUp position
  | .handler i => s.handlerStep matching i

def step (s : Service) : ServiceInput → Service
  | .initiateActionSwitch mAction allocated =>
      s.initiateActionSwitch mAction allocated
  | .dimmerChangeBrightness allocated => s.dimmerChangeBrightness allocated
  | .environment e => s.environment shell matching e

/-- A device that has just started, with a table from the flash. -/
def boot (bindingTable : List EmberBindingTableEntry)
    (mLightSwitchEndpoint : EndpointId) : Service where
  handler := { bindingTable, mLightSwitchEndpoint }

def after (bindingTable : List EmberBindingTableEntry)
    (mLightSwitchEndpoint : EndpointId) (inputs : List ServiceInput) :
    Service :=
  Machine.run (step shell matching) (boot bindingTable mLightSwitchEndpoint)
    inputs

end Manager

end Service

end SmartHome.Binding
