import SmartHome.Machine.Run
import SmartHome.Binding.Handler

/-!
# Light switch: the binding handler as a machine

Between a user action and the answer of a bound device the code gives up
control three times: to the platform's work queue, to the binding manager,
which calls the handler back for each binding once it has a session, and to
the device. The state keeps what is outstanding at each of these points.
`scheduled` is the work queue, `owed` the calls the manager has still to
make, and `inFlight` the commands whose callback has still to come. The
first is a FIFO; calls and callbacks come in any order, so an input names
the one that comes by its position.

The manager is not part of the sources. All that is taken of it is that a
notification makes it call the handler once for each entry of the table that
matches, and `matching`, which says which ones those are, is a parameter.
`history` is the record of what happened, which no function reads.
-/

namespace SmartHome.Binding

open LightSwitch (Action)

/-- The two places that call `NotifyBoundClusterChanged`. -/
inductive Notifier where
  | switchWorkerHandler
  | onInvokeCommandFailure
deriving DecidableEq, Repr

inductive Occurrence where
  | notified (notifier : Notifier) (data : BindingData)
  | invoked (invocation : Invocation)
  | groupInvoked (binding : EmberBindingTableEntry) (command : Command)
  /-- The SDK did not take the request: "Invoke … Command Request ERROR". -/
  | refused (request : Request)
  | succeeded (invocation : Invocation)
  | failed (invocation : Invocation) (aError : ChipError)
deriving DecidableEq, Repr

structure System where
  bindingTable : List EmberBindingTableEntry
  mLightSwitchEndpoint : EndpointId
  sBrightness : UInt16 := 0
  mCaseSessionRecovered : Bool := false
  scheduled : List BindingData := []
  owed : List (EmberBindingTableEntry × BindingData) := []
  inFlight : List Invocation := []
  history : List Occurrence := []

inductive Input where
  /-- The platform runs the oldest piece of scheduled work. -/
  | work
  /-- The manager makes one of the calls it owes, and the SDK answers the
  request it leads to, if any, with `ret`. -/
  | handler (position : Nat) (ret : ChipError)
  | onSuccess (position : Nat)
  | onFailure (position : Nat) (aError : ChipError)
deriving DecidableEq, Repr

namespace System

/-! ## User actions -/

def initiateActionSwitch (s : System) (mAction : Action) (allocated : Bool) :
    System :=
  if allocated then
    { s with
      scheduled := s.scheduled ++
        [actionSwitchData s.bindingTable s.mLightSwitchEndpoint mAction] }
  else s

def dimmerChangeBrightness (s : System) (allocated : Bool) : System :=
  if allocated then
    let sBrightness := nextBrightness s.sBrightness
    { s with
      sBrightness
      scheduled := s.scheduled ++
        [changeBrightnessData s.bindingTable s.mLightSwitchEndpoint
          sBrightness] }
  else s

/-- One user action on a device that has just started. -/
def initiated (bindingTable : List EmberBindingTableEntry)
    (mLightSwitchEndpoint : EndpointId) (mAction : Action)
    (allocated : Bool) : System :=
  initiateActionSwitch { bindingTable, mLightSwitchEndpoint } mAction allocated

section Manager

variable (matching : EndpointId → ClusterId → EmberBindingTableEntry → Bool)

/-! ## The binding manager and the callbacks -/

def notifyBoundClusterChanged (s : System) (notifier : Notifier)
    (data : BindingData) : System :=
  { s with
    owed := s.owed ++
      (s.bindingTable.filter (matching data.endpointId data.clusterId)).map
        (·, data)
    history := s.history ++ [.notified notifier data] }

def switchWorkerHandler (s : System) (data : BindingData) : System :=
  s.notifyBoundClusterChanged matching .switchWorkerHandler data

def onInvokeCommandFailure (s : System) (aBindingData : BindingData)
    (aError : ChipError) : System :=
  if aError = .timeout ∧ s.mCaseSessionRecovered = false then
    notifyBoundClusterChanged matching { s with mCaseSessionRecovered := true }
      .onInvokeCommandFailure aBindingData
  else s

/-- What is left of a request: a command in flight, a group command, which
nobody answers, or a line in the log. -/
def request (s : System) (ret : ChipError) (r : Request) : System :=
  if ret = .noError then
    match r with
    | .invokeCommandRequest invocation =>
        { s with
          inFlight := s.inFlight ++ [invocation]
          history := s.history ++ [.invoked invocation] }
    | .invokeGroupCommandRequest binding command =>
        { s with history := s.history ++ [.groupInvoked binding command] }
  else { s with history := s.history ++ [.refused r] }

def step (s : System) : Input → System
  | .work =>
      match s.scheduled with
      | [] => s
      | data :: rest =>
          switchWorkerHandler matching { s with scheduled := rest } data
  | .handler position ret =>
      match s.owed[position]? with
      | none => s
      | some (binding, data) =>
          let s := { s with owed := s.owed.eraseIdx position }
          -- The manager has a device proxy for a unicast binding only.
          match lightSwitchChangedHandler binding (binding.type == .unicast)
              (some data) with
          | none => s
          | some r => s.request ret r
  | .onSuccess position =>
      match s.inFlight[position]? with
      | none => s
      | some invocation =>
          { s with
            inFlight := s.inFlight.eraseIdx position
            mCaseSessionRecovered := false
            history := s.history ++ [.succeeded invocation] }
  | .onFailure position aError =>
      match s.inFlight[position]? with
      | none => s
      | some invocation =>
          onInvokeCommandFailure matching
            { s with
              inFlight := s.inFlight.eraseIdx position
              history := s.history ++ [.failed invocation aError] }
            invocation.dataRef aError

/-- The run that one user action starts, from what `initiated` leaves. -/
def afterAction (bindingTable : List EmberBindingTableEntry)
    (mLightSwitchEndpoint : EndpointId) (mAction : Action) (allocated : Bool)
    (inputs : List Input) : System :=
  Machine.run (step matching)
    (initiated bindingTable mLightSwitchEndpoint mAction allocated) inputs

end Manager

end System

end SmartHome.Binding
