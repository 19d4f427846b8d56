import SmartHome.Binding.Handler

/-!
# Light switch: printing the binding table

`PrintBindingTable`, and the two functions that call it: `InitInternal` at
every start, and the helper of the shell command `switch table`. They only
log, so what they leave behind is what was logged, and the one thing that
can go wrong is that the SDK's `Optional::Value` is asked for a value that
is not there. It is a `VerifyOrDie` then, and the firmware stops.

The macros of the logger are left out of a build whose level is lower than
theirs, arguments and all; `prj_release.conf` has no logging whatever. So
`LOG_INF` is handed the program that computes its line, and the level is a
parameter. Of the binding manager's `Init` all that matters here is its
result and the table that it loads from the settings.
-/

namespace SmartHome.Binding

inductive Abort where
  /-- `VerifyOrDie(HasValue())`, in `Optional::Value`. -/
  | verifyOrDie
deriving DecidableEq, Repr

/-- What is logged, with the arguments as the `(int)` casts leave them. -/
inductive LogLine where
  /-- "Initialize binding Handler" -/
  | starting
  /-- "BindingHandler::InitInternal failed" -/
  | initFailed
  /-- "Binding Table size: [%d]:" -/
  | tableSize (size : Nat)
  /-- "[%d] UNICAST:" -/
  | unicast (i : UInt8)
  | unicastEntry
      (fabric localEndpoint clusterId remoteEndpointId nodeId : Int32)
  /-- "[%d] GROUP:" -/
  | group (i : UInt8)
  | groupEntry (fabric localEndpoint remoteEndpointId groupId : Int32)
  /-- "[%d] UNUSED" -/
  | unused (i : UInt8)
deriving DecidableEq, Repr

structure Console where
  bindingTable : List EmberBindingTableEntry
  /-- Both handlers are registered with the binding manager. -/
  handlersRegistered : Bool := false
  log : List LogLine := []
  /-- The local variable of `PrintBindingTable`. -/
  i : UInt8 := 0
deriving DecidableEq, Repr

/-- A firmware function, with what may stop it. -/
abbrev Firmware := EStateM Abort Console

def LOG_LEVEL_ERR : Nat := 1
def LOG_LEVEL_INF : Nat := 3

/-- A log macro of level `lineLevel`, in a build that logs up to `level`. -/
def logAt (lineLevel level : Nat) (line : Firmware LogLine) : Firmware Unit :=
  if lineLevel ≤ level then do
    let line ← line
    modify fun c => { c with log := c.log ++ [line] }
  else pure ()

def LOG_ERR : Nat → Firmware LogLine → Firmware Unit := logAt LOG_LEVEL_ERR
def LOG_INF : Nat → Firmware LogLine → Firmware Unit := logAt LOG_LEVEL_INF

/-- `Optional::Value`. -/
def value {α : Type} : Option α → Firmware α
  | some a => pure a
  | none => throw .verifyOrDie

/-- `i++` -/
def postIncrement : Firmware UInt8 :=
  modifyGet fun c => (c.i, { c with i := c.i + 1 })

/-- The cast `(int)`. -/
def toInt (n : Nat) : Int32 := Int32.ofNat n

/-- One round of the loop of `PrintBindingTable`. -/
def printEntry (level : Nat) (entry : EmberBindingTableEntry) :
    Firmware Unit :=
  match entry.type with
  | .unicast => do
      LOG_INF level do return .unicast (← postIncrement)
      LOG_INF level do
        let clusterId ← value entry.clusterId
        return .unicastEntry (toInt entry.fabricIndex.toNat)
          (toInt entry.localEndpoint.toNat) (toInt clusterId.toNat)
          (toInt entry.remote.toNat) (toInt entry.nodeId.toNat)
  | .multicast => do
      LOG_INF level do return .group (← postIncrement)
      LOG_INF level do
        return .groupEntry (toInt entry.fabricIndex.toNat)
          (toInt entry.localEndpoint.toNat) (toInt entry.remote.toNat)
          (toInt entry.groupId.toNat)
  | .unused => LOG_INF level do return .unused (← postIncrement)

def printBindingTable (level : Nat) : Firmware Unit := do
  let bindingTable := (← get).bindingTable
  LOG_INF level do return .tableSize bindingTable.length
  modify fun c => { c with i := 0 }
  forM bindingTable (printEntry level)

/-- `init` is what the binding manager's `Init` returns, and `loaded` the
table it has found in the settings. -/
def initInternal (level : Nat) (init : ChipError)
    (loaded : List EmberBindingTableEntry) : Firmware Unit := do
  LOG_INF level do return .starting
  modify fun c => { c with bindingTable := loaded }
  if init ≠ .noError then LOG_ERR level do return .initFailed
  modify fun c => { c with handlersRegistered := true }
  printBindingTable level

def tableCommandHelper (level : Nat) : Firmware ChipError := do
  printBindingTable level
  return .noError

end SmartHome.Binding
