import SmartHome.Machine.Run
import SmartHome.LightSwitch.AppTask

/-!
# Light switch: the application as a machine

Three parties act on the application: the contexts that post events (the DK
library's button scan, the timer expiries, Identify, the LED widgets), the
CHIP thread, which calls `ChipEventHandler` directly, and the task itself,
which takes the oldest event and dispatches it. `step` is one of those acts,
and a run is any sequence of them.

`dispatched` is the record of a run: every event the task took, oldest
first, with the effects its handler had. No handler reads it.
-/

namespace SmartHome.LightSwitch

open Zephyr

structure Dispatch where
  event : AppEvent
  effects : List Effect
deriving DecidableEq, Repr

structure System where
  task : AppTask
  buttonState : BitVec 32
  commissioning : Commissioning := {}
  dispatched : List Dispatch := []

/-- The device events `ChipEventHandler` has a case for. The two
connectivity changes, Thread's and Wi-Fi's, store the same two flags. -/
inductive ChipDeviceEvent where
  | chipoBLEAdvertisingChange (numBLEConnections : Nat)
  | connectivityChange (provisioned enabled : Bool)
  | other
deriving DecidableEq, Repr

inductive Input where
  /-- The DK library reports a new button state. -/
  | buttons (buttonState : BitVec 32)
  | timerExpiry (timer : Timer)
  /-- The task takes the oldest event, if there is one. -/
  | dispatch
  | identifyStart
  | identifyStop
  | ledStateUpdate (led : Led)
  | chipEvent (event : ChipDeviceEvent)
  /-- The CHIP stack starts or stops advertising, or gains or loses a
  fabric. -/
  | commissioning (env : Commissioning)
deriving DecidableEq, Repr

namespace AppTask

/-! ## The callbacks that post events -/

def pushEvent (pinNo : DkButton) : AppEvent :=
  { type := .button
    data := .buttonEvent pinNo .buttonPushed
    handler := some .buttonPushHandler }

def releaseEvent (pinNo : DkButton) : AppEvent :=
  { type := .button
    data := .buttonEvent pinNo .buttonReleased
    handler := some .buttonReleaseHandler }

/-- The `if … else if` pair of `ButtonEventHandler` for one button. -/
def edgeEvents (pinNo : DkButton) (buttonState hasChanged : BitVec 32) :
    List AppEvent :=
  if pinNo.msk &&& buttonState &&& hasChanged ≠ 0#32 then [pushEvent pinNo]
  else if pinNo.msk &&& hasChanged ≠ 0#32 then [releaseEvent pinNo]
  else []

/-- The events `ButtonEventHandler` posts, in order. -/
def buttonEvents (cfg : Config) (buttonState hasChanged : BitVec 32) :
    List AppEvent :=
  edgeEvents functionButton buttonState hasChanged ++
    edgeEvents switchButton buttonState hasChanged ++
      if cfg.twoButtons then []
      else if bleAdvertisementStartButton.msk &&& hasChanged &&& buttonState
          ≠ 0#32 then
        [startBLEAdvertisementEvent bleAdvertisementStartButton]
      else []

def buttonEventHandler (cfg : Config) (t : AppTask)
    (buttonState hasChanged : BitVec 32) : AppTask :=
  (buttonEvents cfg buttonState hasChanged).foldl postEvent t

def timer (t : AppTask) : Timer → KTimer
  | .function => t.sFunctionTimer
  | .dimmerTrigger => t.sDimmerPressKeyTimer
  | .dimmer => t.sDimmerTimer

def setTimer (t : AppTask) (timer : Timer) (k : KTimer) : AppTask :=
  match timer with
  | .function => { t with sFunctionTimer := k }
  | .dimmerTrigger => { t with sDimmerPressKeyTimer := k }
  | .dimmer => { t with sDimmerTimer := k }

def timerEvent (timer : Timer) (generation : Nat) : AppEvent :=
  { type := .timer
    data := .timerEvent timer generation
    handler := some .timerEventHandler }

/-- An expiry of a running timer, and `FunctionTimerTimeoutCallback` on it. -/
def timerExpiry (t : AppTask) (timer : Timer) : AppTask :=
  if (t.timer timer).running.isSome then
    (t.setTimer timer (t.timer timer).expire).postEvent
      (timerEvent timer (t.timer timer).generation)
  else t

def identifyStartHandler (t : AppTask) : AppTask :=
  t.postEvent { type := .identifyStart, handler := some .identifyStart }

def identifyStopHandler (t : AppTask) : AppTask :=
  t.postEvent { type := .identifyStop, handler := some .identifyStop }

def ledStateUpdateHandler (t : AppTask) (led : Led) : AppTask :=
  t.postEvent
    { type := .updateLedState
      data := .updateLedStateEvent led
      handler := some .updateLedStateEventHandler }

/-! ## The CHIP thread and start-up -/

def chipEventHandler (cfg : Config) (t : AppTask) :
    ChipDeviceEvent → AppTask
  | .chipoBLEAdvertisingChange numBLEConnections =>
      let t := t.updateStatusLED cfg
      ({ t with sHaveBLEConnections := numBLEConnections != 0 }).updateStatusLED
        cfg
  | .connectivityChange provisioned enabled =>
      ({ t with
          sIsNetworkProvisioned := provisioned
          sIsNetworkEnabled := enabled }).updateStatusLED cfg
  | .other => t

/-- The part of `Init` that touches this state. -/
def init (cfg : Config) : AppTask := ({} : AppTask).updateStatusLED cfg

end AppTask

namespace System

/-- The application after `Init`, with the given buttons held down. -/
def boot (cfg : Config) (buttonState : BitVec 32) : System :=
  { task := AppTask.init cfg, buttonState }

/-- The body of `StartApp`'s loop; with an empty queue the task waits. -/
def dispatch (cfg : Config) (s : System) : System :=
  match s.task.sAppEventQueue.get with
  | none => s
  | some (event, q) =>
      let r := AppTask.dispatchEvent cfg s.commissioning
        { s.task with sAppEventQueue := q } event
      { s with
        task := r.1
        dispatched := s.dispatched ++ [⟨event, r.2⟩] }

def step (cfg : Config) (s : System) : Input → System
  | .buttons buttonState =>
      { s with
        task := s.task.buttonEventHandler cfg buttonState
          (s.buttonState ^^^ buttonState)
        buttonState }
  | .timerExpiry timer => { s with task := s.task.timerExpiry timer }
  | .dispatch => s.dispatch cfg
  | .identifyStart => { s with task := s.task.identifyStartHandler }
  | .identifyStop => { s with task := s.task.identifyStopHandler }
  | .ledStateUpdate led => { s with task := s.task.ledStateUpdateHandler led }
  | .chipEvent event => { s with task := s.task.chipEventHandler cfg event }
  | .commissioning env => { s with commissioning := env }

/-- The state a boot and a sequence of inputs lead to. -/
def after (cfg : Config) (buttonState : BitVec 32) (inputs : List Input) :
    System :=
  Machine.run (step cfg) (boot cfg buttonState) inputs

/-- Every event that was queued so far, in order: the dispatched ones and the
ones still waiting. -/
def timeline (s : System) : List AppEvent :=
  s.dispatched.map (·.event) ++ s.task.sAppEventQueue.msgs

end System

end SmartHome.LightSwitch
