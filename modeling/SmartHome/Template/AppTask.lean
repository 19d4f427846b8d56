import SmartHome.LightSwitch.AppEvent

/-!
# Template: the application task

`app_task.cpp` of the template firmware, function by function, in the shape
of the light switch's: one button, one timer, and a factory reset for holding
the button down for six seconds. The button's handler and the timer's handler
decide from `mFunction` alone.

The kit's buttons and LEDs are the ones the light switch runs on.
-/

namespace SmartHome.Template

open Zephyr
open LightSwitch (DkButton LedMode)

def kAppEventQueueSize : Nat := 10
def kFactoryResetTriggerTimeout : Nat := 6000

/-! The LED rates of the `LedConsts` namespaces, in milliseconds. -/

def kUnprovisionedOn : Nat := 100
def kUnprovisionedOff : Nat := 100
def kProvisionedOn : Nat := 50
def kProvisionedOff : Nat := 950

@[match_pattern] abbrev functionButton : DkButton := .btn1

inductive AppEventType where
  | none
  | button
  | buttonPushed
  | buttonReleased
  | timer
  | updateLedState
deriving DecidableEq, Repr

inductive FunctionEvent where
  | noneSelected
  | factoryReset
deriving DecidableEq, Repr

inductive Led where
  | status
  | factoryReset
deriving DecidableEq, Repr

inductive EventHandler where
  | functionHandler
  | functionTimerEventHandler
  | updateLedStateEventHandler
deriving DecidableEq, Repr

/-- The anonymous union of `AppEvent`. As in the light switch a timer event
carries the generation of the timer that expired, which no handler reads. -/
inductive EventData where
  | unset
  | buttonEvent (pinNo : DkButton) (action : AppEventType)
  | timerEvent (generation : Nat)
  | updateLedStateEvent (ledWidget : Led)
deriving DecidableEq, Repr

structure AppEvent where
  type : AppEventType := .none
  data : EventData := .unset
  handler : Option EventHandler
deriving DecidableEq, Repr

inductive Effect where
  | scheduleFactoryReset
  /-- The log line "Factory Reset has been Canceled". -/
  | factoryResetCanceled
deriving DecidableEq, Repr

structure AppTask where
  mFunction : FunctionEvent := .noneSelected
  sFunctionTimer : KTimer := {}
  sIsNetworkProvisioned : Bool := false
  sIsNetworkEnabled : Bool := false
  sHaveBLEConnections : Bool := false
  sStatusLED : LedMode := .steady false
  sFactoryResetLEDs : LedMode := .steady false
  sAppEventQueue : MsgQueue AppEvent kAppEventQueueSize := .empty
  failedPosts : Nat := 0

namespace AppTask

def startTimer (t : AppTask) (timeoutMs : Nat) : AppTask :=
  { t with sFunctionTimer := t.sFunctionTimer.start timeoutMs 0 }

def cancelTimer (t : AppTask) : AppTask :=
  { t with sFunctionTimer := t.sFunctionTimer.stop }

def postEvent (t : AppTask) (event : AppEvent) : AppTask :=
  match t.sAppEventQueue.put event with
  | some q => { t with sAppEventQueue := q }
  | none => { t with failedPosts := t.failedPosts + 1 }

def updateStatusLED (t : AppTask) : AppTask :=
  { t with
    sStatusLED :=
      if t.sIsNetworkProvisioned && t.sIsNetworkEnabled then .steady true
      else if t.sHaveBLEConnections then
        .blinking kUnprovisionedOn kUnprovisionedOff
      else .blinking kProvisionedOn kProvisionedOff }

/-! ## The handlers of queued events -/

def functionTimerEventHandler (t : AppTask) : AppTask × List Effect :=
  if t.mFunction = .factoryReset then
    ({ t with
        mFunction := .noneSelected
        sStatusLED := .steady true
        sFactoryResetLEDs := .steady true }, [.scheduleFactoryReset])
  else (t, [])

/-- It looks at the pin and the action, and at the event's type no more. -/
def functionHandler (t : AppTask) (event : AppEvent) :
    AppTask × List Effect :=
  match event.data with
  | .buttonEvent pinNo action =>
      if pinNo ≠ functionButton then (t, [])
      else if action = .buttonPushed then
        ({ t.startTimer kFactoryResetTriggerTimeout with
            mFunction := .factoryReset }, [])
      else if action = .buttonReleased then
        if t.mFunction = .factoryReset then
          let t :=
            ({ t with sFactoryResetLEDs := .steady false }).updateStatusLED
          ({ t.cancelTimer with mFunction := .noneSelected },
            [.factoryResetCanceled])
        else (t, [])
      else (t, [])
  | _ => (t, [])

/-- `UpdateLedStateEventHandler` redraws the LED in the mode it is in. -/
def dispatchEvent (t : AppTask) (event : AppEvent) :
    AppTask × List Effect :=
  match event.handler with
  | some .functionHandler => t.functionHandler event
  | some .functionTimerEventHandler => t.functionTimerEventHandler
  | some .updateLedStateEventHandler => (t, [])
  | none => (t, [])

end AppTask

end SmartHome.Template
