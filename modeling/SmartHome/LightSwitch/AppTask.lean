import SmartHome.LightSwitch.AppEvent

/-!
# Light switch: the application task

`app_task.cpp`, function by function. `AppTask` holds the file's module-level
state together with `mFunction` and the event queue; every handler takes the
state and the event and returns the state it leaves and the effects it had.
What the handlers ask of the CHIP stack, whether BLE advertising is enabled
and how many fabrics there are, is passed in as `Commissioning`.

A `PostEvent` that finds the queue full logs and drops the event;
`failedPosts` counts those, so that a run in which none fails can be told
from one in which some do.
-/

namespace SmartHome.LightSwitch

open Zephyr

structure AppTask where
  mFunction : FunctionEvent := .noneSelected
  sFunctionTimer : KTimer := {}
  sDimmerPressKeyTimer : KTimer := {}
  sDimmerTimer : KTimer := {}
  sWasDimmerTriggered : Bool := false
  sIsNetworkProvisioned : Bool := false
  sIsNetworkEnabled : Bool := false
  sHaveBLEConnections : Bool := false
  sStatusLED : LedMode := .steady false
  sIdentifyLED : LedMode := .steady false
  /-- Both LEDs of the wrapper, which are only ever told the same thing. -/
  sFactoryResetLEDs : LedMode := .steady false
  sAppEventQueue : MsgQueue AppEvent kAppEventQueueSize := .empty
  failedPosts : Nat := 0

/-- The answers of `ConnectivityMgr().IsBLEAdvertisingEnabled()` and
`GetFabricTable().FabricCount()`. -/
structure Commissioning where
  isBLEAdvertisingEnabled : Bool := false
  fabricCount : Nat := 0
deriving DecidableEq, Repr

namespace AppTask

/-! ## Timers, the queue and the LEDs -/

def startTimer (t : AppTask) (timer : Timer) (timeoutMs : Nat) : AppTask :=
  match timer with
  | .function =>
      { t with sFunctionTimer := t.sFunctionTimer.start timeoutMs 0 }
  | .dimmerTrigger =>
      { t with
        sDimmerPressKeyTimer := t.sDimmerPressKeyTimer.start timeoutMs 0 }
  | .dimmer =>
      { t with sDimmerTimer := t.sDimmerTimer.start timeoutMs timeoutMs }

def cancelTimer (t : AppTask) (timer : Timer) : AppTask :=
  match timer with
  | .function => { t with sFunctionTimer := t.sFunctionTimer.stop }
  | .dimmerTrigger =>
      { t with sDimmerPressKeyTimer := t.sDimmerPressKeyTimer.stop }
  | .dimmer => { t with sDimmerTimer := t.sDimmerTimer.stop }

def postEvent (t : AppTask) (event : AppEvent) : AppTask :=
  match t.sAppEventQueue.put event with
  | some q => { t with sAppEventQueue := q }
  | none => { t with failedPosts := t.failedPosts + 1 }

def updateStatusLED (cfg : Config) (t : AppTask) : AppTask :=
  if cfg.stateLeds then
    { t with
      sFactoryResetLEDs :=
        if cfg.fourLeds then .steady false else t.sFactoryResetLEDs
      sStatusLED :=
        if t.sIsNetworkProvisioned && t.sIsNetworkEnabled then .steady true
        else if t.sHaveBLEConnections then
          .blinking kUnprovisionedOn kUnprovisionedOff
        else .blinking kProvisionedOn kProvisionedOff }
  else t

/-- The LEDs blinking in unison: each is `Set(false)` first, which the
`Blink` that follows overrides. -/
def blinkAllLeds (cfg : Config) (t : AppTask) : AppTask :=
  if cfg.stateLeds then
    { t with
      sStatusLED := .blinking kBlinkRate kBlinkRate
      sIdentifyLED := .blinking kBlinkRate kBlinkRate
      sFactoryResetLEDs :=
        if cfg.fourLeds then .blinking kBlinkRate kBlinkRate
        else t.sFactoryResetLEDs }
  else t

/-! ## The handlers of queued events -/

/-- A push event handled by `StartBLEAdvertisementHandler`: what the BLE
button of the four-button build posts, and what `ButtonReleaseHandler` posts
in the two-button build while the device is neither advertising nor
commissioned. -/
def startBLEAdvertisementEvent (pinNo : DkButton) : AppEvent :=
  { type := .button
    data := .buttonEvent pinNo .buttonPushed
    handler := some .startBLEAdvertisementHandler }

def buttonPushHandler (cfg : Config) (env : Commissioning) (t : AppTask)
    (event : AppEvent) : AppTask × List Effect :=
  match event.type, event.data with
  | .button, .buttonEvent pinNo _ =>
      match pinNo with
      | functionButton =>
          ({ t.startTimer .function kFactoryResetTriggerTimeout with
              mFunction := .softwareUpdate }, [])
      | switchButton =>
          if cfg.twoButtons && !env.isBLEAdvertisingEnabled
              && env.fabricCount == 0 then
            (t, [])
          else
            (t.startTimer .dimmerTrigger kDimmerTriggeredTimeout, [])
      | _ => (t, [])
  | _, _ => (t, [])

/-- The `FUNCTION_BUTTON` branch of `ButtonReleaseHandler`. -/
def functionButtonReleased (cfg : Config) (t : AppTask) :
    AppTask × List Effect :=
  if t.mFunction = .softwareUpdate then
    let t := { t.cancelTimer .function with mFunction := .noneSelected }
    if cfg.mcumgrTransportBt then (t.updateStatusLED cfg, [.startServer])
    else (t, [])
  else if t.mFunction = .factoryReset then
    let t := t.updateStatusLED cfg
    ({ t.cancelTimer .function with mFunction := .noneSelected },
      [.factoryResetCanceled])
  else (t, [])

/-- The end of the switch button's branch, which both builds share. -/
def switchButtonReleased (t : AppTask) : AppTask × List Effect :=
  let effects :=
    if t.sWasDimmerTriggered then [] else [.initiateActionSwitch .toggle]
  let t := (t.cancelTimer .dimmer).cancelTimer .dimmerTrigger
  ({ t with sWasDimmerTriggered := false }, effects)

def buttonReleaseHandler (cfg : Config) (env : Commissioning) (t : AppTask)
    (event : AppEvent) : AppTask × List Effect :=
  match event.type, event.data with
  | .button, .buttonEvent pinNo _ =>
      match pinNo with
      | functionButton => t.functionButtonReleased cfg
      | switchButton =>
          if cfg.twoButtons && !env.isBLEAdvertisingEnabled
              && env.fabricCount == 0 then
            (t.postEvent (startBLEAdvertisementEvent switchButton), [])
          else t.switchButtonReleased
      | _ => (t, [])
  | _, _ => (t, [])

/-- The `Timer::Function` branch of `TimerEventHandler`. -/
def functionTimerExpired (cfg : Config) (t : AppTask) :
    AppTask × List Effect :=
  if t.mFunction = .softwareUpdate then
    let t := t.startTimer .function kFactoryResetCancelWindowTimeout
    (({ t with mFunction := .factoryReset }).blinkAllLeds cfg, [])
  else if t.mFunction = .factoryReset then
    ({ t with mFunction := .noneSelected }, [.scheduleFactoryReset])
  else (t, [])

/-- The `Timer::DimmerTrigger` branch. -/
def dimmerTriggerExpired (t : AppTask) : AppTask × List Effect :=
  let t := { t with sWasDimmerTriggered := true }
  ((t.startTimer .dimmer kDimmerInterval).cancelTimer .dimmerTrigger,
    [.initiateActionSwitch .on])

def timerEventHandler (cfg : Config) (t : AppTask) (event : AppEvent) :
    AppTask × List Effect :=
  match event.type, event.data with
  | .timer, .timerEvent timerType _ =>
      match timerType with
      | .function => t.functionTimerExpired cfg
      | .dimmerTrigger => t.dimmerTriggerExpired
      | .dimmer => (t, [.dimmerChangeBrightness])
  | _, _ => (t, [])

/-- `OpenBasicCommissioningWindow` may fail, which is only logged. -/
def startBLEAdvertisementHandler (env : Commissioning) (t : AppTask) :
    AppTask × List Effect :=
  if env.fabricCount ≠ 0 then (t, [])
  else if env.isBLEAdvertisingEnabled then (t, [])
  else (t, [.openBasicCommissioningWindow])

/-- `UpdateLedStateEventHandler` redraws the LED in the mode it is in. -/
def dispatchEvent (cfg : Config) (env : Commissioning) (t : AppTask)
    (event : AppEvent) : AppTask × List Effect :=
  match event.handler with
  | some .buttonPushHandler => t.buttonPushHandler cfg env event
  | some .buttonReleaseHandler => t.buttonReleaseHandler cfg env event
  | some .timerEventHandler => t.timerEventHandler cfg event
  | some .startBLEAdvertisementHandler => t.startBLEAdvertisementHandler env
  | some .updateLedStateEventHandler => (t, [])
  | some .identifyStart =>
      ({ t with
          sIdentifyLED := .blinking kIdentifyBlinkRate kIdentifyBlinkRate }, [])
  | some .identifyStop => ({ t with sIdentifyLED := .steady false }, [])
  | none => (t, [])

end AppTask

end SmartHome.LightSwitch
