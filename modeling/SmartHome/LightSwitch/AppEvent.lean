import SmartHome.Zephyr.Kernel

/-!
# Light switch: events, buttons and build options

The vocabulary of `app_event.h`, `app_config.h` and the constants at the top
of `app_task.cpp`. The event union is a sum of its members, and a handler is
named rather than pointed at, so that an event can be compared.
-/

namespace SmartHome.LightSwitch

open Zephyr

def kFactoryResetTriggerTimeout : Nat := 3000
def kFactoryResetCancelWindowTimeout : Nat := 3000
def kDimmerTriggeredTimeout : Nat := 500
def kDimmerInterval : Nat := 300
def kAppEventQueueSize : Nat := 10

/-! The LED rates of the `LedConsts` namespaces, in milliseconds. -/

def kBlinkRate : Nat := 500
def kIdentifyBlinkRate : Nat := 500
def kUnprovisionedOn : Nat := 100
def kUnprovisionedOff : Nat := 100
def kProvisionedOn : Nat := 50
def kProvisionedOff : Nat := 950

/-- The build options the application code branches on. -/
structure Config where
  /-- `NUMBER_OF_BUTTONS == 2`; the other build has four. -/
  twoButtons : Bool
  /-- `NUMBER_OF_LEDS == 4`. -/
  fourLeds : Bool
  /-- `CONFIG_STATE_LEDS`. -/
  stateLeds : Bool
  /-- `CONFIG_MCUMGR_TRANSPORT_BT`. -/
  mcumgrTransportBt : Bool
deriving DecidableEq, Repr

/-- The development kit's buttons, as the DK library numbers them. -/
inductive DkButton where
  | btn1
  | btn2
  | btn3
  | btn4
deriving DecidableEq, Repr

/-- `DK_BTNx`, the button's bit in the DK library's button state. -/
def DkButton.bit : DkButton → Nat
  | .btn1 => 0
  | .btn2 => 1
  | .btn3 => 2
  | .btn4 => 3

/-- `DK_BTNx_MSK`. -/
def DkButton.msk (b : DkButton) : BitVec 32 := BitVec.twoPow 32 b.bit

@[match_pattern] abbrev functionButton : DkButton := .btn1

/-- `SWITCH_BUTTON` of the four-button build, and the pin the two-button
build calls `BLE_ADVERTISEMENT_START_AND_SWITCH_BUTTON`. -/
@[match_pattern] abbrev switchButton : DkButton := .btn2

abbrev bleAdvertisementStartButton : DkButton := .btn4

inductive AppEventType where
  | none
  | button
  | buttonPushed
  | buttonReleased
  | timer
  | updateLedState
  | identifyStart
  | identifyStop
deriving DecidableEq, Repr

/-- `FunctionEvent` is declared `{ NoneSelected = 0, SoftwareUpdate = 0,
FactoryReset }`: it has two values, and the first has two names. -/
inductive FunctionEvent where
  | noneSelected
  | factoryReset
deriving DecidableEq, Repr

/-- The second name of the value 0. -/
abbrev FunctionEvent.softwareUpdate : FunctionEvent := .noneSelected

inductive Timer where
  | function
  | dimmerTrigger
  | dimmer
deriving DecidableEq, Repr

inductive Led where
  | status
  | identify
  | factoryReset
deriving DecidableEq, Repr

/-- The functions an event may name as its handler, the two Identify lambdas
included. -/
inductive EventHandler where
  | buttonPushHandler
  | buttonReleaseHandler
  | timerEventHandler
  | startBLEAdvertisementHandler
  | updateLedStateEventHandler
  | identifyStart
  | identifyStop
deriving DecidableEq, Repr

/-- The anonymous union of `AppEvent`. A timer event also carries the
generation of the timer that expired, which no handler reads: it says which
start the expiry came from. -/
inductive EventData where
  | unset
  | buttonEvent (pinNo : DkButton) (action : AppEventType)
  | timerEvent (timerType : Timer) (generation : Nat)
  | updateLedStateEvent (ledWidget : Led)
deriving DecidableEq, Repr

structure AppEvent where
  type : AppEventType := .none
  data : EventData := .unset
  handler : Option EventHandler
deriving DecidableEq, Repr

/-- What a `LEDWidget` was last told: `Set` makes it steady, `Blink` makes it
blink. -/
inductive LedMode where
  | steady (on : Bool)
  | blinking (onMs offMs : Nat)
deriving DecidableEq, Repr

/-- `LightSwitch::Action`. -/
inductive Action where
  | toggle
  | on
  | off
deriving DecidableEq, Repr

/-- What a handler does that can be seen from outside the application task,
in the order it does it. -/
inductive Effect where
  | initiateActionSwitch (action : Action)
  | dimmerChangeBrightness
  | scheduleFactoryReset
  /-- `GetDFUOverSMP().StartServer()`. -/
  | startServer
  /-- The log line "Factory Reset has been canceled". -/
  | factoryResetCanceled
  | openBasicCommissioningWindow
deriving DecidableEq, Repr

/-! ## Reading an event

An event is the push or the release of a button when the button handlers
would take a button's branch on it: type, union member and handler all have
to agree. Likewise an event is the expiry of a timer. -/

inductive EventKind where
  | pushed (pinNo : DkButton)
  | released (pinNo : DkButton)
  | expired (timer : Timer)
  | other
deriving DecidableEq, Repr

def AppEvent.kind (e : AppEvent) : EventKind :=
  match e.type, e.handler, e.data with
  | .button, some .buttonPushHandler, .buttonEvent pinNo _ => .pushed pinNo
  | .button, some .buttonReleaseHandler, .buttonEvent pinNo _ =>
      .released pinNo
  | .timer, some .timerEventHandler, .timerEvent timer _ => .expired timer
  | _, _, _ => .other

inductive Edge where
  | push
  | release
deriving DecidableEq, Repr

/-- The edge of button `b` an event reports. -/
def AppEvent.edge? (b : DkButton) (e : AppEvent) : Option Edge :=
  match e.kind with
  | .pushed pinNo => if pinNo = b then some .push else none
  | .released pinNo => if pinNo = b then some .release else none
  | _ => none

/-- The last edge of button `b` among some events. -/
def lastEdge (b : DkButton) (events : List AppEvent) : Option Edge :=
  (events.filterMap (·.edge? b)).getLast?

end SmartHome.LightSwitch
