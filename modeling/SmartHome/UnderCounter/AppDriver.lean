import SmartHome.Machine.Deferred

/-!
# Under-counter switch: the button driver

`app_driver.cpp`. The button driver calls the functions that were registered
for an event, and each of them schedules a lambda which sets the position
attribute of the switch's endpoint and sends an event. What a lambda has
captured is in its constructor; what it reads when it runs, the two counts of
presses, is in the state.

`appDriverButtonInit` lists the registrations. All but the first are comments
in the source, and stand in `commentedOut`. The count of the multi-press
callbacks is a global, and the total a local variable of the callback that
is `static`, so that it is given a value the first time the callback runs and
never again. Both are an `int`, of 32 bits on this chip, and an overflow, which
the language leaves undefined, wraps here; the events take a `uint8_t`, so the
lower eight bits are what is sent.
-/

namespace SmartHome.UnderCounter

open Machine

/-! ## Events of the driver -/

/-- The events of `iot_button.h` that a callback was meant for. -/
inductive ButtonEventKind where
  | pressDown
  | pressUp
  | longPressStart
  | pressRepeat
  | pressRepeatDone
deriving DecidableEq, Repr

structure ButtonEvent where
  kind : ButtonEventKind
  /-- What `iot_button_get_ticks_time` says then. -/
  ticksTime : Nat := 0
deriving DecidableEq, Repr

/-- A `gpio_button *`, which is only ever compared. -/
abbrev GpioButton := Nat

structure ButtonEndpoint where
  button : GpioButton
  endpoint : UInt16
deriving DecidableEq, Repr

/-- The calls of the `send_…` functions, with what each is handed. -/
inductive SwitchEvent where
  | initialPress (endpoint : UInt16) (newPosition : UInt8)
  | longPress (endpoint : UInt16) (newPosition : UInt8)
  | shortRelease (endpoint : UInt16) (previousPosition : UInt8)
  | longRelease (endpoint : UInt16) (previousPosition : UInt8)
  | multiPressOngoing (endpoint : UInt16) (newPosition : UInt8)
      (currentNumberOfPressesCounted : UInt8)
  | multiPressComplete (endpoint : UInt16) (previousPosition : UInt8)
      (totalNumberOfPressesCounted : UInt8)
deriving DecidableEq, Repr

structure AppDriver where
  buttonList : List ButtonEndpoint
  genericSwitchEndpointId : UInt16
  /-- The attribute of the generic switch. -/
  currentPosition : UInt8 := 0
  events : List SwitchEvent := []
  currentNumberOfPressesCounted : Int32 := 1
  /-- `none` until the callback runs for the first time. -/
  totalNumberOfPressesCounted : Option Int32 := none
deriving DecidableEq, Repr

namespace AppDriver

/-- `get_endpoint` -/
def getEndpoint (s : AppDriver) (button : GpioButton) : Int :=
  match s.buttonList.find? (·.button == button) with
  | some entry => entry.endpoint.toNat
  | none => -1

/-- `(button != NULL) ? get_endpoint(button) : 1` -/
def switchEndpointId (s : AppDriver) (data : Option GpioButton) : Int :=
  match data with
  | some button => s.getEndpoint button
  | none => 1

/-- The conversion of an `int` to an `EndpointId`. -/
def toEndpointId (n : Int) : UInt16 := UInt16.ofNat (n % 65536).toNat

/-- The conversion of an `int` to the `uint8_t` of a multi-press event. -/
def toCount (n : Int32) : UInt8 := n.toUInt32.toUInt8

/-- `CurrentPosition::Set`. Nobody looks at the error for an endpoint that
has no such attribute. -/
def setCurrentPosition (endpoint : Int) (position : UInt8) (s : AppDriver) :
    AppDriver :=
  if toEndpointId endpoint = s.genericSwitchEndpointId then
    { s with currentPosition := position }
  else s

def send (event : SwitchEvent) (s : AppDriver) : AppDriver :=
  { s with events := s.events ++ [event] }

end AppDriver

/-! ## The lambdas -/

inductive Lambda where
  | initialPressed (switchEndpointId : Int) (newPosition : UInt8)
  | shortRelease (switchEndpointId : Int)
      (previousPosition newPosition : UInt8)
  | longRelease (switchEndpointId : Int)
      (previousPosition newPosition : UInt8)
  | longPressed (switchEndpointId : Int) (newPosition : UInt8)
  | multipressOngoing (switchEndpointId : Int) (newPosition : UInt8)
  | multipressComplete (switchEndpointId : Int)
      (previousPosition newPosition : UInt8)
deriving DecidableEq, Repr

namespace AppDriver

/-- A lambda runs. -/
def work (s : AppDriver) : Lambda → AppDriver
  | .initialPressed id newPosition =>
      (s.setCurrentPosition id newPosition).send
        (.initialPress (toEndpointId id) newPosition)
  | .shortRelease id previousPosition newPosition =>
      (s.setCurrentPosition id newPosition).send
        (.shortRelease (toEndpointId id) previousPosition)
  | .longRelease id previousPosition newPosition =>
      (s.setCurrentPosition id newPosition).send
        (.longRelease (toEndpointId id) previousPosition)
  | .longPressed id newPosition =>
      (s.setCurrentPosition id newPosition).send
        (.longPress (toEndpointId id) newPosition)
  | .multipressOngoing id newPosition =>
      (s.setCurrentPosition id newPosition).send
        (.multiPressOngoing (toEndpointId id) newPosition
          (toCount s.currentNumberOfPressesCounted))
  | .multipressComplete id previousPosition newPosition =>
      let s := (s.setCurrentPosition id newPosition).send
        (.multiPressComplete (toEndpointId id) previousPosition
          (toCount (s.totalNumberOfPressesCounted.getD 0)))
      { s with currentNumberOfPressesCounted := 1 }

/-! ## The callbacks -/

def initialPressed (s : AppDriver) (data : Option GpioButton) :
    AppDriver × List Lambda :=
  (s, [.initialPressed (s.switchEndpointId data) 1])

def release (s : AppDriver) (data : Option GpioButton) (ticksTime : Nat) :
    AppDriver × List Lambda :=
  if ticksTime < 5000 then
    (s, [.shortRelease (s.switchEndpointId data) 1 0])
  else (s, [.longRelease (s.switchEndpointId data) 1 0])

def longPressed (s : AppDriver) (data : Option GpioButton) :
    AppDriver × List Lambda :=
  (s, [.longPressed (s.switchEndpointId data) 1])

def multipressOngoing (s : AppDriver) (data : Option GpioButton) :
    AppDriver × List Lambda :=
  ({ s with
      currentNumberOfPressesCounted := s.currentNumberOfPressesCounted + 1 },
    [.multipressOngoing (s.switchEndpointId data) 1])

def multipressComplete (s : AppDriver) (data : Option GpioButton) :
    AppDriver × List Lambda :=
  ({ s with
      totalNumberOfPressesCounted :=
        match s.totalNumberOfPressesCounted with
        | some total => some total
        | none => some s.currentNumberOfPressesCounted },
    [.multipressComplete (s.switchEndpointId data) 1 0])

end AppDriver

/-- The functions `app_driver_button_…`. -/
inductive Callback where
  | initialPressed
  | release
  | longPressed
  | multipressOngoing
  | multipressComplete
deriving DecidableEq, Repr

def Callback.call (s : AppDriver) (data : Option GpioButton)
    (ticksTime : Nat) : Callback → AppDriver × List Lambda
  | .initialPressed => s.initialPressed data
  | .release => s.release data ticksTime
  | .longPressed => s.longPressed data
  | .multipressOngoing => s.multipressOngoing data
  | .multipressComplete => s.multipressComplete data

/-! ## The registrations -/

abbrev Wiring := List (ButtonEventKind × Callback)

def appDriverButtonInit : Wiring := [(.pressDown, .initialPressed)]

def commentedOut : Wiring :=
  [(.pressUp, .release), (.longPressStart, .longPressed),
    (.pressRepeat, .multipressOngoing),
    (.pressRepeatDone, .multipressComplete)]

/-- The driver calls what is registered for an event. -/
def deliver (wiring : Wiring) (data : Option GpioButton) (s : AppDriver)
    (event : ButtonEvent) : AppDriver × List Lambda :=
  match wiring.lookup event.kind with
  | some callback => callback.call s data event.ticksTime
  | none => (s, [])

abbrev Input := Deferred.Input ButtonEvent

/-- The button driver and the event loop, for the button that `app_main`
passes to `app_driver_button_init`. -/
def step (wiring : Wiring) (button : GpioButton) :
    Deferred AppDriver Lambda → Input → Deferred AppDriver Lambda :=
  Deferred.step (deliver wiring (some button)) AppDriver.work

/-- What `app_main` leaves: one button, and the endpoint made for it. -/
def appMain (button : GpioButton) (endpoint : UInt16) :
    Deferred AppDriver Lambda where
  state :=
    { buttonList := [{ button, endpoint }]
      genericSwitchEndpointId := endpoint }

end SmartHome.UnderCounter
