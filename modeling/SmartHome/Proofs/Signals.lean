import Mathlib.Data.List.Basic
import SmartHome.Proofs.Position

/-!
# Whatever is registered

One callback is registered, and four more are there to be. This is about all
of them: for whichever of them are registered, for whatever events, and
however late their lambdas run.

Each call schedules one lambda, which sends one event. So the events that
were sent and those that are still to come are the calls in their order, and
none is lost, doubled or overtaken. The position is the one that goes with
the last event sent, and all that is sent is sent for the endpoint that
`app_main` has made.
-/

namespace SmartHome.UnderCounter

open Machine AppDriver

/-! ## Signals -/

/-- What an event says, apart from its counts. -/
inductive Signal where
  | initialPress
  | longPress
  | shortRelease
  | longRelease
  | multiPressOngoing
  | multiPressComplete
deriving DecidableEq, Repr

namespace Signal

def newPosition : Signal → UInt8
  | .initialPress | .longPress | .multiPressOngoing => 1
  | .shortRelease | .longRelease | .multiPressComplete => 0

def lambda (endpoint : UInt16) : Signal → Lambda
  | .initialPress => .initialPressed endpoint.toNat 1
  | .longPress => .longPressed endpoint.toNat 1
  | .shortRelease => .shortRelease endpoint.toNat 1 0
  | .longRelease => .longRelease endpoint.toNat 1 0
  | .multiPressOngoing => .multipressOngoing endpoint.toNat 1
  | .multiPressComplete => .multipressComplete endpoint.toNat 1 0

end Signal

def SwitchEvent.signal : SwitchEvent → Signal
  | .initialPress .. => .initialPress
  | .longPress .. => .longPress
  | .shortRelease .. => .shortRelease
  | .longRelease .. => .longRelease
  | .multiPressOngoing .. => .multiPressOngoing
  | .multiPressComplete .. => .multiPressComplete

def SwitchEvent.endpoint : SwitchEvent → UInt16
  | .initialPress endpoint _ | .longPress endpoint _
  | .shortRelease endpoint _ | .longRelease endpoint _
  | .multiPressOngoing endpoint _ _ | .multiPressComplete endpoint _ _ =>
      endpoint

/-- The new position of a press and the previous one of a release. -/
def SwitchEvent.position : SwitchEvent → UInt8
  | .initialPress _ position | .longPress _ position
  | .shortRelease _ position | .longRelease _ position
  | .multiPressOngoing _ position _ | .multiPressComplete _ position _ =>
      position

def Lambda.signal : Lambda → Signal
  | .initialPressed .. => .initialPress
  | .longPressed .. => .longPress
  | .shortRelease .. => .shortRelease
  | .longRelease .. => .longRelease
  | .multipressOngoing .. => .multiPressOngoing
  | .multipressComplete .. => .multiPressComplete

/-- What a callback is there to send. -/
def Callback.signal (ticksTime : Nat) : Callback → Signal
  | .initialPressed => .initialPress
  | .release => if ticksTime < 5000 then .shortRelease else .longRelease
  | .longPressed => .longPress
  | .multipressOngoing => .multiPressOngoing
  | .multipressComplete => .multiPressComplete

/-- What is to be sent of an event of the driver. -/
def Wiring.signal? (wiring : Wiring) (event : ButtonEvent) :
    Option Signal :=
  (wiring.lookup event.kind).map (Callback.signal event.ticksTime)

def AppDriver.signals (s : AppDriver) : List Signal :=
  s.events.map SwitchEvent.signal

/-- The position is the last signal's, and all was sent for the button's
endpoint and with the position pressed. -/
structure Sent (endpoint : UInt16) (s : AppDriver) : Prop where
  position : s.currentPosition =
    (s.signals.getLast?.map Signal.newPosition).getD 0
  endpoint : ∀ event ∈ s.events, event.endpoint = endpoint
  pressed : ∀ event ∈ s.events, event.position = 1

/-! ## A callback, and a lambda -/

section Step

variable {button : GpioButton} {endpoint : UInt16} {s : AppDriver}

theorem call_signal (h : Wired button endpoint s) (ticksTime : Nat)
    (callback : Callback) :
    let r := callback.call s (some button) ticksTime
    r.2 = [(callback.signal ticksTime).lambda endpoint] ∧
      Wired button endpoint r.1 ∧ r.1.events = s.events ∧
      r.1.currentPosition = s.currentPosition := by
  have hid := h.switchEndpointId
  cases callback with
  | initialPressed | longPressed =>
      refine ⟨?_, h, rfl, rfl⟩
      simp only [Callback.call, initialPressed, longPressed, hid]
      rfl
  | release =>
      simp only [Callback.call, release, hid, Callback.signal]
      by_cases hshort : ticksTime < 5000
      · rw [if_pos hshort, if_pos hshort]
        exact ⟨rfl, h, rfl, rfl⟩
      · rw [if_neg hshort, if_neg hshort]
        exact ⟨rfl, h, rfl, rfl⟩
  | multipressOngoing | multipressComplete =>
      refine ⟨?_, ⟨h.buttonList, h.genericSwitch⟩, rfl, rfl⟩
      simp only [Callback.call, multipressOngoing, multipressComplete, hid]
      rfl

theorem work_lambda (h : Wired button endpoint s) (signal : Signal) :
    ∃ event, (s.work (signal.lambda endpoint)).events = s.events ++ [event] ∧
      event.signal = signal ∧ event.endpoint = endpoint ∧
      event.position = 1 ∧
      (s.work (signal.lambda endpoint)).currentPosition =
        signal.newPosition := by
  have hset := h.setCurrentPosition
  have hend := toEndpointId_toNat endpoint
  cases signal <;>
    · simp only [Signal.lambda, AppDriver.work, hset, hend, send]
      exact ⟨_, rfl, rfl, rfl, rfl, rfl⟩

theorem Sent.concat {s' : AppDriver} {event : SwitchEvent}
    (h : Sent endpoint s) (hevents : s'.events = s.events ++ [event])
    (hendpoint : event.endpoint = endpoint) (hpressed : event.position = 1)
    (hposition : s'.currentPosition = event.signal.newPosition) :
    Sent endpoint s' := by
  constructor
  case position =>
    rw [signals, hevents, List.map_append, List.map_singleton,
      List.getLast?_concat, hposition]
    rfl
  case endpoint =>
    rw [hevents]
    intro e he
    rcases List.mem_append.mp he with he | he
    · exact h.endpoint e he
    · rw [List.mem_singleton.mp he, hendpoint]
  case pressed =>
    rw [hevents]
    intro e he
    rcases List.mem_append.mp he with he | he
    · exact h.pressed e he
    · rw [List.mem_singleton.mp he, hpressed]

theorem signal_lambda (signal : Signal) :
    (signal.lambda endpoint).signal = signal := by
  cases signal <;> rfl

structure Signalling (button : GpioButton) (endpoint : UInt16)
    (s : AppDriver) : Prop where
  wired : Wired button endpoint s
  sent : Sent endpoint s

def IsSignal (endpoint : UInt16) (l : Lambda) : Prop :=
  ∃ signal : Signal, l = signal.lambda endpoint

theorem Signalling.deliver (h : Signalling button endpoint s)
    (wiring : Wiring) (event : ButtonEvent) :
    Signalling button endpoint
        (deliver wiring (some button) s event).1 ∧
      (deliver wiring (some button) s event).1.signals = s.signals ∧
      (∀ l ∈ (deliver wiring (some button) s event).2,
        IsSignal endpoint l) ∧
      (deliver wiring (some button) s event).2.map Lambda.signal =
        (wiring.signal? event).toList := by
  rw [UnderCounter.deliver, Wiring.signal?]
  cases wiring.lookup event.kind with
  | none => exact ⟨h, rfl, by simp, rfl⟩
  | some callback =>
      obtain ⟨hlambda, hwired, hevents, hposition⟩ :=
        call_signal h.wired event.ticksTime callback
      refine ⟨⟨hwired, ?_, ?_, ?_⟩, congrArg (List.map _) hevents, ?_, ?_⟩
      · rw [signals, hevents]
        exact hposition.trans h.sent.position
      · rw [hevents]
        exact h.sent.endpoint
      · rw [hevents]
        exact h.sent.pressed
      · intro l hl
        rw [hlambda] at hl
        exact ⟨_, List.mem_singleton.mp hl⟩
      · rw [hlambda, List.map_singleton, signal_lambda]
        rfl

theorem Signalling.work (h : Signalling button endpoint s) {l : Lambda}
    (hl : IsSignal endpoint l) :
    Signalling button endpoint (s.work l) ∧
      (s.work l).signals = s.signals ++ [l.signal] := by
  obtain ⟨signal, rfl⟩ := hl
  obtain ⟨event, hevents, rfl, hendpoint, hpressed, hposition⟩ :=
    work_lambda h.wired signal
  refine ⟨⟨h.wired.work _,
    h.sent.concat hevents hendpoint hpressed hposition⟩, ?_⟩
  rw [signals, hevents, signal_lambda, List.map_append, List.map_singleton]
  rfl

end Step

/-! ## Runs -/

theorem signalling_init (button : GpioButton) (endpoint : UInt16) :
    Signalling button endpoint (appMain button endpoint).state :=
  ⟨⟨rfl, rfl⟩, rfl, by simp [appMain], by simp [appMain]⟩

/-- Whichever callback is registered for each event, and however late the
lambdas run: what was sent, followed by what is still to be, is what the
calls are there to send, in their order. -/
theorem signals_in_order (wiring : Wiring) (button : GpioButton)
    (endpoint : UInt16) (inputs : List Input) :
    let d := run (step wiring button) (appMain button endpoint) inputs
    d.state.signals ++ d.pending.map Lambda.signal =
        (Deferred.callbacks inputs).filterMap wiring.signal? ∧
      Sent endpoint d.state := by
  intro d
  obtain ⟨hinv, -, haccount⟩ :=
    Deferred.account (fun _ event h => h.deliver wiring event)
      (fun _ _ h hl => h.work hl) (signalling_init button endpoint)
      (fun _ hl => absurd hl List.not_mem_nil) inputs
  refine ⟨?_, hinv.sent⟩
  rw [List.filterMap_eq_flatMap_toList]
  exact haccount

end SmartHome.UnderCounter
