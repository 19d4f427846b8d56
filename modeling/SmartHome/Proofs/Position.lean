import SmartHome.UnderCounter.AppDriver

/-!
# What the switch reports of its button

Only the callback for `BUTTON_PRESS_DOWN` is registered. It does nothing but
schedule its lambda, so delays do not matter, and once the lambdas have run
the switch has reported every press, and is in position 1 if there was one.
Of a release it knows nothing, although the endpoint is declared to have the
release, long-press and multi-press features and the callbacks for them are
there.

`Reports` is what was wanted, as an equality of two words: the presses and
releases that were sent are the edges of the button, in their order. It holds
exactly as long as the button has not come up.
-/

namespace SmartHome.UnderCounter

open Machine AppDriver

/-! ## Edges -/

inductive Edge where
  | press
  | release
deriving DecidableEq, Repr

def ButtonEvent.edge? (event : ButtonEvent) : Option Edge :=
  match event.kind with
  | .pressDown => some .press
  | .pressUp => some .release
  | _ => none

def SwitchEvent.edge? : SwitchEvent → Option Edge
  | .initialPress .. => some .press
  | .shortRelease .. | .longRelease .. => some .release
  | _ => none

/-- Pressed or idle, by the last edge. -/
def positionAfter (edges : List Edge) : UInt8 :=
  match edges.getLast? with
  | some .press => 1
  | _ => 0

/-- The switch once everything that is scheduled after `inputs` has run. -/
def settled (button : GpioButton) (endpoint : UInt16) (inputs : List Input) :
    AppDriver :=
  (run (step appDriverButtonInit button) (appMain button endpoint)
    inputs).settle AppDriver.work

/-- The position is that of the button's last edge, and every press was sent
as one, followed by one release for the button's own. -/
def Reports (button : GpioButton) (endpoint : UInt16)
    (inputs : List Input) : Prop :=
  let edges := (Deferred.callbacks inputs).filterMap ButtonEvent.edge?
  (settled button endpoint inputs).currentPosition = positionAfter edges ∧
    (settled button endpoint inputs).events.filterMap SwitchEvent.edge? =
      edges

/-! ## The endpoint of the button -/

/-- What `app_main` has set up and nothing changes. -/
structure Wired (button : GpioButton) (endpoint : UInt16) (s : AppDriver) :
    Prop where
  buttonList : s.buttonList = [{ button, endpoint }]
  genericSwitch : s.genericSwitchEndpointId = endpoint

section Wired

variable {button : GpioButton} {endpoint : UInt16} {s : AppDriver}

theorem setCurrentPosition_wired (h : Wired button endpoint s) (id : Int)
    (position : UInt8) :
    Wired button endpoint (s.setCurrentPosition id position) := by
  unfold setCurrentPosition
  split
  · exact ⟨h.buttonList, h.genericSwitch⟩
  · exact h

theorem Wired.work (h : Wired button endpoint s) (l : Lambda) :
    Wired button endpoint (s.work l) := by
  have hset := setCurrentPosition_wired h
  cases l with
  | initialPressed id position | longPressed id position
  | multipressOngoing id position =>
      exact ⟨(hset id position).buttonList, (hset id position).genericSwitch⟩
  | shortRelease id _ position | longRelease id _ position
  | multipressComplete id _ position =>
      exact ⟨(hset id position).buttonList, (hset id position).genericSwitch⟩

theorem toEndpointId_toNat (endpoint : UInt16) :
    toEndpointId (endpoint.toNat : Int) = endpoint := by
  have hlt := endpoint.toNat_lt
  unfold toEndpointId
  rw [Int.emod_eq_of_lt (by omega) (by omega), Int.toNat_natCast,
    UInt16.ofNat_toNat]

theorem Wired.switchEndpointId (h : Wired button endpoint s) :
    s.switchEndpointId (some button) = endpoint.toNat := by
  simp [AppDriver.switchEndpointId, getEndpoint, h.buttonList]

/-- On its own endpoint, a position is set. -/
theorem Wired.setCurrentPosition (h : Wired button endpoint s)
    (position : UInt8) :
    s.setCurrentPosition endpoint.toNat position =
      { s with currentPosition := position } := by
  rw [AppDriver.setCurrentPosition, toEndpointId_toNat, h.genericSwitch,
    if_pos rfl]

end Wired

/-! ## The presses -/

def ButtonEvent.isPressDown (event : ButtonEvent) : Bool :=
  event.kind == .pressDown

/-- What the one callback that is registered schedules. -/
def pressed (endpoint : UInt16) : Lambda := .initialPressed endpoint.toNat 1

def jobs (endpoint : UInt16) (event : ButtonEvent) : List Lambda :=
  if event.isPressDown then [pressed endpoint] else []

theorem deliver_init {button : GpioButton} {endpoint : UInt16}
    {s : AppDriver} (h : Wired button endpoint s) (event : ButtonEvent) :
    deliver appDriverButtonInit (some button) s event =
      (s, jobs endpoint event) := by
  obtain ⟨kind, ticksTime⟩ := event
  cases kind with
  | pressDown =>
      show Callback.call s (some button) ticksTime .initialPressed = _
      rw [Callback.call, initialPressed, h.switchEndpointId]
      rfl
  | pressUp | longPressStart | pressRepeat | pressRepeatDone => rfl

theorem flatMap_jobs (endpoint : UInt16) (events : List ButtonEvent) :
    events.flatMap (jobs endpoint) =
      List.replicate (events.countP ButtonEvent.isPressDown)
        (pressed endpoint) := by
  induction events with
  | nil => rfl
  | cons event events ih =>
      rw [List.flatMap_cons, ih, List.countP_cons, jobs]
      by_cases h : event.isPressDown
      · rw [if_pos h, if_pos h, List.replicate_succ]
        rfl
      · rw [if_neg h, if_neg h]
        rfl

/-- Every press is sent, and the first already sets the position. -/
theorem work_presses {button : GpioButton} {endpoint : UInt16} (n : Nat)
    {s : AppDriver} (h : Wired button endpoint s) :
    (List.replicate n (pressed endpoint)).foldl AppDriver.work s =
      { s with
        currentPosition := if n = 0 then s.currentPosition else 1
        events := s.events ++
          List.replicate n (.initialPress endpoint 1) } := by
  induction n generalizing s with
  | zero => simp
  | succ n ih =>
      have hwork : s.work (pressed endpoint) =
          { s with
            currentPosition := 1
            events := s.events ++ [.initialPress endpoint 1] } := by
        rw [pressed, AppDriver.work, h.setCurrentPosition,
          toEndpointId_toNat, send]
      rw [List.replicate_succ, List.foldl_cons, ih (h.work _), hwork,
        List.replicate_succ]
      simp

theorem settled_eq (button : GpioButton) (endpoint : UInt16)
    (inputs : List Input) :
    let n := (Deferred.callbacks inputs).countP ButtonEvent.isPressDown
    (settled button endpoint inputs).currentPosition =
        (if n = 0 then 0 else 1) ∧
      (settled button endpoint inputs).events =
        List.replicate n (.initialPress endpoint 1) := by
  intro n
  have hwired : Wired button endpoint (appMain button endpoint).state :=
    ⟨rfl, rfl⟩
  have hsettle : settled button endpoint inputs = _ :=
    Deferred.settle_run (fun _ event h => deliver_init h event)
      (fun _ l h => h.work l) hwired inputs
  have hidle : (appMain button endpoint).settle AppDriver.work =
      (appMain button endpoint).state := rfl
  rw [flatMap_jobs, hidle] at hsettle
  rw [hsettle, work_presses _ hwired]
  exact ⟨rfl, List.nil_append _⟩

/-! ## Releases -/

/-- As long as the button has not come up, its edges are its presses. -/
theorem edges_of_no_release {events : List ButtonEvent}
    (h : ∀ event ∈ events, event.kind ≠ .pressUp) :
    events.filterMap ButtonEvent.edge? =
      List.replicate (events.countP ButtonEvent.isPressDown) .press := by
  induction events with
  | nil => rfl
  | cons event events ih =>
      obtain ⟨hevent, hevents⟩ := List.forall_mem_cons.mp h
      have hrest := ih hevents
      obtain ⟨kind, ticksTime⟩ := event
      cases kind with
      | pressDown =>
          simp [ButtonEvent.edge?, ButtonEvent.isPressDown,
            List.replicate_succ, hrest]
      | pressUp => exact absurd rfl hevent
      | longPressStart | pressRepeat | pressRepeatDone =>
          rw [List.filterMap_cons_none (f := ButtonEvent.edge?) rfl, hrest]
          rfl

theorem release_mem_edges {events : List ButtonEvent} {event : ButtonEvent}
    (hmem : event ∈ events) (hkind : event.kind = .pressUp) :
    Edge.release ∈ events.filterMap ButtonEvent.edge? := by
  refine List.mem_filterMap.mpr ⟨event, hmem, ?_⟩
  rw [ButtonEvent.edge?, hkind]

/-- The switch reports its button exactly as long as that has not come up,
whatever the delays. -/
theorem reports_iff (button : GpioButton) (endpoint : UInt16)
    (inputs : List Input) :
    Reports button endpoint inputs ↔
      ∀ event ∈ Deferred.callbacks inputs, event.kind ≠ .pressUp := by
  obtain ⟨hposition, hevents⟩ := settled_eq button endpoint inputs
  have hsent : SwitchEvent.edge? (.initialPress endpoint 1) = some .press :=
    rfl
  rw [Reports, hposition, hevents, List.filterMap_replicate_of_some hsent]
  constructor
  · intro h event hmem hkind
    have hrelease := release_mem_edges hmem hkind
    rw [← h.2] at hrelease
    exact Edge.noConfusion (List.eq_of_mem_replicate hrelease)
  · intro h
    rw [edges_of_no_release h]
    refine ⟨?_, rfl⟩
    cases hn : (Deferred.callbacks inputs).countP ButtonEvent.isPressDown with
    | zero => rfl
    | succ n =>
        rw [positionAfter, List.getLast?_replicate]
        simp

/-- Down, up, and the one lambda that was scheduled runs: the switch stays
in position 1. -/
theorem position_does_not_follow :
    ¬ ∀ (button : GpioButton) (endpoint : UInt16) (inputs : List Input),
      Reports button endpoint inputs := by
  intro h
  have hposition := (h 0 1 [.callback { kind := .pressDown },
    .callback { kind := .pressUp, ticksTime := 100 }, .work]).1
  exact absurd hposition (by decide)

end SmartHome.UnderCounter
