import SmartHome.Proofs.SixSeconds
import SmartHome.Spec.Countdown

/-!
# Template: every hold comes to one end

The template's handlers decide from `mFunction` alone, and it has two values,
as the description of the countdown has two phases. So whatever waits in the
queue, whatever was lost on the way there and whenever the timer expires, the
handlers keep to the description: each event is answered as its letter is,
and what is lost is only which press an expiry belongs to. A hold that was
seen from its push to its release has come to exactly one end, and nothing is
ever cancelled or reset outside one.

The LEDs show it. The two that signal a reset are on exactly if the last
thing that happened was one, and the status LED shows the network, unless it
was turned on by a reset.
-/

namespace SmartHome.Template

open Zephyr Machine Countdown
open LightSwitch (Edge LedMode)

/-! ## The record, as the description reads it -/

def AppEvent.countdownLetter? (e : AppEvent) : Option Letter :=
  match e.edge? with
  | some .push => some .push
  | some .release => some .release
  | none =>
      if e.handler = some .functionTimerEventHandler then some .expiry
      else none

def Effect.outcome : Effect → Outcome
  | .scheduleFactoryReset => .reset
  | .factoryResetCanceled => .canceled

def Dispatch.letter? (d : Dispatch) : Option Letter :=
  d.event.countdownLetter?

def Dispatch.outcomes (d : Dispatch) : List Outcome :=
  d.effects.map Effect.outcome

/-- Whether a reset is pending, by the events dispatched so far. -/
def pending (dispatched : List Dispatch) : Phase :=
  run next false (dispatched.filterMap Dispatch.letter?)

def lastOutcome (dispatched : List Dispatch) : Option Outcome :=
  (dispatched.flatMap Dispatch.outcomes).getLast?

/-- From a dispatched push to the first release after it, with no other push
between the two, there is exactly one outcome. -/
def OneOutcomeEach (dispatched : List Dispatch) : Prop :=
  ∀ pre push mid release post,
    dispatched = pre ++ push :: (mid ++ [release]) ++ post →
    push.event.edge? = some .push → release.event.edge? = some .release →
    (∀ d ∈ mid, d.event.edge? = none) →
    ((push :: (mid ++ [release])).flatMap Dispatch.outcomes).length = 1

/-- The device is reset, or a reset cancelled, with a push as the last edge
before it. -/
def NoneOutside (dispatched : List Dispatch) : Prop :=
  EachAfter (fun earlier d => d.effects ≠ [] →
    lastEdge (earlier.map (·.event)) = some .push) dispatched

/-- What `UpdateStatusLED` shows. -/
def AppTask.networkLED (t : AppTask) : LedMode :=
  if t.sIsNetworkProvisioned && t.sIsNetworkEnabled then .steady true
  else if t.sHaveBLEConnections then
    .blinking kUnprovisionedOn kUnprovisionedOff
  else .blinking kProvisionedOn kProvisionedOff

/-- The LEDs that signal a reset and the status LED. -/
structure LedsShow (t : AppTask) (last : Option Outcome) : Prop where
  factoryReset : t.sFactoryResetLEDs = .steady (last == some .reset)
  status : t.sStatusLED = t.networkLED ∨
    (t.sStatusLED = .steady true ∧ last = some .reset)

/-! ## What a dispatch does -/

section Dispatch

variable {t : AppTask} {e : AppEvent}

theorem countdownLetter_push (h : e.countdownLetter? = some .push) :
    e.edge? = some .push := by
  unfold AppEvent.countdownLetter? at h
  split at h
  next hedge => exact hedge
  next => cases h
  next => split at h <;> cases h

theorem countdownLetter_release (h : e.countdownLetter? = some .release) :
    e.edge? = some .release := by
  unfold AppEvent.countdownLetter? at h
  split at h
  next => cases h
  next hedge => exact hedge
  next => split at h <;> cases h

theorem countdownLetter_expiry (h : e.countdownLetter? = some .expiry) :
    e.edge? = none ∧ e.handler = some .functionTimerEventHandler := by
  unfold AppEvent.countdownLetter? at h
  split at h
  next => cases h
  next => cases h
  next hedge =>
    split at h
    next hh => exact ⟨hedge, hh⟩
    next => cases h

theorem countdownLetter_none (h : e.countdownLetter? = none) :
    e.edge? = none ∧ e.handler ≠ some .functionTimerEventHandler := by
  unfold AppEvent.countdownLetter? at h
  split at h
  next => cases h
  next => cases h
  next hedge =>
    split at h
    next => cases h
    next hh => exact ⟨hedge, hh⟩

/-- A release with a reset pending. -/
theorem dispatchEvent_cancels (h : e.edge? = some .release)
    (hm : t.mFunction = .factoryReset) :
    t.dispatchEvent e =
      ({ t.cancelTimer with
          mFunction := .noneSelected
          sStatusLED := t.networkLED
          sFactoryResetLEDs := .steady false }, [.factoryResetCanceled]) := by
  obtain ⟨hh, hd⟩ := edge_release h
  simp only [AppTask.dispatchEvent, hh, AppTask.functionHandler, hd, hm]
  rfl

theorem not_pending {p : Phase}
    (hpending : t.mFunction = .factoryReset ↔ p = true)
    (hm : t.mFunction = .noneSelected) : p = false := by
  rw [hm] at hpending
  exact Bool.eq_false_iff.mpr fun hp =>
    FunctionEvent.noConfusion (hpending.mpr hp)

/-- What the handlers make of an event: the description's phase, its answer,
and the LEDs. -/
theorem dispatchEvent_answers {p : Phase} {last : Option Outcome}
    (hpending : t.mFunction = .factoryReset ↔ p = true)
    (hleds : LedsShow t last) {t' : AppTask} {effects : List Effect}
    (hr : t.dispatchEvent e = (t', effects)) :
    (t'.mFunction = .factoryReset ↔
        (e.countdownLetter?.map (next p)).getD p = true) ∧
      effects.map Effect.outcome =
        (e.countdownLetter?.map (answer p)).getD [] ∧
      LedsShow t' ((effects.map Effect.outcome).getLast?.or last) := by
  cases hl : e.countdownLetter? with
  | none =>
      obtain ⟨hedge, hh⟩ := countdownLetter_none hl
      rw [dispatchEvent_other t hedge hh] at hr
      obtain ⟨rfl, rfl⟩ := Prod.mk.inj hr
      exact ⟨hpending, rfl, hleds⟩
  | some l =>
      cases l with
      | push =>
          rw [dispatchEvent_push t (countdownLetter_push hl)] at hr
          obtain ⟨rfl, rfl⟩ := Prod.mk.inj hr
          exact ⟨iff_of_true rfl rfl, rfl, hleds.factoryReset, hleds.status⟩
      | release =>
          have hedge := countdownLetter_release hl
          cases hm : t.mFunction with
          | factoryReset =>
              rw [hpending.mp hm]
              rw [dispatchEvent_cancels hedge hm] at hr
              obtain ⟨rfl, rfl⟩ := Prod.mk.inj hr
              exact ⟨iff_of_false FunctionEvent.noConfusion Bool.noConfusion,
                rfl, rfl, Or.inl rfl⟩
          | noneSelected =>
              rcases dispatchEvent_release t hedge with ⟨hm', -⟩ | ⟨-, hd⟩
              · exact absurd (hm.symm.trans hm') FunctionEvent.noConfusion
              · obtain ⟨rfl, rfl⟩ := Prod.mk.inj (hd.symm.trans hr)
                rw [not_pending hpending hm]
                exact ⟨iff_of_false (hm ▸ FunctionEvent.noConfusion)
                  Bool.noConfusion, rfl, hleds⟩
      | expiry =>
          obtain ⟨-, hh⟩ := countdownLetter_expiry hl
          rcases dispatchEvent_expiry t hh with ⟨hm, hd⟩ | ⟨hm, hd⟩
          · obtain ⟨rfl, rfl⟩ := Prod.mk.inj (hd.symm.trans hr)
            rw [hpending.mp hm]
            exact ⟨iff_of_false FunctionEvent.noConfusion Bool.noConfusion,
              rfl, rfl, Or.inr ⟨rfl, rfl⟩⟩
          · obtain ⟨rfl, rfl⟩ := Prod.mk.inj (hd.symm.trans hr)
            rw [not_pending hpending hm]
            exact ⟨iff_of_false (hm ▸ FunctionEvent.noConfusion)
              Bool.noConfusion, rfl, hleds⟩

end Dispatch

/-! ## The invariant -/

structure HoldsInv (s : System) : Prop where
  pending : s.task.mFunction = .factoryReset ↔ pending s.dispatched = true
  answered : Answered next answer Dispatch.letter? Dispatch.outcomes false
    s.dispatched
  leds : LedsShow s.task (lastOutcome s.dispatched)

theorem HoldsInv.of_post {s : System} (h : HoldsInv s) (e : AppEvent)
    (buttonState : BitVec 32) :
    HoldsInv { s with task := s.task.postEvent e, buttonState } := by
  obtain ⟨hpending, hanswered, hleds⟩ := h
  rcases postEvent_cases s.task e with ⟨q, ht, -⟩ | ht
  · rw [ht]
    exact ⟨hpending, hanswered, hleds.factoryReset, hleds.status⟩
  · rw [ht]
    exact ⟨hpending, hanswered, hleds.factoryReset, hleds.status⟩

theorem pending_concat (ds : List Dispatch) (d : Dispatch) :
    pending (ds ++ [d]) =
      (d.letter?.map (next (pending ds))).getD (pending ds) := by
  unfold pending
  cases hl : d.letter? with
  | none => rw [word_concat_none hl]; rfl
  | some l => rw [word_concat_some hl, run_concat]; rfl

theorem lastOutcome_concat (ds : List Dispatch) (d : Dispatch) :
    lastOutcome (ds ++ [d]) = d.outcomes.getLast?.or (lastOutcome ds) := by
  simp [lastOutcome, List.getLast?_append]

theorem HoldsInv.dispatch {s : System} (h : HoldsInv s) :
    HoldsInv s.dispatch := by
  rcases dispatch_cases s with hs | ⟨e, q, t, effects, -, hr, hs⟩
  · rw [hs]
    exact h
  obtain ⟨hpending, houtcomes, hleds⟩ :=
    @dispatchEvent_answers { s.task with sAppEventQueue := q } e _ _
      h.pending ⟨h.leds.factoryReset, h.leds.status⟩ t effects hr
  rw [hs]
  refine ⟨?_, eachAfter_concat.mpr ⟨h.answered, houtcomes⟩, ?_⟩
  · rw [pending_concat]
    exact hpending
  · rw [lastOutcome_concat]
    exact hleds

theorem HoldsInv.step {s : System} (h : HoldsInv s) (i : Input) :
    HoldsInv (s.step i) := by
  cases i with
  | buttons buttonState =>
      rw [System.step, AppTask.buttonEventHandler]
      split
      · exact h.of_post _ buttonState
      · exact ⟨h.pending, h.answered, h.leds⟩
  | timerExpiry =>
      rw [System.step, AppTask.timerExpiry]
      split
      · refine HoldsInv.of_post (s := { s with task := { s.task with
          sFunctionTimer := s.task.sFunctionTimer.expire } }) ?_ _ _
        exact ⟨h.pending, h.answered, h.leds.factoryReset, h.leds.status⟩
      · exact h
  | dispatch => exact h.dispatch
  | ledStateUpdate led => exact h.of_post _ s.buttonState
  | chipEvent event =>
      cases event with
      | other => exact h
      | chipoBLEAdvertisingChange | connectivityChange =>
          exact ⟨h.pending, h.answered, h.leds.factoryReset, Or.inl rfl⟩

theorem holdsInv_boot (buttonState : BitVec 32) :
    HoldsInv (System.boot buttonState) :=
  ⟨iff_of_false FunctionEvent.noConfusion Bool.noConfusion, eachAfter_nil _,
    rfl, Or.inl rfl⟩

theorem holdsInv_after (buttonState : BitVec 32) (inputs : List Input) :
    HoldsInv (System.after buttonState inputs) :=
  run_inv (fun _ i h => h.step i) (holdsInv_boot buttonState) inputs

/-! ## What it says of the record -/

theorem oneOutcomeEach_of_answered {dispatched : List Dispatch}
    (h : Answered next answer Dispatch.letter? Dispatch.outcomes false
      dispatched) : OneOutcomeEach dispatched := by
  intro pre push mid release post heq hpush hrelease hmid
  subst heq
  rw [h.segment]
  have hletters : ∀ l ∈ mid.filterMap Dispatch.letter?, l = .expiry := by
    intro l hl
    obtain ⟨d, hd, hletter⟩ := List.mem_filterMap.mp hl
    rw [Dispatch.letter?, AppEvent.countdownLetter?, hmid d hd] at hletter
    dsimp only at hletter
    split at hletter
    · exact (Option.some.inj hletter).symm
    · cases hletter
  have hfirst : push.letter? = some .push := by
    rw [Dispatch.letter?, AppEvent.countdownLetter?, hpush]
  have hlast : release.letter? = some .release := by
    rw [Dispatch.letter?, AppEvent.countdownLetter?, hrelease]
  rw [List.filterMap_cons_some hfirst, word_concat_some hlast]
  exact length_answers_hold _ hletters

/-- A reset is pending only while the last edge is a push. -/
theorem lastEdge_of_pending {dispatched : List Dispatch}
    (h : pending dispatched = true) :
    lastEdge (dispatched.map (·.event)) = some .push := by
  induction dispatched using List.reverseRecOn with
  | nil => cases h
  | append_singleton ds d ih =>
      rw [List.map_append, List.map_singleton, lastEdge_concat]
      rw [pending_concat] at h
      cases hl : d.letter? with
      | none =>
          rw [hl] at h
          rw [(countdownLetter_none hl).1, ih h]
          rfl
      | some l =>
          rw [hl] at h
          cases l with
          | push =>
              rw [countdownLetter_push hl]
              rfl
          | release | expiry => cases h

theorem noneOutside_of_answered {dispatched : List Dispatch}
    (h : Answered next answer Dispatch.letter? Dispatch.outcomes false
      dispatched) : NoneOutside dispatched := by
  intro pre d post heq heffects
  have hd : d.effects.map Effect.outcome = _ := h pre d post heq
  apply lastEdge_of_pending
  cases hpending : pending pre with
  | true => rfl
  | false =>
      rw [← pending, hpending] at hd
      refine absurd (List.map_eq_nil_iff.mp (hd.trans ?_)) heffects
      cases hl : d.letter? with
      | none => rfl
      | some l => cases l <;> rfl

/-- In every run, whatever the order of edges, expiries and dispatches and
whatever posts fail, each hold that was dispatched from its push to its
release has exactly one outcome, there is none outside a hold, and the LEDs
show what the last outcome was. -/
theorem holds_come_to_one_end (buttonState : BitVec 32)
    (inputs : List Input) :
    let s := System.after buttonState inputs
    OneOutcomeEach s.dispatched ∧ NoneOutside s.dispatched ∧
      LedsShow s.task (lastOutcome s.dispatched) := by
  intro s
  have hinv : HoldsInv s := holdsInv_after buttonState inputs
  exact ⟨oneOutcomeEach_of_answered hinv.answered,
    noneOutside_of_answered hinv.answered, hinv.leds⟩

end SmartHome.Template
