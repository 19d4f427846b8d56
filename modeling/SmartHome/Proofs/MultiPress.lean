import Mathlib.Data.List.Basic
import SmartHome.Machine.Watch
import SmartHome.Spec.MultiPress
import SmartHome.UnderCounter.AppDriver

/-!
# The counts of the multi-press handlers

The count of presses is stepped in the driver's callback, but sent, and set
back to one, by lambdas that run whenever their turn comes. The total is the
count as it was the first time a gesture ended. And what is sent of either is
eight bits. So the handlers count right as long as no repeat overtakes a
lambda of theirs, no gesture comes to 256 presses, and every gesture has as
many presses as the first one: `Orderly` is that condition on a single
callback.

What is due when the lambdas run can then be read off the two counts now, and
with what has been sent it makes up what was promised. `Counted` says that,
with what it takes to keep it. A repeat is only let in while nothing of theirs
is pending, so an ongoing count is always sent before the gesture's end is,
and while an end is pending the driver has told of no press of the next
gesture but the first.
-/

namespace SmartHome.UnderCounter

open Machine MultiPress AppDriver

/-- Every registration of `app_driver_button_init`. -/
def fullWiring : Wiring := appDriverButtonInit ++ commentedOut

/-! ## What the driver tells and what is sent -/

def ButtonEvent.letter? (event : ButtonEvent) : Option Letter :=
  match event.kind with
  | .pressRepeat => some .repeated
  | .pressRepeatDone => some .done
  | _ => none

def SwitchEvent.report? : SwitchEvent → Option Report
  | .multiPressOngoing _ _ presses => some (.ongoing presses.toNat)
  | .multiPressComplete _ _ presses => some (.complete presses.toNat)
  | _ => none

def Lambda.isOngoing : Lambda → Bool
  | .multipressOngoing .. => true
  | _ => false

def Lambda.isComplete : Lambda → Bool
  | .multipressComplete .. => true
  | _ => false

/-- A lambda of the two handlers. -/
def Lambda.isMultipress (l : Lambda) : Bool := l.isOngoing || l.isComplete

def AppDriver.reports (s : AppDriver) : List Report :=
  s.events.filterMap SwitchEvent.report?

/-- The gestures that the driver has told of, noted beside the program. -/
def note (g : Gestures) (_ : Deferred AppDriver Lambda) : Input → Gestures
  | .callback event =>
      match event.letter? with
      | some l => g.read l
      | none => g
  | .work => g

abbrev Watched := Deferred AppDriver Lambda × Gestures

def watchedStep (button : GpioButton) : Watched → Input → Watched :=
  watch (step fullWiring button) note

/-- What was sent is the beginning of what was promised, and for every report
that is missing its lambda is pending. -/
structure Faithful (x : Watched) : Prop where
  sent : x.1.state.reports <+: x.2.promised
  missing : x.2.promised.length =
    x.1.state.reports.length + x.1.pending.countP Lambda.isMultipress

/-- A repeat is not the 256th press of its gesture and comes when no lambda of
the handlers is pending, and a gesture ends with as many presses as the first
one had. -/
def Orderly (x : Watched) : Input → Prop
  | .callback event =>
      (event.kind = .pressRepeat → x.2.repeats + 2 < 256 ∧
          ∀ l ∈ x.1.pending, l.isMultipress = false) ∧
        (event.kind = .pressRepeatDone →
          ∀ repeats ∈ x.2.completed.head?, x.2.repeats = repeats)
  | .work => True

/-! ## Work -/

/-- What a lambda is going to send, by the counts as they are. -/
def Lambda.due (current total : Int32) : Lambda → Option Report
  | .multipressOngoing .. => some (.ongoing (toCount current).toNat)
  | .multipressComplete .. => some (.complete (toCount total).toNat)
  | _ => none

def AppDriver.due (s : AppDriver) (l : Lambda) : Option Report :=
  l.due s.currentNumberOfPressesCounted
    (s.totalNumberOfPressesCounted.getD 0)

theorem toNat_toCount {n : Nat} (h : n < 256) :
    (toCount (Int32.ofNat n)).toNat = n := by
  rw [toCount, Int32.toUInt32_ofNat', UInt32.toNat_toUInt8,
    UInt32.toNat_ofNat']
  omega

section Work

variable {s : AppDriver} {l : Lambda}

@[simp] theorem reports_setCurrentPosition (id : Int) (position : UInt8) :
    (s.setCurrentPosition id position).reports = s.reports := by
  unfold setCurrentPosition
  split <;> rfl

@[simp] theorem current_setCurrentPosition (id : Int) (position : UInt8) :
    (s.setCurrentPosition id position).currentNumberOfPressesCounted =
      s.currentNumberOfPressesCounted := by
  unfold setCurrentPosition
  split <;> rfl

@[simp] theorem total_setCurrentPosition (id : Int) (position : UInt8) :
    (s.setCurrentPosition id position).totalNumberOfPressesCounted =
      s.totalNumberOfPressesCounted := by
  unfold setCurrentPosition
  split <;> rfl

theorem reports_send (event : SwitchEvent) :
    (s.send event).reports = s.reports ++ event.report?.toList := by
  rw [AppDriver.reports, send, List.filterMap_append]
  cases h : event.report? <;> simp [h, AppDriver.reports]

theorem reports_work :
    (s.work l).reports = s.reports ++ (s.due l).toList := by
  cases l with
  | initialPressed | longPressed | multipressOngoing =>
      rw [AppDriver.work, reports_send, reports_setCurrentPosition]
      rfl
  | shortRelease | longRelease =>
      rw [AppDriver.work, reports_send, reports_setCurrentPosition]
      rfl
  | multipressComplete id previousPosition newPosition =>
      -- The count that is set back afterwards is not in the record.
      show ((s.setCurrentPosition id newPosition).send _).reports = _
      rw [reports_send, reports_setCurrentPosition]
      rfl

theorem current_work :
    (s.work l).currentNumberOfPressesCounted =
      if l.isComplete then 1 else s.currentNumberOfPressesCounted := by
  cases l <;> simp [AppDriver.work, send, Lambda.isComplete]

theorem total_work :
    (s.work l).totalNumberOfPressesCounted =
      s.totalNumberOfPressesCounted := by
  cases l <;> simp [AppDriver.work, send]

end Work

/-! ## The invariant -/

/-- What has been sent and what is due make up what was promised. -/
structure Counted (s : AppDriver) (pending : List Lambda) (g : Gestures) :
    Prop where
  promised : s.reports ++ pending.filterMap s.due = g.promised
  order : pending.Pairwise fun a b =>
    a.isComplete = true → b.isOngoing = false
  /-- While the end of a gesture is pending, the next has not gone on. -/
  ended : ∀ l ∈ pending, l.isComplete = true →
    g.repeats = 0 ∧ g.completed ≠ []
  small : g.repeats + 1 < 256
  current : (∀ l ∈ pending, l.isComplete = false) →
    s.currentNumberOfPressesCounted = .ofNat (g.repeats + 1)
  total : s.totalNumberOfPressesCounted =
    g.completed.head?.map fun repeats => .ofNat (repeats + 1)

theorem due_of_not_multipress {s : AppDriver} {l : Lambda}
    (h : l.isMultipress = false) : s.due l = none := by
  cases l <;> first | rfl | exact Bool.noConfusion h

theorem isSome_due (s : AppDriver) (l : Lambda) :
    (s.due l).isSome = l.isMultipress := by
  cases l <;> rfl

/-- What is due hangs on the current count for a lambda of the one kind, and
on the total for one of the other. -/
theorem due_congr {s s' : AppDriver} {l : Lambda}
    (hcurrent : l.isOngoing = true →
      s.currentNumberOfPressesCounted = s'.currentNumberOfPressesCounted)
    (htotal : l.isComplete = true → s.totalNumberOfPressesCounted.getD 0 =
      s'.totalNumberOfPressesCounted.getD 0) : s.due l = s'.due l := by
  cases l with
  | multipressOngoing =>
      unfold AppDriver.due
      rw [hcurrent rfl]
      rfl
  | multipressComplete =>
      unfold AppDriver.due
      rw [htotal rfl]
      rfl
  | initialPressed | shortRelease | longRelease | longPressed => rfl

namespace Counted

variable {s : AppDriver} {pending : List Lambda} {g : Gestures}

theorem faithful (h : Counted s pending g) :
    Faithful ({ state := s, pending }, g) := by
  constructor
  case sent => exact ⟨_, h.promised⟩
  case missing =>
    have hdue : (pending.filterMap s.due).length =
        pending.countP Lambda.isMultipress := by
      rw [List.length_filterMap_eq_countP]
      simp only [isSome_due]
    rw [← h.promised, List.length_append, hdue]

theorem order_concat {l : Lambda} (h : Counted s pending g)
    (hl : ∀ a ∈ pending, a.isComplete = true → l.isOngoing = false) :
    (pending ++ [l]).Pairwise fun a b =>
      a.isComplete = true → b.isOngoing = false := by
  rw [List.pairwise_append]
  refine ⟨h.order, List.pairwise_singleton _ _, ?_⟩
  intro a ha b hb
  rw [List.mem_singleton.mp hb]
  exact hl a ha

theorem ended_concat {l : Lambda} {P : Prop}
    (h : ∀ k ∈ pending, k.isComplete = true → P)
    (hl : l.isComplete = false) :
    ∀ k ∈ pending ++ [l], k.isComplete = true → P := by
  intro k hk hc
  rcases List.mem_append.mp hk with hk | hk
  · exact h k hk hc
  · rw [List.mem_singleton.mp hk, hl] at hc
    exact Bool.noConfusion hc

theorem work {l : Lambda} (h : Counted s (l :: pending) g) :
    Counted (s.work l) pending g := by
  obtain ⟨hl, horder⟩ := List.pairwise_cons.mp h.order
  constructor
  case promised =>
    -- The lambda has sent what was due of it, and nothing else is touched,
    -- since no ongoing count comes after an end.
    have hrest : pending.filterMap (s.work l).due =
        pending.filterMap s.due := by
      apply List.filterMap_congr
      intro k hk
      apply due_congr
      case hcurrent =>
        intro hongoing
        have hcomplete : l.isComplete = false := by
          cases hc : l.isComplete with
          | false => rfl
          | true =>
              rw [hl k hk hc] at hongoing
              exact Bool.noConfusion hongoing
        rw [current_work, hcomplete]
        rfl
      case htotal =>
        intro _
        rw [total_work]
    rw [← h.promised, hrest, reports_work, List.append_assoc]
    cases hdue : s.due l with
    | none =>
        rw [List.filterMap_cons_none hdue]
        rfl
    | some r =>
        rw [List.filterMap_cons_some hdue]
        rfl
  case order => exact horder
  case ended =>
    intro k hk
    exact h.ended k (List.mem_cons_of_mem l hk)
  case small => exact h.small
  case current =>
    intro hnone
    rw [current_work]
    cases hc : l.isComplete with
    | true =>
        rw [if_pos rfl, (h.ended l List.mem_cons_self hc).1]
        rfl
    | false =>
        rw [if_neg Bool.false_ne_true]
        exact h.current (List.forall_mem_cons.mpr ⟨hc, hnone⟩)
  case total =>
    rw [total_work]
    exact h.total

theorem other {l : Lambda} (h : Counted s pending g)
    (hl : l.isMultipress = false) : Counted s (pending ++ [l]) g := by
  have hkinds : l.isOngoing = false ∧ l.isComplete = false :=
    Bool.or_eq_false_iff.mp hl
  constructor
  case promised =>
    rw [List.filterMap_append,
      List.filterMap_cons_none (due_of_not_multipress hl),
      List.filterMap_nil, List.append_nil]
    exact h.promised
  case order => exact h.order_concat fun _ _ _ => hkinds.1
  case ended => exact ended_concat h.ended hkinds.2
  case small => exact h.small
  case current =>
    intro hnone
    exact h.current fun k hk => hnone k (List.mem_append_left _ hk)
  case total => exact h.total

/-- A repeat, while no lambda of the handlers is pending. -/
theorem repeated {id : Int} (h : Counted s pending g)
    (hsmall : g.repeats + 2 < 256)
    (hnone : ∀ l ∈ pending, l.isMultipress = false) :
    Counted
      { s with
        currentNumberOfPressesCounted := s.currentNumberOfPressesCounted + 1 }
      (pending ++ [.multipressOngoing id 1]) (g.read .repeated) := by
  have hnocomplete (l : Lambda) (hl : l ∈ pending) : l.isComplete = false :=
    (Bool.or_eq_false_iff.mp (hnone l hl)).2
  have hcurrent : s.currentNumberOfPressesCounted + 1 =
      .ofNat (g.repeats + 2) := by
    rw [h.current hnocomplete]
    exact (Int32.ofNat_add (g.repeats + 1) 1).symm
  have hdue (s : AppDriver) : pending.filterMap s.due = [] :=
    List.filterMap_eq_nil_iff.mpr fun l hl =>
      due_of_not_multipress (hnone l hl)
  constructor
  case promised =>
    rw [g.promised_repeated, ← h.promised, hdue, List.append_nil,
      List.filterMap_append, hdue, List.nil_append]
    show s.reports ++
      [.ongoing (toCount (s.currentNumberOfPressesCounted + 1)).toNat] = _
    rw [hcurrent, toNat_toCount hsmall]
  case order =>
    apply h.order_concat
    intro a ha hc
    rw [hnocomplete a ha] at hc
    exact Bool.noConfusion hc
  case ended =>
    refine ended_concat (fun k hk hc => ?_) rfl
    rw [hnocomplete k hk] at hc
    exact Bool.noConfusion hc
  case small => exact hsmall
  case current =>
    intro _
    exact hcurrent
  case total => exact h.total

/-- The total after the end of a gesture that has as many presses as the
first one, or is the first. -/
theorem total_done (h : Counted s pending g)
    (hsame : ∀ repeats ∈ g.completed.head?, g.repeats = repeats) :
    (s.multipressComplete none).1.totalNumberOfPressesCounted =
      some (.ofNat (g.repeats + 1)) := by
  have htotal := h.total
  unfold multipressComplete
  cases hfirst : g.completed with
  | nil =>
      have hnone (l : Lambda) (hl : l ∈ pending) : l.isComplete = false := by
        cases hc : l.isComplete with
        | false => rfl
        | true => exact absurd hfirst (h.ended l hl hc).2
      rw [hfirst] at htotal
      simp only [htotal, List.head?_nil, Option.map_none]
      rw [h.current hnone]
  | cons r rs =>
      rw [hfirst] at htotal hsame
      simp only [htotal, List.head?_cons, Option.map_some]
      rw [hsame r rfl]

theorem done {id : Int} (data : Option GpioButton)
    (h : Counted s pending g)
    (hsame : ∀ repeats ∈ g.completed.head?, g.repeats = repeats) :
    Counted (s.multipressComplete data).1
      (pending ++ [.multipressComplete id 1 0]) (g.read .done) := by
  have htotal : (s.multipressComplete data).1.totalNumberOfPressesCounted =
      some (.ofNat (g.repeats + 1)) := h.total_done hsame
  constructor
  case promised =>
    have hrest : pending.filterMap (s.multipressComplete data).1.due =
        pending.filterMap s.due := by
      apply List.filterMap_congr
      intro l hl
      apply due_congr
      case hcurrent =>
        intro _
        rfl
      case htotal =>
        -- An end that is pending has given the total its value.
        intro hc
        have hold := h.total
        unfold multipressComplete
        cases hfirst : g.completed with
        | nil => exact absurd hfirst (h.ended l hl hc).2
        | cons r rs =>
            rw [hfirst] at hold
            rw [hold]
            rfl
    rw [g.promised_done, ← h.promised, List.filterMap_append, hrest,
      ← List.append_assoc]
    show s.reports ++ pending.filterMap s.due ++ [.complete _] = _
    rw [htotal, Option.getD_some, toNat_toCount h.small]
  case order => exact h.order_concat fun _ _ _ => rfl
  case ended =>
    intro k _ _
    exact ⟨rfl, by simp [Gestures.read]⟩
  case small => exact Nat.one_lt_succ_succ 254
  case current =>
    intro hnone
    have hlast := hnone (.multipressComplete id 1 0) (by simp)
    exact Bool.noConfusion hlast
  case total =>
    rw [htotal, Gestures.read]
    cases hfirst : g.completed with
    | nil => rfl
    | cons r rs =>
        rw [hfirst] at hsame
        rw [hsame r rfl]
        rfl

end Counted

/-! ## Runs -/

def AllCounted (x : Watched) : Prop :=
  Counted x.1.state x.1.pending x.2

theorem counted_step {button : GpioButton} {x : Watched} (h : AllCounted x)
    (input : Input) (hok : Orderly x input) :
    AllCounted (watchedStep button x input) := by
  obtain ⟨⟨s, pending⟩, g⟩ := x
  cases input with
  | work =>
      cases pending with
      | nil => exact h
      | cons l ls => exact Counted.work h
  | callback event =>
      obtain ⟨hrepeat, hdone⟩ := hok
      obtain ⟨kind, ticksTime⟩ := event
      cases kind with
      | pressDown => exact Counted.other h rfl
      | pressUp =>
          show Counted (s.release (some button) ticksTime).1
            (pending ++ (s.release (some button) ticksTime).2) g
          unfold release
          by_cases hshort : ticksTime < 5000
          · rw [if_pos hshort]
            exact Counted.other h rfl
          · rw [if_neg hshort]
            exact Counted.other h rfl
      | longPressStart => exact Counted.other h rfl
      | pressRepeat =>
          obtain ⟨hsmall, hnone⟩ := hrepeat rfl
          exact Counted.repeated h hsmall hnone
      | pressRepeatDone => exact Counted.done (some button) h (hdone rfl)

def watched (button : GpioButton) (endpoint : UInt16) : Watched :=
  (appMain button endpoint, {})

theorem counted_init (button : GpioButton) (endpoint : UInt16) :
    AllCounted (watched button endpoint) := by
  constructor
  case promised => rfl
  case order => exact List.Pairwise.nil
  case ended =>
    intro l hl
    exact absurd hl List.not_mem_nil
  case small => exact Nat.one_lt_succ_succ 254
  case current =>
    intro _
    rfl
  case total => rfl

/-- In every state of a run whose callbacks are orderly, whatever the delays
are otherwise, the counts that were sent are those of the gestures. -/
theorem multipress_counts (button : GpioButton) (endpoint : UInt16)
    (inputs : List Input)
    (h : Along (watchedStep button) Orderly (watched button endpoint)
      inputs) :
    ∀ pre, pre <+: inputs →
      Faithful (run (watchedStep button) (watched button endpoint) pre) := by
  intro pre hpre
  obtain ⟨post, rfl⟩ := hpre
  have hstep (x : Watched) (input : Input) (hx : AllCounted x)
      (hok : Orderly x input) : AllCounted (watchedStep button x input) :=
    counted_step hx input hok
  have hinv := run_inv_along hstep (counted_init button endpoint)
    (along_append.mp h).1
  exact Counted.faithful hinv

instance (x : Watched) : DecidablePred (Orderly x)
  | .callback _ => inferInstanceAs (Decidable (_ ∧ _))
  | .work => inferInstanceAs (Decidable True)

/-- Two gestures of two presses, the last end being still to be sent. -/
theorem multipress_counts_pairs :
    let inputs : List Input := [.callback { kind := .pressRepeat }, .work,
      .callback { kind := .pressRepeatDone }, .work,
      .callback { kind := .pressRepeat }, .work,
      .callback { kind := .pressRepeatDone }]
    let x := run (watchedStep 0) (watched 0 1) inputs
    x.2.promised.length = x.1.state.reports.length + 1 ∧
      x.1.state.reports = [.ongoing 2, .complete 2, .ongoing 2] := by
  intro inputs x
  have hfaithful := multipress_counts 0 1 inputs (by decide) inputs
    (List.prefix_refl inputs)
  exact ⟨hfaithful.missing, by decide⟩

/-- A single press, and then two, with no delay at all: the end of the second
gesture is sent with the presses of the first. -/
theorem multipress_counts_wrong :
    ¬ ∀ (button : GpioButton) (endpoint : UInt16) (inputs : List Input),
      ∀ pre, pre <+: inputs →
        Faithful
          (run (watchedStep button) (watched button endpoint) pre) := by
  intro h
  let inputs : List Input := [.callback { kind := .pressRepeatDone }, .work,
    .callback { kind := .pressRepeat }, .work,
    .callback { kind := .pressRepeatDone }, .work]
  have hsent := (h 0 1 inputs inputs (List.prefix_refl inputs)).sent
  exact absurd hsent (by decide)

end SmartHome.UnderCounter
