import SmartHome.Proofs.Edges
import SmartHome.Proofs.Expiries
import SmartHome.Spec.Hold

/-!
# One outcome per hold of the function button

The description of the button in `Spec/Hold.lean` gives every hold at most
one outcome. The firmware keeps the phase of a hold in `mFunction`, which
has two values for the description's four phases: a button that is up, one
that was just pushed and one whose hold already reset the device all read
`NoneSelected`, and `SoftwareUpdate` is the same value again. So a release
after the reset starts the update server, `update_after_reset`.

It is the only way to get a second outcome, provided that no post fails and
that no expiry is dispatched after its timer was restarted or cancelled.
Then an expiry that is dispatched is one the description knows of: of each
start of the timer at most one expiry is ever under way, running or queued,
and a hold whose windows are over has none. `HoldInv` says that, with
`Hold.Phase.left` for the number, and as long as no release finds the device
already reset the outcomes in the record are the description's answers.
-/

namespace SmartHome.LightSwitch

open Zephyr Machine

/-! ## The record, seen as a hold -/

def AppEvent.holdLetter? (e : AppEvent) : Option Hold.Letter :=
  match e.kind with
  | .pushed functionButton => some .push
  | .released functionButton => some .release
  | .expired .function => some .expiry
  | _ => none

def Effect.outcome? : Effect → Option Hold.Outcome
  | .startServer => some .softwareUpdate
  | .factoryResetCanceled => some .resetCanceled
  | .scheduleFactoryReset => some .factoryReset
  | _ => none

def Dispatch.outcomes (d : Dispatch) : List Hold.Outcome :=
  d.effects.filterMap Effect.outcome?

def holdLetters (dispatched : List Dispatch) : List Hold.Letter :=
  dispatched.filterMap (·.event.holdLetter?)

/-- The phase the dispatched events put the hold in. -/
def holdPhase (dispatched : List Dispatch) : Hold.Phase :=
  run Hold.next .up (holdLetters dispatched)

/-- From a dispatched push to the next dispatched release inclusive, there is
at most one outcome. -/
def OneOutcome (dispatched : List Dispatch) : Prop :=
  ∀ pre p mid post, dispatched = pre ++ p :: (mid ++ post) →
    p.event.edge? functionButton = some .push →
    (∀ d ∈ mid.dropLast, d.event.edge? functionButton ≠ some .release) →
    ((p :: mid).flatMap Dispatch.outcomes).length ≤ 1

/-- No release of the function button is dispatched once both windows of its
hold are over, that is, after two expiries of the function timer since the
push. -/
def ReleasedInTime (s : System) (i : Input) : Prop :=
  i = .dispatch → ∀ e ∈ s.task.sAppEventQueue.msgs.head?,
    e.edge? functionButton = some .release →
      holdPhase s.dispatched ≠ .fired

instance : DecidableRel ReleasedInTime := fun _ _ =>
  inferInstanceAs (Decidable (_ → ∀ e ∈ _, _ → _))

theorem holdPhase_concat_none {ds : List Dispatch} {d : Dispatch}
    (h : d.event.holdLetter? = none) :
    holdPhase (ds ++ [d]) = holdPhase ds := by
  have hletters : holdLetters (ds ++ [d]) = holdLetters ds :=
    word_concat_none h
  rw [holdPhase, hletters, holdPhase]

theorem holdPhase_concat_some {ds : List Dispatch} {d : Dispatch}
    {l : Hold.Letter} (h : d.event.holdLetter? = some l) :
    holdPhase (ds ++ [d]) = Hold.next (holdPhase ds) l := by
  have hletters : holdLetters (ds ++ [d]) = holdLetters ds ++ [l] :=
    word_concat_some h
  rw [holdPhase, hletters, run_concat, holdPhase]

theorem holdLetter_push {e : AppEvent} :
    e.holdLetter? = some .push ↔ e.kind = .pushed functionButton := by
  unfold AppEvent.holdLetter?
  split <;> simp_all

theorem holdLetter_release {e : AppEvent} :
    e.holdLetter? = some .release ↔ e.kind = .released functionButton := by
  unfold AppEvent.holdLetter?
  split <;> simp_all

theorem holdLetter_expiry {e : AppEvent} :
    e.holdLetter? = some .expiry ↔ e.kind = .expired .function := by
  unfold AppEvent.holdLetter?
  split <;> simp_all

/-! ## What a dispatch does to the hold -/

section Dispatch

variable {cfg : Config} (env : Commissioning) (t : AppTask) {e : AppEvent}

theorem outcomes_noLetter (h : e.holdLetter? = none) :
    (t.dispatchEvent cfg env e).2.filterMap Effect.outcome? = [] := by
  refine List.filterMap_eq_nil_iff.mpr fun x hx => ?_
  have hk := AppTask.kind_of_effect cfg env t hx
  cases x with
  | initiateActionSwitch | dimmerChangeBrightness
  | openBasicCommissioningWindow => rfl
  | startServer | factoryResetCanceled =>
      cases h.symm.trans (holdLetter_release.mpr hk)
  | scheduleFactoryReset => cases h.symm.trans (holdLetter_expiry.mpr hk)

theorem dispatchEvent_noLetter (h : e.holdLetter? = none) :
    (t.dispatchEvent cfg env e).1.sFunctionTimer = t.sFunctionTimer ∧
      (t.dispatchEvent cfg env e).1.mFunction = t.mFunction := by
  apply AppTask.dispatchEvent_cases cfg env t e (motive := fun r =>
    r.1.sFunctionTimer = t.sFunctionTimer ∧ r.1.mFunction = t.mFunction)
  case functionPushed =>
    intro hk
    cases h.symm.trans (holdLetter_push.mpr hk)
  case functionReleased =>
    intro hk
    cases h.symm.trans (holdLetter_release.mpr hk)
  case functionExpired =>
    intro hk
    cases h.symm.trans (holdLetter_expiry.mpr hk)
  case advertises =>
    intro _ _
    obtain ⟨q, n, hp⟩ := t.postEvent_frame
      (AppTask.startBLEAdvertisementEvent switchButton)
    rw [hp]
    exact ⟨rfl, rfl⟩
  all_goals
    intros
    exact ⟨rfl, rfl⟩

/-- A release has the outcome of the window it falls into, `mFunction`
permitting. -/
theorem functionButtonReleased_outcomes (hbt : cfg.mcumgrTransportBt = true) :
    (t.functionButtonReleased cfg).2.filterMap Effect.outcome? =
      match t.mFunction with
      | .noneSelected => [.softwareUpdate]
      | .factoryReset => [.resetCanceled] := by
  unfold AppTask.functionButtonReleased
  cases hm : t.mFunction with
  | noneSelected =>
      rw [if_pos rfl]
      dsimp only
      rw [if_pos hbt]
      rfl
  | factoryReset =>
      rw [if_neg (by decide), if_pos rfl]
      rfl

end Dispatch

/-! ## The invariant -/

/-- The outcomes are the description's answer. A release without a push, of
a button held down since the start, is left out. -/
def AnsweredIn (earlier : List Dispatch) (d : Dispatch) : Prop :=
  (d.event.holdLetter? = some .release → holdPhase earlier ≠ .up) →
    d.outcomes =
      (d.event.holdLetter?.bind (Hold.answer (holdPhase earlier))).toList

structure HoldInv (s : System) : Prop where
  armed : s.task.Armed .function (holdPhase s.dispatched).left
  countdown : s.task.mFunction = .factoryReset ↔
    holdPhase s.dispatched = .countdown
  answered : EachAfter AnsweredIn s.dispatched

section Arms

variable {cfg : Config} {t : AppTask} {p : Hold.Phase}

/-- A release answers as described, unless the hold is over. -/
theorem release_answers (hbt : cfg.mcumgrTransportBt = true)
    (hcountdown : t.mFunction = .factoryReset ↔ p = .countdown)
    (hup : p ≠ .up) (hfired : p ≠ .fired) :
    (t.functionButtonReleased cfg).2.filterMap Effect.outcome? =
      (Hold.answer p .release).toList := by
  rw [functionButtonReleased_outcomes _ hbt]
  cases p with
  | up => exact absurd rfl hup
  | fired => exact absurd rfl hfired
  | held =>
      have hnone : t.mFunction = .noneSelected := by
        cases hm : t.mFunction with
        | noneSelected => rfl
        | factoryReset => cases hcountdown.mp hm
      rw [hnone]
      rfl
  | countdown =>
      rw [hcountdown.mpr rfl]
      rfl

/-- An expiry that was under way moves the hold on. -/
theorem expiry_moves {e : AppEvent}
    {q : MsgQueue AppEvent kAppEventQueueSize}
    (hmsgs : t.sAppEventQueue.msgs = e :: q.msgs)
    (hbounded : t.Bounded .function) (harmed : t.Armed .function p.left)
    (hcountdown : t.mFunction = .factoryReset ↔ p = .countdown)
    (hlatest : e.generation? .function =
      some (t.timer .function).generation)
    {r : AppTask × List Effect}
    (hr : { t with sAppEventQueue := q }.functionTimerExpired cfg = r) :
    r.1.Armed .function (Hold.next p .expiry).left ∧
      (r.1.mFunction = .factoryReset ↔ Hold.next p .expiry = .countdown) ∧
      r.2.filterMap Effect.outcome? = (Hold.answer p .expiry).toList := by
  obtain ⟨m, hleft, htaken⟩ := harmed.takenFresh hmsgs hlatest
  subst hr
  cases p with
  | up | fired => cases hleft
  | held =>
      rcases AppTask.functionTimerExpired_eq cfg
        { t with sAppEventQueue := q } with ⟨-, _, _, _, hr⟩ | ⟨hm, -⟩
      · rw [hr]
        exact ⟨(hbounded.taken hmsgs).started rfl rfl, iff_of_true rfl rfl,
          rfl⟩
      · cases hcountdown.mp hm
  | countdown =>
      obtain rfl : m = 0 := (Nat.succ.inj hleft).symm
      rcases AppTask.functionTimerExpired_eq cfg
        { t with sAppEventQueue := q } with ⟨hm, -⟩ | ⟨-, hr⟩
      · cases hm.symm.trans (hcountdown.mpr rfl)
      · rw [hr]
        refine ⟨htaken.append rfl (List.append_nil _).symm
            (List.forall_mem_nil _),
          iff_of_false FunctionEvent.noConfusion Hold.Phase.noConfusion, rfl⟩

end Arms

/-- The four kinds of dispatch, for a phase `p`: the timer's expiries under
way, `mFunction` and the outcomes follow the description. -/
theorem hold_dispatchEvent {cfg : Config} (hbt : cfg.mcumgrTransportBt = true)
    (env : Commissioning) {t : AppTask} {e : AppEvent}
    {q : MsgQueue AppEvent kAppEventQueueSize} {p : Hold.Phase}
    (hmsgs : t.sAppEventQueue.msgs = e :: q.msgs)
    (hbounded : t.Bounded .function) (harmed : t.Armed .function p.left)
    (hcountdown : t.mFunction = .factoryReset ↔ p = .countdown)
    (hfresh : ∀ generation ∈ e.generation? .function,
      generation = (t.timer .function).generation)
    {r : AppTask × List Effect}
    (hr : AppTask.dispatchEvent cfg env { t with sAppEventQueue := q } e = r) :
    let p' := (e.holdLetter?.map (Hold.next p)).getD p
    r.1.Armed .function p'.left ∧
      (r.1.mFunction = .factoryReset ↔ p' = .countdown) ∧
      ((e.holdLetter? = some .release → p ≠ .up ∧ p ≠ .fired) →
        r.2.filterMap Effect.outcome? =
          (e.holdLetter?.bind (Hold.answer p)).toList) := by
  have hbounded' := hbounded.taken hmsgs
  subst hr
  cases hl : e.holdLetter? with
  | none =>
      obtain ⟨htimer, hfunction⟩ :=
        dispatchEvent_noLetter env { t with sAppEventQueue := q } hl
      obtain ⟨posted, hq, hposted⟩ := AppTask.queue_dispatchEvent cfg env
        { t with sAppEventQueue := q } e
      refine ⟨?_, ?_, fun _ => outcomes_noLetter env _ hl⟩
      · refine (harmed.taken hmsgs).append htimer hq fun e' he' => ?_
        rw [hposted e' he']
        rfl
      · rw [hfunction]
        exact hcountdown
  | some l =>
      dsimp only [Option.map_some, Option.getD_some, Option.bind_some]
      cases l with
      | push =>
          rw [AppTask.dispatchEvent_functionPushed _ _ _
            (holdLetter_push.mp hl), Hold.next_push, Hold.answer_push]
          exact ⟨hbounded'.started rfl rfl,
            iff_of_false FunctionEvent.noConfusion Hold.Phase.noConfusion,
            fun _ => rfl⟩
      | release =>
          rw [AppTask.dispatchEvent_functionReleased _ _ _
            (holdLetter_release.mp hl), Hold.next_release]
          have hanswers : p ≠ .up → p ≠ .fired → _ :=
            release_answers (t := { t with sAppEventQueue := q }) hbt
              hcountdown
          obtain ⟨_, _, _, hr, -⟩ := AppTask.functionButtonReleased_eq cfg
            { t with sAppEventQueue := q }
          rw [hr] at hanswers ⊢
          exact ⟨hbounded'.stopped rfl rfl,
            iff_of_false FunctionEvent.noConfusion Hold.Phase.noConfusion,
            fun hrelease => hanswers (hrelease rfl).1 (hrelease rfl).2⟩
      | expiry =>
          obtain ⟨g, hg⟩ := generation_of_expired (holdLetter_expiry.mp hl)
          obtain ⟨harmed', hfunction, hanswer⟩ := expiry_moves hmsgs hbounded
            harmed hcountdown (by rw [hg, hfresh g hg])
            (AppTask.dispatchEvent_functionExpired cfg env _
              (holdLetter_expiry.mp hl)).symm
          exact ⟨harmed', hfunction, fun _ => hanswer⟩

theorem HoldInv.step {cfg : Config} (hbt : cfg.mcumgrTransportBt = true)
    {s : System} {i : Input} (h : HoldInv s)
    (hbounded : s.task.Bounded .function)
    (hfresh : DispatchesFresh .function s i) (hheld : ReleasedInTime s i) :
    HoldInv (s.step cfg i) := by
  by_cases hi : i = .dispatch
  case neg =>
    obtain ⟨hfunction, -, hdispatched⟩ := step_frame cfg s hi
    refine ⟨?_, ?_, ?_⟩
    · rw [hdispatched]
      exact armed_step cfg h.armed hi
    · rw [hfunction, hdispatched]
      exact h.countdown
    · rw [hdispatched]
      exact h.answered
  subst hi
  rw [System.step]
  rcases AppTask.dispatch_cases cfg s with ⟨-, hs⟩ |
    ⟨e, q, t, effects, hmsgs, hr, hs⟩
  · rw [hs]
    exact h
  have hhead : e ∈ s.task.sAppEventQueue.msgs.head? := by
    rw [hmsgs]
    rfl
  obtain ⟨harmed, hcountdown, houtcomes⟩ := hold_dispatchEvent hbt
    s.commissioning hmsgs hbounded h.armed h.countdown (hfresh rfl e hhead) hr
  have hphase : holdPhase (s.dispatched ++ [⟨e, effects⟩]) =
      (e.holdLetter?.map (Hold.next (holdPhase s.dispatched))).getD
        (holdPhase s.dispatched) := by
    cases hl : e.holdLetter? with
    | none => exact holdPhase_concat_none hl
    | some l => exact holdPhase_concat_some hl
  rw [hs]
  refine ⟨?_, ?_, eachAfter_concat.mpr ⟨h.answered, fun hup => ?_⟩⟩
  · rw [hphase]
    exact harmed
  · rw [hphase]
    exact hcountdown
  · refine houtcomes fun hrelease => ⟨hup hrelease, hheld rfl e hhead ?_⟩
    exact edge_release.mpr (holdLetter_release.mp hrelease)

theorem holdInv_boot (cfg : Config) (buttonState : BitVec 32) :
    HoldInv (System.boot cfg buttonState) := by
  obtain ⟨status, factoryReset, hinit⟩ := AppTask.updateStatusLED_eq cfg {}
  rw [System.boot, AppTask.init, hinit]
  exact ⟨⟨fun r hr => absurd hr.symm (Option.some_ne_none r), Nat.le_refl _⟩,
    iff_of_false FunctionEvent.noConfusion Hold.Phase.noConfusion,
    eachAfter_nil _⟩

/-! ## From the record to the hold -/

theorem next_ne_up {p : Hold.Phase} (hp : p ≠ .up) {l : Hold.Letter}
    (hl : l ≠ .release) : Hold.next p l ≠ .up := by
  cases l with
  | push => simp
  | release => exact absurd rfl hl
  | expiry => cases p <;> simp_all [Hold.next]

/-- Up to the first release, the outcomes of some dispatches are those of
their letters. -/
theorem outcomes_letters {pre mid : List Dispatch}
    (h : EachAfter AnsweredIn (pre ++ mid)) (hup : holdPhase pre ≠ .up)
    (hmid : ∀ d ∈ mid.dropLast,
      d.event.edge? functionButton ≠ some .release) :
    mid.flatMap Dispatch.outcomes =
      Hold.outcomes (holdPhase pre) (holdLetters mid) := by
  induction mid generalizing pre with
  | nil => rfl
  | cons d mid ih =>
      have hd := h pre d mid rfl fun _ => hup
      have hmid' : ∀ d' ∈ mid.dropLast,
          d'.event.edge? functionButton ≠ some .release := by
        intro d' hd'
        cases mid with
        | nil => cases hd'
        | cons x xs => exact hmid d' (List.mem_cons_of_mem d hd')
      rw [List.append_cons] at h
      rw [List.flatMap_cons, hd]
      cases hl : d.event.holdLetter? with
      | none =>
          have hphase : holdPhase (pre ++ [d]) = holdPhase pre :=
            holdPhase_concat_none hl
          have hletters : holdLetters (d :: mid) = holdLetters mid :=
            List.filterMap_cons_none hl
          rw [ih h (hphase.symm ▸ hup) hmid', hphase, hletters]
          rfl
      | some l =>
          have hphase : holdPhase (pre ++ [d]) = Hold.next (holdPhase pre) l :=
            holdPhase_concat_some hl
          have hletters : holdLetters (d :: mid) = l :: holdLetters mid :=
            List.filterMap_cons_some hl
          rw [hletters, Hold.outcomes, ← hphase]
          refine congrArg _ ?_
          cases mid with
          | nil => rfl
          | cons x xs =>
              refine ih h ?_ hmid'
              rw [hphase]
              refine next_ne_up hup ?_
              intro heq
              subst heq
              exact hmid d List.mem_cons_self
                (edge_release.mpr (holdLetter_release.mp hl))

theorem HoldInv.oneOutcome {s : System} (h : HoldInv s)
    (hedges : EdgesInv functionButton s) : OneOutcome s.dispatched := by
  intro pre p mid post hd hp hmid
  have hletter : p.event.holdLetter? = some .push :=
    holdLetter_push.mpr (edge_push.mp hp)
  have hphase : holdPhase (pre ++ [p]) = .held := by
    rw [holdPhase_concat_some hletter, Hold.next_push]
  have hnone : p.outcomes = [] := by
    have hanswer := h.answered pre p (mid ++ post) hd fun hr => by
      rw [hletter] at hr
      cases hr
    rw [hanswer, hletter, Option.bind_some, Hold.answer_push]
    rfl
  have hrecord : EachAfter AnsweredIn ((pre ++ [p]) ++ mid) := by
    have hanswered := h.answered
    rw [hd, List.append_cons, ← List.append_assoc] at hanswered
    exact hanswered.of_append
  rw [List.flatMap_cons, hnone, List.nil_append,
    outcomes_letters hrecord (by rw [hphase]; decide) hmid]
  refine Hold.outcomes_le_one _ fun hpush => ?_
  obtain ⟨d, hdm, hl⟩ := List.mem_filterMap.mp hpush
  have hedge : d.event.edge? functionButton = some .push :=
    edge_push.mpr (holdLetter_push.mp hl)
  obtain ⟨m₁, m₂, rfl⟩ := List.append_of_mem hdm
  have hd' : s.dispatched = pre ++ p :: (m₁ ++ d :: (m₂ ++ post)) := by
    rw [hd, List.append_assoc, List.cons_append]
  have hm₁ : ∀ d' ∈ m₁, d'.event.edge? functionButton ≠ some .release := by
    intro d' hmem
    refine hmid d' ?_
    rw [List.dropLast_append_of_ne_nil (List.cons_ne_nil d m₂)]
    exact List.mem_append_left _ hmem
  exact (hedges.between hd' hp hm₁).2 hedge

/-- In every run in which no post fails, no expiry of the function timer is
dispatched stale and no release finds the device already reset, each hold of
the function button has at most one outcome. -/
theorem one_outcome (cfg : Config) (hbt : cfg.mcumgrTransportBt = true)
    (buttonState : BitVec 32) (inputs : List Input)
    (hposts : (System.after cfg buttonState inputs).task.failedPosts = 0)
    (hfresh : Along (System.step cfg) (DispatchesFresh .function)
      (System.boot cfg buttonState) inputs)
    (hheld : Along (System.step cfg) ReleasedInTime
      (System.boot cfg buttonState) inputs) :
    OneOutcome (System.after cfg buttonState inputs).dispatched := by
  have hinv := @run_inv_along _ _ (System.step cfg)
    (fun s i => DispatchesFresh .function s i ∧ ReleasedInTime s i)
    (fun s => s.task.Bounded .function ∧ HoldInv s)
    (fun s i hs hi => ⟨bounded_step cfg hs.1 i,
      hs.2.step hbt hs.1 hi.1 hi.2⟩)
    _ ⟨bounded_boot cfg buttonState .function, holdInv_boot cfg buttonState⟩
    inputs (hfresh.and hheld)
  exact hinv.2.oneOutcome
    (edgesInv_after (Or.inl rfl) cfg buttonState inputs hposts)

/-- Held through the first window and cancelled in the second, then pushed
again and let go at once. -/
theorem one_outcome_two_holds :
    let cfg : Config := ⟨false, true, true, true⟩
    let inputs : List Input := [.buttons 1, .dispatch, .timerExpiry .function,
      .dispatch, .buttons 0, .dispatch, .buttons 1, .dispatch, .buttons 0,
      .dispatch]
    OneOutcome (System.after cfg 0 inputs).dispatched ∧
      (System.after cfg 0 inputs).dispatched.flatMap Dispatch.outcomes =
        [.resetCanceled, .softwareUpdate] :=
  ⟨one_outcome _ rfl 0 _ (by decide) (by decide) (by decide), by decide⟩

/-- Held through both windows: the reset fires, and letting go of the button
starts the update server. -/
theorem update_after_reset :
    let cfg : Config := ⟨false, true, true, true⟩
    let inputs : List Input := [.buttons 1, .dispatch, .timerExpiry .function,
      .dispatch, .timerExpiry .function, .dispatch, .buttons 0, .dispatch]
    (System.after cfg 0 inputs).task.failedPosts = 0 ∧
      Along (System.step cfg) (DispatchesFresh .function)
        (System.boot cfg 0) inputs ∧
      (System.after cfg 0 inputs).dispatched.map Dispatch.outcomes =
        [[], [], [.factoryReset], [.softwareUpdate]] ∧
      ¬ OneOutcome (System.after cfg 0 inputs).dispatched := by
  refine ⟨by decide, by decide, by decide, fun h => ?_⟩
  have hle := h [] ⟨AppTask.pushEvent functionButton, []⟩
    [⟨AppTask.timerEvent .function 1, []⟩,
      ⟨AppTask.timerEvent .function 2, [.scheduleFactoryReset]⟩,
      ⟨AppTask.releaseEvent functionButton, [.startServer]⟩] []
    (by decide) (by decide) (by decide)
  exact absurd hle (by decide)

end SmartHome.LightSwitch
