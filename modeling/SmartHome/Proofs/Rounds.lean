import SmartHome.Proofs.Redelivery
import SmartHome.Proofs.Service

/-!
# Rounds of recovery, over the life of the device

One user action may lead to any number of rounds of retransmission, as long
as successes come in between. This file is about what the flag does achieve,
and over whole runs, with any number of actions under way at once and the
table changing: two rounds are never started without a success between them,
and a round resends the very data of the command whose time-out started it.

The flag is what the history's last word on recovery was, a round or a
success, and a round is only started while that word is not a round.

So the answers alone decide what is resent. Cut the history at its successes,
and of each stretch take the first command that timed out: those are the
rounds, no more and no less (`toResend`). With the accounts of the handler's
buffers that makes up the fate of every command, `fates_accounted`.
-/

namespace SmartHome.Binding

open Machine
open scoped List

variable {matching : EndpointId → ClusterId → EmberBindingTableEntry → Bool}

/-- What an occurrence says of recovery: that a round was started, or that
communication works. -/
def Occurrence.recovery? : Occurrence → Option Bool
  | .notified .onInvokeCommandFailure _ => some true
  | .succeeded _ => some false
  | _ => none

/-- A round of this data, if it is one, comes right after the time-out of a
command with the data, and not in an earlier round's wake. -/
def StartsRound (earlier : List Occurrence) (o : Occurrence) : Prop :=
  ∀ data, o = .notified .onInvokeCommandFailure data →
    (earlier.filterMap Occurrence.recovery?).getLast? ≠ some true ∧
      ∃ c, earlier.getLast? = some (.failed c .timeout) ∧ c.dataRef = data

structure Rounds (s : System) : Prop where
  flag : s.mCaseSessionRecovered = true ↔
    (s.history.filterMap Occurrence.recovery?).getLast? = some true
  starts : EachAfter StartsRound s.history

theorem startsRound_of_none {earlier : List Occurrence} {o : Occurrence}
    (h : o.recovery? ≠ some true) : StartsRound earlier o := by
  intro data heq
  subst heq
  exact absurd rfl h

theorem Rounds.record {s s' : System} (h : Rounds s) {o : Occurrence}
    (hhistory : s'.history = s.history ++ [o])
    (hflag : s'.mCaseSessionRecovered = s.mCaseSessionRecovered)
    (ho : o.recovery? = none) : Rounds s' := by
  refine ⟨?_, ?_⟩
  · rw [hhistory, hflag, word_concat_none ho]
    exact h.flag
  · rw [hhistory]
    exact eachAfter_concat.mpr
      ⟨h.starts, startsRound_of_none (by rw [ho]; decide)⟩

theorem Rounds.frame {s s' : System} (h : Rounds s)
    (hhistory : s'.history = s.history)
    (hflag : s'.mCaseSessionRecovered = s.mCaseSessionRecovered) :
    Rounds s' := by
  refine ⟨?_, ?_⟩
  · rw [hflag, hhistory]
    exact h.flag
  · rw [hhistory]
    exact h.starts

theorem Rounds.step {s : System} (h : Rounds s) (i : Input) :
    Rounds (s.step matching i) := by
  apply System.step_cases s i (motive := Rounds)
  case idle => exact h
  case notified =>
    intro data rest _
    exact h.record rfl rfl rfl
  case skipped => exact fun _ _ _ _ _ => ⟨h.flag, h.starts⟩
  case logged =>
    intro _ _ _ o _ ho _
    cases o with
    | groupInvoked | refused => exact h.record rfl rfl rfl
    | notified | invoked | succeeded | failed => exact absurd ho id
  case invoked =>
    intro _ _ _ c _ _
    exact h.record rfl rfl rfl
  case failed =>
    intro _ c aError _ _
    exact h.record rfl rfl rfl
  case succeeded =>
    intro position c _ _
    refine ⟨?_, eachAfter_concat.mpr ⟨h.starts, startsRound_of_none ?_⟩⟩
    · dsimp only
      rw [lastLetter_concat]
      simp [Occurrence.recovery?]
    · simp [Occurrence.recovery?]
  case recovers =>
    intro position c _ _ hflag
    have hlast : (s.history.filterMap Occurrence.recovery?).getLast? ≠
        some true := by
      rw [Ne, ← h.flag, hflag]
      decide
    have hfailed : EachAfter StartsRound
        (s.history ++ [.failed c .timeout]) :=
      eachAfter_concat.mpr
        ⟨h.starts, startsRound_of_none (by simp [Occurrence.recovery?])⟩
    refine ⟨?_, eachAfter_concat.mpr ⟨hfailed, ?_⟩⟩
    · show true = true ↔ _
      dsimp only [System.notifyBoundClusterChanged]
      rw [lastLetter_concat]
      simp [Occurrence.recovery?]
    · intro data heq
      injection heq with _ hdata
      dsimp only
      rw [lastLetter_concat, List.getLast?_concat]
      exact ⟨hlast, c, rfl, hdata⟩

namespace Service

variable {shell : Shell}

/-- What the handler's steps keep of its flag and its history, nobody else
breaks. -/
theorem recovery_step {P : System → Prop}
    (hframe : ∀ {s s' : System}, P s → s'.history = s.history →
      s'.mCaseSessionRecovered = s.mCaseSessionRecovered → P s')
    (hstep : ∀ {s : System}, P s → ∀ i, P (s.step matching i))
    (s : Service) (i : ServiceInput) (h : P s.handler) :
    P (s.step shell matching i).handler := by
  cases i with
  | initiateActionSwitch mAction allocated =>
      cases allocated <;> exact hframe h rfl rfl
  | dimmerChangeBrightness allocated =>
      cases allocated <;> exact hframe h rfl rfl
  | environment e =>
      cases e with
      | switchCommand argv =>
          rw [Service.step, Service.environment, switchCommand_eq]
          exact hframe h rfl rfl
      | bindingTable bindingTable => exact hframe h rfl rfl
      | giveUp position =>
          rw [Service.step, Service.environment, Service.giveUp]
          split
          next => exact h
          next => exact hframe h rfl rfl
      | handler i => exact hstep h i

/-- Over any run, with any number of actions under way: a round of recovery
comes right after the time-out of a command, resends the data of that
command, and is followed by another round only after a success. -/
theorem rounds_apart (shell : Shell)
    (matching : EndpointId → ClusterId → EmberBindingTableEntry → Bool)
    (bindingTable : List EmberBindingTableEntry)
    (mLightSwitchEndpoint : EndpointId) (inputs : List ServiceInput) :
    let history := (after shell matching bindingTable mLightSwitchEndpoint
      inputs).handler.history
    (∀ pre data post,
        history = pre ++ .notified .onInvokeCommandFailure data :: post →
        ∃ c, pre.getLast? = some (.failed c .timeout) ∧ c.dataRef = data) ∧
      ∀ pre data mid data' post,
        history = pre ++ .notified .onInvokeCommandFailure data ::
          (mid ++ .notified .onInvokeCommandFailure data' :: post) →
        ∃ c, .succeeded c ∈ mid := by
  intro history
  have hinit : Rounds (boot bindingTable mLightSwitchEndpoint).handler :=
    ⟨by simp [boot], eachAfter_nil _⟩
  have hrounds : Rounds (after shell matching bindingTable
      mLightSwitchEndpoint inputs).handler :=
    @run_inv _ _ _ (fun s : Service => Rounds s.handler)
      (recovery_step Rounds.frame Rounds.step) _ hinit inputs
  refine ⟨fun pre data post heq => ?_, fun pre data mid data' post heq => ?_⟩
  · exact (hrounds.starts pre _ post heq data rfl).2
  · by_contra hnone
    have hlast := (hrounds.starts (pre ++
      .notified .onInvokeCommandFailure data :: mid) _ post
      (by rw [List.append_assoc]; exact heq) data' rfl).1
    -- Without a success, the rounds are all that was said of recovery.
    have htrue : ∀ b ∈ mid.filterMap Occurrence.recovery?, b = true := by
      intro b hb
      obtain ⟨o, ho, hob⟩ := List.mem_filterMap.mp hb
      unfold Occurrence.recovery? at hob
      split at hob
      next => exact (Option.some.inj hob).symm
      next c => exact absurd ⟨c, ho⟩ hnone
      next => cases hob
    refine hlast ?_
    rw [List.append_cons, List.filterMap_append, List.getLast?_append]
    cases hmid : (mid.filterMap Occurrence.recovery?).getLast? with
    | none =>
        rw [Option.none_or, lastLetter_concat]
        rfl
    | some b => rw [htrue b (List.mem_of_getLast? hmid), Option.some_or]

end Service

/-! ## What becomes of a command -/

/-- The data of a command that has timed out. -/
def Occurrence.timeout? : Occurrence → Option BindingData
  | .failed c .timeout => some c.dataRef
  | _ => none

def Occurrence.resent? : Occurrence → Option BindingData
  | .notified .onInvokeCommandFailure data => some data
  | _ => none

/-- What is to be resent: of each stretch without a success the command that
was the first to time out. -/
def toResend (history : List Occurrence) : List BindingData :=
  (history.splitOnP Occurrence.isSuccess).filterMap
    (·.findSome? Occurrence.timeout?)

/-- The flag says whether a command of the current stretch has timed out, and
what was resent is what was to be. -/
structure Resends (s : System) : Prop where
  flag : ∃ earlier current,
    s.history.splitOnP Occurrence.isSuccess = earlier ++ [current] ∧
      s.mCaseSessionRecovered =
        (current.findSome? Occurrence.timeout?).isSome
  resent : s.history.filterMap Occurrence.resent? = toResend s.history

theorem toResend_eq {history : List Occurrence}
    {earlier : List (List Occurrence)} {current : List Occurrence}
    (h : history.splitOnP Occurrence.isSuccess = earlier ++ [current]) :
    toResend history =
      earlier.filterMap (·.findSome? Occurrence.timeout?) ++
        (current.findSome? Occurrence.timeout?).toList := by
  rw [toResend, h, List.filterMap_append, word_cons, List.filterMap_nil,
    List.append_nil]

theorem findSome?_concat (f : Occurrence → Option BindingData)
    (current : List Occurrence) (o : Occurrence) :
    (current ++ [o]).findSome? f = (current.findSome? f).or (f o) := by
  rw [List.findSome?_append, List.findSome?_singleton]

theorem Resends.record {s s' : System} (h : Resends s) {o : Occurrence}
    (hhistory : s'.history = s.history ++ [o])
    (hflag : s'.mCaseSessionRecovered = s.mCaseSessionRecovered)
    (hsuccess : o.isSuccess = false) (hresent : o.resent? = none)
    (htimeout : o.timeout? = none ∨ s.mCaseSessionRecovered = true) :
    Resends s' := by
  obtain ⟨⟨earlier, current, hstretches, hset⟩, hold⟩ := h
  have hsplit := splitOnP_concat hstretches hsuccess
  have hfirst : (current ++ [o]).findSome? Occurrence.timeout? =
      current.findSome? Occurrence.timeout? := by
    rw [findSome?_concat]
    rcases htimeout with hnone | htrue
    · rw [hnone, Option.or_none]
    · rw [hset] at htrue
      exact Option.or_of_isSome htrue
  refine ⟨⟨earlier, current ++ [o], ?_, ?_⟩, ?_⟩
  · rw [hhistory]
    exact hsplit
  · rw [hflag, hset, hfirst]
  · rw [hhistory, word_concat_none hresent, hold, toResend_eq hstretches,
      toResend_eq hsplit, hfirst]

theorem Resends.frame {s s' : System} (h : Resends s)
    (hhistory : s'.history = s.history)
    (hflag : s'.mCaseSessionRecovered = s.mCaseSessionRecovered) :
    Resends s' := by
  refine ⟨?_, ?_⟩
  · rw [hflag, hhistory]
    exact h.flag
  · rw [hhistory]
    exact h.resent

theorem Resends.step {s : System} (h : Resends s) (i : Input) :
    Resends (s.step matching i) := by
  apply System.step_cases s i (motive := Resends)
  case idle => exact h
  case notified => exact fun _ _ _ => h.record rfl rfl rfl rfl (Or.inl rfl)
  case skipped => exact fun _ _ _ _ _ => ⟨h.flag, h.resent⟩
  case logged =>
    intro _ _ _ o _ ho _
    cases o with
    | groupInvoked | refused => exact h.record rfl rfl rfl rfl (Or.inl rfl)
    | notified | invoked | succeeded | failed => exact absurd ho id
  case invoked =>
    exact fun _ _ _ _ _ _ => h.record rfl rfl rfl rfl (Or.inl rfl)
  case failed =>
    intro _ c aError _ hflag
    refine h.record rfl rfl rfl rfl ?_
    by_cases htimeout : aError = .timeout
    · exact Or.inr (hflag htimeout)
    · refine Or.inl ?_
      cases aError with
      | timeout => exact absurd rfl htimeout
      | noError | other => rfl
  case succeeded =>
    intro _ c _ _
    have hcut := splitOnP_concat_cut s.history
      (p := Occurrence.isSuccess) (a := .succeeded c) rfl
    refine ⟨⟨_, [], hcut, rfl⟩, ?_⟩
    dsimp only
    rw [word_concat_none rfl, h.resent, toResend_eq hcut]
    exact (List.append_nil _).symm
  case recovers =>
    intro _ c _ _ hclear
    obtain ⟨⟨earlier, current, hstretches, hset⟩, hold⟩ := h
    have hnone : current.findSome? Occurrence.timeout? = none := by
      rw [hclear] at hset
      exact Option.isNone_iff_eq_none.mp
        (Option.isSome_eq_false_iff.mp hset.symm)
    let timedOut : Occurrence := .failed c .timeout
    let resent : Occurrence := .notified .onInvokeCommandFailure c.dataRef
    have hsplit : (s.history ++ [timedOut] ++ [resent]).splitOnP
        Occurrence.isSuccess = earlier ++ [current ++ [timedOut] ++ [resent]] :=
      splitOnP_concat (splitOnP_concat hstretches rfl) rfl
    have hfirst : (current ++ [timedOut] ++ [resent]).findSome?
        Occurrence.timeout? = some c.dataRef := by
      rw [findSome?_concat, findSome?_concat, hnone]
      rfl
    refine ⟨⟨_, _, hsplit, ?_⟩, ?_⟩
    · rw [hfirst]
      rfl
    · show (s.history ++ [timedOut] ++ [resent]).filterMap _ =
        toResend (s.history ++ [timedOut] ++ [resent])
      have hresent : resent.resent? = some c.dataRef := rfl
      rw [word_concat_some hresent, word_concat_none rfl, hold,
        toResend_eq hstretches, toResend_eq hsplit, hfirst, hnone,
        Option.toList_none, List.append_nil]
      rfl

/-- A request that nobody answers: one to a group, or one that the SDK did
not take. -/
def Occurrence.unanswered? : Occurrence → Option Request
  | .groupInvoked binding command =>
      some (.invokeGroupCommandRequest binding command)
  | .refused r => some r
  | _ => none

theorem request_perm (history : List Occurrence) :
    history.filterMap Occurrence.request? ~
      (history.filterMap Occurrence.invoked?).map .invokeCommandRequest ++
        history.filterMap Occurrence.unanswered? := by
  induction history with
  | nil => exact .refl _
  | cons o history ih =>
      rw [word_cons, word_cons, word_cons]
      cases o with
      | invoked c => exact ih.cons _
      | groupInvoked | refused =>
          exact (ih.cons _).trans List.perm_middle.symm
      | notified | succeeded | failed => exact ih

namespace Service

theorem resends_after (shell : Shell)
    (bindingTable : List EmberBindingTableEntry)
    (mLightSwitchEndpoint : EndpointId) (inputs : List ServiceInput) :
    Resends (after shell matching bindingTable mLightSwitchEndpoint
      inputs).handler :=
  @run_inv _ _ _ (fun s : Service => Resends s.handler)
    (recovery_step Resends.frame Resends.step) _
    ⟨⟨[], [], rfl, rfl⟩, rfl⟩ inputs

theorem Accounted.fates {s : Service} (h : s.Accounted matching) :
    (s.handler.history.filterMap Occurrence.answered? ++
          s.handler.inFlight).map .invokeCommandRequest ++
        s.handler.history.filterMap Occurrence.unanswered? ++
        s.givenUp.filterMap calledFor ++ s.handler.owed.filterMap calledFor ~
      (s.notices.flatMap (·.calls matching)).filterMap calledFor := by
  refine List.Perm.trans ?_ h.requests
  refine List.Perm.append_right _ (List.Perm.append_right _ ?_)
  calc _ ~ (s.handler.history.filterMap Occurrence.invoked?).map
          Request.invokeCommandRequest ++
        s.handler.history.filterMap Occurrence.unanswered? :=
        (h.commands.map _).append_right _
    _ ~ _ := (request_perm _).symm

/-- Whatever happens: a command that a notification calls for is answered
once, or is in flight, or nobody answers it, or its call was dropped or is
owed. And what is notified of again is, of each stretch without a success, the
command that was the first to time out. -/
theorem fates_accounted (shell : Shell)
    (matching : EndpointId → ClusterId → EmberBindingTableEntry → Bool)
    (bindingTable : List EmberBindingTableEntry)
    (mLightSwitchEndpoint : EndpointId) (inputs : List ServiceInput) :
    let s := after shell matching bindingTable mLightSwitchEndpoint inputs
    let history := s.handler.history
    (history.filterMap Occurrence.answered? ++
          s.handler.inFlight).map .invokeCommandRequest ++
        history.filterMap Occurrence.unanswered? ++
        s.givenUp.filterMap calledFor ++ s.handler.owed.filterMap calledFor ~
      (s.notices.flatMap (·.calls matching)).filterMap calledFor ∧
    history.filterMap Occurrence.resent? =
      (history.splitOnP Occurrence.isSuccess).filterMap
        (·.findSome? Occurrence.timeout?) := by
  intro s history
  have haccounts : s.Accounted matching := accounted_after _ _ _
  have hresends : Resends s.handler :=
    resends_after shell bindingTable mLightSwitchEndpoint inputs
  exact ⟨haccounts.fates, hresends.resent⟩

end Service

end SmartHome.Binding
