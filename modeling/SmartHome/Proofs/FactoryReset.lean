import SmartHome.Machine.Run
import SmartHome.Proofs.Handlers

/-!
# Which holds of the function button reset the device

`FunctionEvent` gives `SoftwareUpdate` and `NoneSelected` the same value, so
`mFunction` cannot tell a button that is held from one that was released. A
release cancels the timer, but not an expiry that is already in the queue
behind it; that expiry finds `mFunction` at `SoftwareUpdate`, starts the
countdown, and with nobody touching the button the countdown runs out.
`release_then_stale_expiry` is that run.

Everything else is sound: if no expiry of the function timer is ever posted
while the newest function-button event still in the queue is a release, then
a reset is only ever scheduled with a push as the last dispatched edge.

The argument follows the queue. It is a FIFO, so the events dispatched so
far followed by the events still queued form one list, `timeline`, that only
grows at its far end: dispatching moves the border between the two parts
and changes nothing else. What has to be known of an expiry, that the last
edge ahead of it is a push, is therefore checked once, when it is posted,
and is still there when the expiry is dispatched.
-/

namespace SmartHome.LightSwitch

open Zephyr Machine

/-- A factory reset is only scheduled while the last dispatched edge of the
function button is a push. -/
def ResetsFollowPush (dispatched : List Dispatch) : Prop :=
  EachAfter (fun earlier d => .scheduleFactoryReset ∈ d.effects →
    lastEdge functionButton (earlier.map (·.event)) = some .push) dispatched

/-- The function timer does not expire between the release of the button and
the dispatch of that release: when it expires, the newest function-button
event waiting in the queue, if there is one, is not a release. -/
def ExpiresBeforeRelease (s : System) (i : Input) : Prop :=
  i = .timerExpiry .function → s.task.sFunctionTimer.running.isSome = true →
    lastEdge functionButton s.task.sAppEventQueue.msgs ≠ some .release

instance : DecidableRel ExpiresBeforeRelease := fun _ _ =>
  inferInstanceAs (Decidable (_ → _ → _))

/-- Each expiry of the function timer comes after a push. -/
def ExpiryFollowsPush (earlier : List AppEvent) (e : AppEvent) : Prop :=
  e.kind = .expired .function →
    lastEdge functionButton earlier = some .push

structure FunctionInv (s : System) : Prop where
  running : s.task.sFunctionTimer.running.isSome = true →
    lastEdge functionButton (s.dispatched.map (·.event)) = some .push
  expiries : EachAfter ExpiryFollowsPush s.timeline
  resets : ∀ d ∈ s.dispatched, .scheduleFactoryReset ∈ d.effects →
    d.event.kind = .expired .function

/-! ## What a dispatch does to the function timer -/

section Dispatch

variable {cfg : Config} {env : Commissioning} {t : AppTask} {e : AppEvent}

/-- A timer that is running after a dispatch was started by it, on a push or
an expiry of its own, or was running before and its event was not a
release. -/
theorem running_dispatchEvent
    (h : (t.dispatchEvent cfg env e).1.sFunctionTimer.running.isSome = true) :
    e.kind = .pushed functionButton ∨ e.kind = .expired .function ∨
      (e.edge? functionButton = none ∧
        t.sFunctionTimer.running.isSome = true) := by
  revert h
  apply AppTask.dispatchEvent_cases cfg env t e (motive := fun r =>
    r.1.sFunctionTimer.running.isSome = true →
      e.kind = .pushed functionButton ∨ e.kind = .expired .function ∨
        (e.edge? functionButton = none ∧
          t.sFunctionTimer.running.isSome = true))
  case functionPushed =>
    intro hk _
    exact Or.inl hk
  case functionExpired =>
    intro hk _
    exact Or.inr (Or.inl hk)
  case functionReleased =>
    intro _ h
    obtain ⟨_, _, _, hr, -⟩ := AppTask.functionButtonReleased_eq cfg t
    rw [hr] at h
    cases h
  case switchPushed | switchReleased | pushIgnored =>
    intro hk _ h
    exact Or.inr (Or.inr ⟨edge_eq_none hk (by simp) (by simp), h⟩)
  case triggerExpired | dimmerExpired =>
    intro hk h
    exact Or.inr (Or.inr ⟨edge_eq_none hk (by simp) (by simp), h⟩)
  case unused =>
    intro pinNo hf _ hk h
    rcases hk with hk | hk <;>
      exact Or.inr (Or.inr ⟨edge_eq_none hk (by simp [hf]) (by simp [hf]), h⟩)
  case advertises =>
    intro hk _ h
    have hp := t.timer_postEvent
      (AppTask.startBLEAdvertisementEvent switchButton) .function
    simp only [AppTask.timer] at hp
    exact Or.inr (Or.inr ⟨edge_eq_none hk (by simp) (by simp), hp ▸ h⟩)
  case other =>
    intro hk effects _ h
    exact Or.inr (Or.inr ⟨edge_eq_none hk (by simp) (by simp), h⟩)

end Dispatch

/-! ## The invariant over a step -/

theorem functionInv_boot (cfg : Config) (buttonState : BitVec 32) :
    FunctionInv (System.boot cfg buttonState) := by
  obtain ⟨status, factoryReset, hinit⟩ := AppTask.updateStatusLED_eq cfg {}
  refine ⟨fun h => ?_, ?_, by simp [System.boot]⟩
  · rw [System.boot, AppTask.init, hinit] at h
    cases h
  · rw [System.timeline, System.boot, AppTask.init, hinit]
    exact eachAfter_nil _

/-- A step that only posts events, none of them an expiry of the function
timer, and leaves that timer alone. -/
theorem FunctionInv.of_posts {s s' : System} (h : FunctionInv s)
    (ht : s'.task.sFunctionTimer = s.task.sFunctionTimer)
    (hd : s'.dispatched = s.dispatched)
    (he : EachAfter ExpiryFollowsPush s'.timeline) : FunctionInv s' :=
  ⟨by rw [ht, hd]; exact h.running, he, by rw [hd]; exact h.resets⟩

theorem FunctionInv.of_post {s : System} (h : FunctionInv s) {e : AppEvent}
    (hk : e.kind ≠ .expired .function) :
    FunctionInv { s with task := s.task.postEvent e } :=
  h.of_posts (s.task.timer_postEvent e .function) rfl
    (s.task.eachAfter_postEvent e h.expiries fun he => absurd he hk)

theorem FunctionInv.timerExpiry {s : System} (h : FunctionInv s)
    {timer : Timer} (hi : ExpiresBeforeRelease s (.timerExpiry timer)) :
    FunctionInv { s with task := s.task.timerExpiry timer } := by
  unfold AppTask.timerExpiry
  split
  next hrun =>
    cases timer with
    | function =>
        have hpush := h.running hrun
        refine ⟨fun hrun' => hpush, ?_, h.resets⟩
        refine AppTask.eachAfter_postEvent _ _ h.expiries fun _ => ?_
        -- The last edge is a queued one if the queue holds any, and then the
        -- side condition applies; otherwise it is the last dispatched one.
        show lastEdge functionButton
          (s.dispatched.map (·.event) ++ s.task.sAppEventQueue.msgs) = _
        cases hq : lastEdge functionButton s.task.sAppEventQueue.msgs with
        | none =>
            rw [lastEdge_append_of_none (List.getLast?_eq_none_iff.mp hq)]
            exact hpush
        | some edge =>
            cases edge with
            | push => exact lastEdge_append_of_some hq
            | release => exact absurd hq (hi rfl hrun)
    | dimmerTrigger | dimmer =>
        refine h.of_posts (AppTask.timer_postEvent _ _ .function) rfl ?_
        exact AppTask.eachAfter_postEvent _ _ h.expiries
          fun he => EventKind.noConfusion he (by simp)
  next => exact h

theorem FunctionInv.dispatch {s : System} (h : FunctionInv s) (cfg : Config) :
    FunctionInv (s.dispatch cfg) := by
  rcases AppTask.dispatch_cases cfg s with ⟨-, hs⟩ |
    ⟨e, q, t, effects, hmsgs, hr, hs⟩
  · rw [hs]
    exact h
  rw [hs]
  have hline : s.timeline =
      ((s.dispatched.map (·.event)) ++ [e]) ++ q.msgs := by
    rw [System.timeline, hmsgs, List.append_assoc, List.singleton_append]
  have hheld : ExpiryFollowsPush (s.dispatched.map (·.event)) e := by
    have hexp := h.expiries
    rw [hline] at hexp
    exact (eachAfter_concat.mp hexp.of_append).2
  refine ⟨fun hrun => ?_, ?_, fun d hd hx => ?_⟩
  · rw [List.map_append, List.map_singleton, lastEdge_concat]
    rcases running_dispatchEvent (by rw [hr]; exact hrun) with
      hk | hk | ⟨he, hold⟩
    · rw [edge_push.mpr hk]
      rfl
    · have hnone : e.edge? functionButton = none := by
        unfold AppEvent.edge?
        rw [hk]
      rw [hnone]
      exact hheld hk
    · rw [he]
      exact h.running hold
  · rw [System.timeline, List.map_append, List.map_singleton]
    have hnew := AppTask.eachAfter_dispatchEvent cfg s.commissioning
      { s.task with sAppEventQueue := q } (P := ExpiryFollowsPush) e
      (fun pre hk => by cases hk) (hline ▸ h.expiries)
    rwa [hr] at hnew
  · rcases List.mem_append.mp hd with hd | hd
    · exact h.resets d hd hx
    · rw [List.mem_singleton.mp hd] at hx ⊢
      exact AppTask.kind_of_effect cfg _ _ (by rw [hr]; exact hx)

theorem FunctionInv.step {cfg : Config} {s : System} {i : Input}
    (h : FunctionInv s) (hi : ExpiresBeforeRelease s i) :
    FunctionInv (s.step cfg i) := by
  cases i with
  | buttons buttonState =>
      refine h.of_posts (AppTask.timer_posts _ _ .function) rfl ?_
      exact AppTask.eachAfter_posts _
        (fun e he pre hk => absurd hk (AppTask.kind_buttonEvents cfg he _))
        h.expiries
  | timerExpiry timer => exact h.timerExpiry hi
  | dispatch => exact h.dispatch cfg
  | identifyStart | identifyStop => exact h.of_post (by decide)
  | ledStateUpdate led => exact h.of_post (by simp [AppEvent.kind])
  | chipEvent event =>
      obtain ⟨_, _, _, _, _, hc⟩ :=
        AppTask.chipEventHandler_eq cfg s.task event
      refine h.of_posts ?_ rfl ?_
      · rw [System.step, hc]
      · rw [System.step, hc]
        exact h.expiries
  | commissioning env => exact ⟨h.running, h.expiries, h.resets⟩

theorem FunctionInv.resetsFollowPush {s : System} (h : FunctionInv s) :
    ResetsFollowPush s.dispatched := by
  intro pre d post heq hx
  have hk := h.resets d (by rw [heq]; simp) hx
  exact h.expiries.of_append.of_map pre d post heq hk

/-! ## The runs -/

/-- In every run in which the function timer never expires while the newest
queued function-button event is a release, the device is only ever reset
with the button held down, as far as the application has seen. -/
theorem resets_follow_push (cfg : Config) (buttonState : BitVec 32)
    (inputs : List Input)
    (h : Along (System.step cfg) ExpiresBeforeRelease
      (System.boot cfg buttonState) inputs) :
    ResetsFollowPush (System.after cfg buttonState inputs).dispatched :=
  (run_inv_along (fun _ _ hs hi => hs.step hi)
    (functionInv_boot cfg buttonState) h).resetsFollowPush

/-- The button is held through both windows: the first expiry starts the
countdown and the second resets the device. -/
theorem resets_follow_push_held :
    let cfg : Config := ⟨false, true, true, true⟩
    let inputs : List Input := [.buttons 1, .dispatch,
      .timerExpiry .function, .dispatch, .timerExpiry .function, .dispatch]
    ResetsFollowPush (System.after cfg 0 inputs).dispatched ∧
      (System.after cfg 0 inputs).dispatched.map (·.effects) =
        [[], [], [.scheduleFactoryReset]] :=
  ⟨resets_follow_push _ 0 _ (by decide), by decide⟩

/-- The button is let go of in the first window, and the timer expires while
that release is still queued. The expiry starts the countdown of a button
nobody is holding, and its end resets the device. -/
theorem release_then_stale_expiry :
    let cfg : Config := ⟨false, true, true, true⟩
    let s := System.after cfg 0 [.buttons 1, .dispatch, .buttons 0,
      .timerExpiry .function, .dispatch, .dispatch,
      .timerExpiry .function, .dispatch]
    s.task.failedPosts = 0 ∧
      s.dispatched.map (·.effects) =
        [[], [.startServer], [], [.scheduleFactoryReset]] ∧
      ¬ ResetsFollowPush s.dispatched := by
  refine ⟨by decide, by decide, fun h => ?_⟩
  exact absurd (h _ _ [] rfl (by decide)) (by decide)

end SmartHome.LightSwitch
