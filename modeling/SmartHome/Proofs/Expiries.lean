import SmartHome.Machine.Run
import SmartHome.Proofs.Handlers

/-!
# Expiries under way

Between the expiry of a timer and the dispatch of its event lies the queue,
and the timer can be restarted or cancelled meanwhile. Each expiry carries
the generation of the start it stems from, so a stale one can be told from a
fresh one: `DispatchesFresh` is the assumption that none is dispatched
stale.

What it buys is a count. The generations under way never run ahead of the
timer, so starting or stopping it leaves no fresh expiry in the queue
(`Bounded.restarted`), and a one-shot timer turns into at most one. `Armed`
bounds the fresh ones, those queued and the one the running timer still has
to give; posting, waiting and expiring keep the bound, and dispatching a
fresh expiry lowers it by one.
-/

namespace SmartHome.LightSwitch

open Zephyr Machine

/-- The start of a timer that an expiry of it stems from. -/
def AppEvent.generation? (timer : Timer) (e : AppEvent) : Option Nat :=
  match e.data with
  | .timerEvent timerType generation =>
      if timerType = timer then some generation else none
  | _ => none

/-- No expiry of the timer is dispatched stale: the start it stems from is
the timer's latest, and was not cancelled. -/
def DispatchesFresh (timer : Timer) (s : System) (i : Input) : Prop :=
  i = .dispatch → ∀ e ∈ s.task.sAppEventQueue.msgs.head?,
    ∀ generation ∈ e.generation? timer,
      generation = (s.task.timer timer).generation

instance (timer : Timer) : DecidableRel (DispatchesFresh timer) :=
  fun _ _ => inferInstanceAs (Decidable (_ → ∀ e ∈ _, ∀ g ∈ _, _))

theorem generation_of_expired {timer : Timer} {e : AppEvent}
    (h : e.kind = .expired timer) : ∃ generation,
      e.generation? timer = some generation := by
  obtain ⟨-, -, generation, hd⟩ := kind_expired h
  exact ⟨generation, by rw [AppEvent.generation?, hd]; exact if_pos rfl⟩

namespace AppTask

/-- The queued expiries of the timer's latest start. -/
def pending (t : AppTask) (timer : Timer) : Nat :=
  t.sAppEventQueue.msgs.countP
    (·.generation? timer == some (t.timer timer).generation)

/-- No expiry is queued of a start that is still to come. -/
def Bounded (t : AppTask) (timer : Timer) : Prop :=
  ∀ e ∈ t.sAppEventQueue.msgs, ∀ generation ∈ e.generation? timer,
    generation ≤ (t.timer timer).generation

/-- The timer, if it is one-shot, has at most `n` fresh expiries under way. -/
structure Armed (t : AppTask) (timer : Timer) (n : Nat) : Prop where
  oneShot : ∀ r, (t.timer timer).running = some r → r.period = 0
  underWay : t.pending timer +
    (if (t.timer timer).running.isSome then 1 else 0) ≤ n

theorem generation_timerEvent (other timer : Timer) (generation : Nat) :
    (timerEvent other generation).generation? timer =
      if other = timer then some generation else none := rfl

theorem generation_buttonEvents (cfg : Config) (timer : Timer)
    {buttonState hasChanged : BitVec 32} {e : AppEvent}
    (h : e ∈ buttonEvents cfg buttonState hasChanged) :
    e.generation? timer = none := by
  obtain ⟨pinNo, rfl | rfl | rfl⟩ := mem_buttonEvents cfg h <;> rfl

/-! ## The timers and the queue, apart -/

section Frame

variable (t : AppTask)

theorem timer_setTimer (other timer : Timer) (k : KTimer) :
    (t.setTimer other k).timer timer =
      if other = timer then k else t.timer timer := by
  cases other <;> cases timer <;> rfl

theorem sAppEventQueue_setTimer (other : Timer) (k : KTimer) :
    (t.setTimer other k).sAppEventQueue = t.sAppEventQueue := by
  cases other <;> rfl

theorem timer_queue (q : MsgQueue AppEvent kAppEventQueueSize)
    (timer : Timer) :
    ({ t with sAppEventQueue := q } : AppTask).timer timer = t.timer timer := by
  cases timer <;> rfl

/-- A handler starts and stops timers, which only raises the generation. -/
theorem generation_dispatchEvent (cfg : Config) (env : Commissioning)
    (e : AppEvent) (timer : Timer) :
    (t.timer timer).generation ≤
      ((t.dispatchEvent cfg env e).1.timer timer).generation := by
  apply dispatchEvent_cases cfg env t e (motive := fun r =>
    (t.timer timer).generation ≤ (r.1.timer timer).generation)
  case functionReleased =>
    intro _
    obtain ⟨_, _, _, hr, -⟩ := functionButtonReleased_eq cfg t
    rw [hr]
    cases timer <;> simp [AppTask.timer, KTimer.stop]
  case functionExpired =>
    intro _
    rcases functionTimerExpired_eq cfg t with ⟨-, _, _, _, hr⟩ | ⟨-, hr⟩ <;>
      rw [hr] <;> cases timer <;> simp [AppTask.timer, KTimer.start]
  case functionPushed | triggerExpired =>
    intro _
    cases timer <;>
      simp [AppTask.timer, startTimer, cancelTimer, dimmerTriggerExpired,
        KTimer.start, KTimer.stop]
  case switchPushed | switchReleased =>
    intro _ _
    cases timer <;>
      simp [AppTask.timer, startTimer, cancelTimer, switchButtonReleased,
        KTimer.start, KTimer.stop]
  case advertises =>
    intro _ _
    exact Nat.le_of_eq (by rw [timer_postEvent])
  case other =>
    intro _ _ _
    cases timer <;> exact Nat.le_refl _
  all_goals
    intros
    exact Nat.le_refl _

end Frame

/-! ## No expiry of a start to come -/

variable {t t' : AppTask} {timer : Timer} {n : Nat} {posted : List AppEvent}

theorem Bounded.append (h : t.Bounded timer)
    (hgen : (t.timer timer).generation ≤ (t'.timer timer).generation)
    (hmsgs : t'.sAppEventQueue.msgs = t.sAppEventQueue.msgs ++ posted)
    (hposted : ∀ e ∈ posted, ∀ generation ∈ e.generation? timer,
      generation ≤ (t'.timer timer).generation) : t'.Bounded timer := by
  intro e he g hg
  rw [hmsgs] at he
  rcases List.mem_append.mp he with he | he
  · exact Nat.le_trans (h e he g hg) hgen
  · exact hposted e he g hg

theorem Bounded.postEvent (h : t.Bounded timer) {e : AppEvent}
    (he : ∀ generation ∈ e.generation? timer,
      generation ≤ (t.timer timer).generation) :
    (t.postEvent e).Bounded timer := by
  obtain ⟨posted, hmsgs, hposted⟩ := t.queue_postEvent e
  refine h.append (Nat.le_of_eq (by rw [timer_postEvent])) hmsgs
    fun e' he' => ?_
  rw [timer_postEvent, hposted e' he']
  exact he

theorem Bounded.posts (h : t.Bounded timer) {events : List AppEvent}
    (he : ∀ e ∈ events, e.generation? timer = none) :
    (events.foldl AppTask.postEvent t).Bounded timer := by
  induction events generalizing t with
  | nil => exact h
  | cons e es ih =>
      refine ih (h.postEvent fun g hg => ?_)
        fun e' he' => he e' (List.mem_cons_of_mem e he')
      rw [he e List.mem_cons_self] at hg
      cases hg

theorem Bounded.timerExpiry (h : t.Bounded timer) (other : Timer) :
    (t.timerExpiry other).Bounded timer := by
  unfold AppTask.timerExpiry
  split
  case isFalse => exact h
  have hgen : ((t.setTimer other (t.timer other).expire).timer
      timer).generation = (t.timer timer).generation := by
    rw [timer_setTimer]
    split
    next heq => rw [heq, KTimer.generation_expire]
    next => rfl
  refine Bounded.postEvent ?_ fun g hg => ?_
  · refine h.append (Nat.le_of_eq hgen.symm) ?_ (List.forall_mem_nil _)
    rw [sAppEventQueue_setTimer, List.append_nil]
  · rw [generation_timerEvent] at hg
    rw [hgen]
    split at hg
    next heq =>
      subst heq
      exact Nat.le_of_eq (Option.some.inj hg).symm
    next => cases hg

/-- The oldest event is taken from the queue. -/
theorem Bounded.taken (h : t.Bounded timer) {e : AppEvent}
    {q : MsgQueue AppEvent kAppEventQueueSize}
    (hmsgs : t.sAppEventQueue.msgs = e :: q.msgs) :
    AppTask.Bounded { t with sAppEventQueue := q } timer := by
  intro e' he' g hg
  rw [timer_queue]
  exact h e' (by rw [hmsgs]; exact List.mem_cons_of_mem e he') g hg

end AppTask

/-- It holds in every run. -/
theorem bounded_step (cfg : Config) {s : System} {timer : Timer}
    (h : s.task.Bounded timer) (i : Input) :
    (s.step cfg i).task.Bounded timer := by
  cases i with
  | buttons new =>
      exact h.posts fun _ he => AppTask.generation_buttonEvents cfg timer he
  | timerExpiry other => exact h.timerExpiry other
  | identifyStart | identifyStop | ledStateUpdate =>
      exact h.posts (List.forall_mem_singleton.mpr rfl)
  | chipEvent event =>
      obtain ⟨_, _, _, _, _, hc⟩ :=
        AppTask.chipEventHandler_eq cfg s.task event
      rw [System.step, hc]
      cases timer <;> exact h
  | commissioning env => exact h
  | dispatch =>
      rw [System.step]
      rcases AppTask.dispatch_cases cfg s with ⟨-, hs⟩ |
        ⟨e, q, t, effects, hmsgs, hr, hs⟩
      · rw [hs]
        exact h
      · have hgen := AppTask.generation_dispatchEvent
          { s.task with sAppEventQueue := q } cfg s.commissioning e timer
        obtain ⟨posted, hq, hposted⟩ := AppTask.queue_dispatchEvent cfg
          s.commissioning { s.task with sAppEventQueue := q } e
        rw [hr] at hgen hq
        rw [hs]
        refine (h.taken hmsgs).append hgen hq fun e' he' g hg => ?_
        rw [hposted e' he'] at hg
        cases hg

theorem bounded_boot (cfg : Config) (buttonState : BitVec 32)
    (timer : Timer) : (System.boot cfg buttonState).task.Bounded timer := by
  obtain ⟨status, factoryReset, hinit⟩ := AppTask.updateStatusLED_eq cfg {}
  rw [System.boot, AppTask.init, hinit]
  exact List.forall_mem_nil _

namespace AppTask

/-! ## At most so many under way -/

variable {t t' : AppTask} {timer : Timer} {n : Nat} {posted : List AppEvent}

theorem pending_append (ht : t'.timer timer = t.timer timer)
    (hmsgs : t'.sAppEventQueue.msgs = t.sAppEventQueue.msgs ++ posted)
    (hposted : ∀ e ∈ posted, e.generation? timer = none) :
    t'.pending timer = t.pending timer := by
  have hzero : posted.countP
      (·.generation? timer == some (t.timer timer).generation) = 0 := by
    refine List.countP_eq_zero.mpr fun e he => ?_
    rw [hposted e he]
    exact Bool.noConfusion
  rw [pending, pending, ht, hmsgs, List.countP_append, hzero, Nat.add_zero]

/-- Events that are no expiry of the timer change nothing. -/
theorem Armed.append (h : t.Armed timer n)
    (ht : t'.timer timer = t.timer timer)
    (hmsgs : t'.sAppEventQueue.msgs = t.sAppEventQueue.msgs ++ posted)
    (hposted : ∀ e ∈ posted, e.generation? timer = none) :
    t'.Armed timer n := by
  refine ⟨?_, ?_⟩
  · rw [ht]
    exact h.oneShot
  · rw [pending_append ht hmsgs hposted, ht]
    exact h.underWay

theorem Armed.postEvent (h : t.Armed timer n) {e : AppEvent}
    (he : e.generation? timer = none) : (t.postEvent e).Armed timer n := by
  obtain ⟨posted, hmsgs, hposted⟩ := t.queue_postEvent e
  refine h.append (t.timer_postEvent e timer) hmsgs fun e' he' => ?_
  rw [hposted e' he']
  exact he

theorem Armed.posts (h : t.Armed timer n) {events : List AppEvent}
    (he : ∀ e ∈ events, e.generation? timer = none) :
    (events.foldl AppTask.postEvent t).Armed timer n := by
  induction events generalizing t with
  | nil => exact h
  | cons e es ih =>
      exact ih (h.postEvent (he e List.mem_cons_self))
        fun e' he' => he e' (List.mem_cons_of_mem e he')

/-- A post adds at most one fresh expiry. -/
theorem pending_postEvent (t : AppTask) (timer : Timer) (e : AppEvent) :
    (t.postEvent e).pending timer ≤ t.pending timer + 1 := by
  have ht := t.timer_postEvent e timer
  rcases t.postEvent_cases e with ⟨q, hp, hq⟩ | hp
  · have hmsgs : (t.postEvent e).sAppEventQueue.msgs =
        t.sAppEventQueue.msgs ++ [e] := by
      rw [hp]
      exact hq
    rw [pending, pending, ht, hmsgs, List.countP_append]
    exact Nat.add_le_add_left List.countP_le_length _
  · have hmsgs : (t.postEvent e).sAppEventQueue.msgs =
        t.sAppEventQueue.msgs := by rw [hp]
    rw [pending, pending, ht, hmsgs]
    exact Nat.le_succ _

/-- An expiry of a one-shot timer goes from the timer into the queue. -/
theorem Armed.timerExpiry (h : t.Armed timer n) (other : Timer) :
    (t.timerExpiry other).Armed timer n := by
  unfold AppTask.timerExpiry
  split
  case isFalse => exact h
  next hrun =>
    by_cases heq : other = timer
    · subst heq
      obtain ⟨r, hr⟩ := Option.isSome_iff_exists.mp hrun
      have hstop : (t.timer other).expire.running = none :=
        KTimer.running_expire_oneShot (by rw [← h.oneShot r hr]; exact hr)
      have htimer := (t.setTimer other (t.timer other).expire).timer_postEvent
        (timerEvent other (t.timer other).generation) other
      rw [timer_setTimer, if_pos rfl] at htimer
      have hpost := pending_postEvent (t.setTimer other (t.timer other).expire)
        other (timerEvent other (t.timer other).generation)
      have hset : (t.setTimer other (t.timer other).expire).pending other =
          t.pending other := by
        rw [pending, pending, timer_setTimer, if_pos rfl,
          KTimer.generation_expire, sAppEventQueue_setTimer]
      refine ⟨fun r' hr' => ?_, ?_⟩
      · rw [htimer, hstop] at hr'
        cases hr'
      · have hle := h.underWay
        rw [if_pos hrun] at hle
        rw [htimer, hstop]
        rw [hset] at hpost
        exact Nat.le_trans hpost hle
    · refine Armed.postEvent ?_ (if_neg heq)
      refine h.append ?_ ?_ (List.forall_mem_nil _)
      · rw [timer_setTimer, if_neg heq]
      · rw [sAppEventQueue_setTimer, List.append_nil]

/-- Once a timer is restarted or cancelled, no queued expiry is fresh. -/
theorem Bounded.restarted (h : t.Bounded timer)
    (hgen : (t'.timer timer).generation = (t.timer timer).generation + 1)
    (hmsgs : t'.sAppEventQueue.msgs = t.sAppEventQueue.msgs) :
    t'.pending timer = 0 := by
  refine List.countP_eq_zero.mpr fun e he heq => ?_
  rw [hmsgs] at he
  have hle := h e he _ (beq_iff_eq.mp heq)
  rw [hgen] at hle
  exact absurd hle (Nat.not_succ_le_self _)

theorem Bounded.started (h : t.Bounded timer) {duration : Nat}
    (ht : t'.timer timer = (t.timer timer).start duration 0)
    (hmsgs : t'.sAppEventQueue.msgs = t.sAppEventQueue.msgs) :
    t'.Armed timer 1 := by
  have hzero := h.restarted (by rw [ht]; rfl) hmsgs
  refine ⟨fun r hr => ?_, ?_⟩
  · rw [ht] at hr
    rw [← Option.some.inj hr]
  · rw [hzero, ht]
    exact Nat.le_refl _

theorem Bounded.stopped (h : t.Bounded timer)
    (ht : t'.timer timer = (t.timer timer).stop)
    (hmsgs : t'.sAppEventQueue.msgs = t.sAppEventQueue.msgs) :
    t'.Armed timer 0 := by
  have hzero := h.restarted (by rw [ht]; rfl) hmsgs
  refine ⟨fun r hr => ?_, ?_⟩
  · rw [ht] at hr
    cases hr
  · rw [hzero, ht]
    exact Nat.le_refl _

section Taken

variable {e : AppEvent} {q : MsgQueue AppEvent kAppEventQueueSize}

theorem pending_taken (timer : Timer)
    (hmsgs : t.sAppEventQueue.msgs = e :: q.msgs) :
    t.pending timer = AppTask.pending { t with sAppEventQueue := q } timer +
      if e.generation? timer == some (t.timer timer).generation then 1
      else 0 := by
  have htimer := t.timer_queue q timer
  rw [pending, pending, htimer, hmsgs, List.countP_cons]

theorem Armed.taken (h : t.Armed timer n)
    (hmsgs : t.sAppEventQueue.msgs = e :: q.msgs) :
    AppTask.Armed { t with sAppEventQueue := q } timer n := by
  have hpending := pending_taken timer hmsgs
  have hle := h.underWay
  refine ⟨?_, ?_⟩
  · rw [timer_queue]
    exact h.oneShot
  · rw [timer_queue]
    omega

/-- A fresh expiry is one of those under way. -/
theorem Armed.takenFresh (h : t.Armed timer n)
    (hmsgs : t.sAppEventQueue.msgs = e :: q.msgs)
    (hfresh : e.generation? timer = some (t.timer timer).generation) :
    ∃ m, n = m + 1 ∧
      AppTask.Armed { t with sAppEventQueue := q } timer m := by
  have hpending := pending_taken timer hmsgs
  rw [hfresh, if_pos (beq_self_eq_true _)] at hpending
  have hle := h.underWay
  refine ⟨n - 1, by omega, ?_, ?_⟩
  · rw [timer_queue]
    exact h.oneShot
  · rw [timer_queue]
    omega

end Taken

end AppTask

/-- Only a dispatch starts a timer. -/
theorem armed_step (cfg : Config) {s : System} {timer : Timer} {n : Nat}
    (h : s.task.Armed timer n) {i : Input} (hi : i ≠ .dispatch) :
    (s.step cfg i).task.Armed timer n := by
  cases i with
  | buttons new =>
      exact h.posts fun _ he => AppTask.generation_buttonEvents cfg timer he
  | timerExpiry other => exact h.timerExpiry other
  | dispatch => exact absurd rfl hi
  | identifyStart | identifyStop | ledStateUpdate => exact h.postEvent rfl
  | chipEvent event =>
      obtain ⟨_, _, _, _, _, hc⟩ :=
        AppTask.chipEventHandler_eq cfg s.task event
      rw [System.step, hc]
      refine h.append ?_ (List.append_nil _).symm (List.forall_mem_nil _)
      cases timer <;> rfl
  | commissioning env => exact h

end SmartHome.LightSwitch
