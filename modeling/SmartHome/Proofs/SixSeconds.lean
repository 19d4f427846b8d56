import Mathlib.Data.List.Induction
import SmartHome.Template.System

/-!
# Template: a reset takes one hold of six seconds

"Releasing the button within the six-second window cancels the factory reset
procedure." The timer's handler looks at `mFunction`, which says that some
press is going on and not which. An expiry that waits in the queue behind
the release of its press does nothing if it is the next to be dispatched,
since the release cleared `mFunction`; but with the next push between the
two it meets `mFunction` set again, for a press that has just begun:
`reset_by_next_press`.

So the order in the queue decides, and it is settled when the expiry is
posted: if the newest edge still queued then is no push, the expiry either
belongs to the press that is still going on or is dispatched right after a
release. `Queued` says so of every queued expiry, in terms of the whole
record and queue, which a dispatch does not rearrange.
-/

namespace SmartHome.Template

open Zephyr Machine
open LightSwitch (Edge)

/-- The last push of the record started the timer's given generation, and no
release came after it. -/
def HeldSince (dispatched : List Dispatch) (generation : Nat) : Prop :=
  ∃ earlier push mid, dispatched = earlier ++ push :: mid ∧
    push.event.edge? = some .push ∧ push.generation = generation ∧
    ∀ d ∈ mid, d.event.edge? = none

/-- Every reset is by an expiry that stems from the start a push made, with
no release between the two. The queue is a FIFO, so the events dispatched
between them are those posted between them. -/
def ResetsWereHeld (dispatched : List Dispatch) : Prop :=
  EachAfter (fun earlier d => .scheduleFactoryReset ∈ d.effects →
    ∃ generation, d.event.generation? = some generation ∧
      ∃ before push mid, earlier = before ++ push :: mid ∧
        push.event.edge? = some .push ∧ push.generation = generation ∧
        ∀ d ∈ mid, d.event.edge? ≠ some .release) dispatched

/-- The timer does not expire while the newest edge waiting in the queue is a
push. -/
def ExpiresBeforePush (s : System) (i : Input) : Prop :=
  i = .timerExpiry → s.task.sFunctionTimer.running.isSome = true →
    lastEdge s.task.sAppEventQueue.msgs ≠ some .push

instance : DecidableRel ExpiresBeforePush := fun _ _ =>
  inferInstanceAs (Decidable (_ → _ → _))

/-! ## What a dispatch does -/

section Handlers

variable (t : AppTask) {e : AppEvent}

theorem edge_push (h : e.edge? = some .push) :
    e.handler = some .functionHandler ∧
      e.data = .buttonEvent functionButton .buttonPushed := by
  unfold AppEvent.edge? at h
  split at h
  next hh hd => exact ⟨hh, hd⟩
  next => cases h
  next => cases h

theorem edge_release (h : e.edge? = some .release) :
    e.handler = some .functionHandler ∧
      e.data = .buttonEvent functionButton .buttonReleased := by
  unfold AppEvent.edge? at h
  split at h
  next => cases h
  next hh hd => exact ⟨hh, hd⟩
  next => cases h

theorem dispatchEvent_push (h : e.edge? = some .push) :
    t.dispatchEvent e =
      ({ t.startTimer kFactoryResetTriggerTimeout with
          mFunction := .factoryReset }, []) := by
  obtain ⟨hh, hd⟩ := edge_push h
  simp only [AppTask.dispatchEvent, hh, AppTask.functionHandler, hd]
  rfl

/-- A release clears `mFunction` and cancels the timer if `mFunction` was
set. -/
theorem dispatchEvent_release (h : e.edge? = some .release) :
    (t.mFunction = .factoryReset ∧ ∃ status, t.dispatchEvent e =
      ({ t.cancelTimer with
          mFunction := .noneSelected
          sStatusLED := status
          sFactoryResetLEDs := .steady false }, [.factoryResetCanceled])) ∨
      (t.mFunction = .noneSelected ∧ t.dispatchEvent e = (t, [])) := by
  obtain ⟨hh, hd⟩ := edge_release h
  simp only [AppTask.dispatchEvent, hh, AppTask.functionHandler, hd]
  cases hm : t.mFunction with
  | factoryReset => exact Or.inl ⟨rfl, _, rfl⟩
  | noneSelected => exact Or.inr ⟨rfl, rfl⟩

theorem dispatchEvent_expiry
    (h : e.handler = some .functionTimerEventHandler) :
    (t.mFunction = .factoryReset ∧ t.dispatchEvent e =
      ({ t with
          mFunction := .noneSelected
          sStatusLED := .steady true
          sFactoryResetLEDs := .steady true }, [.scheduleFactoryReset])) ∨
      (t.mFunction = .noneSelected ∧ t.dispatchEvent e = (t, [])) := by
  simp only [AppTask.dispatchEvent, h, AppTask.functionTimerEventHandler]
  cases hm : t.mFunction with
  | factoryReset => exact Or.inl ⟨rfl, rfl⟩
  | noneSelected => exact Or.inr ⟨rfl, rfl⟩

theorem dispatchEvent_other (hedge : e.edge? = none)
    (h : e.handler ≠ some .functionTimerEventHandler) :
    t.dispatchEvent e = (t, []) := by
  unfold AppEvent.edge? at hedge
  cases hh : e.handler with
  | none => simp only [AppTask.dispatchEvent, hh]
  | some handler =>
      cases handler with
      | functionTimerEventHandler => exact absurd hh h
      | updateLedStateEventHandler => simp only [AppTask.dispatchEvent, hh]
      | functionHandler =>
          simp only [AppTask.dispatchEvent, hh, AppTask.functionHandler]
          cases hd : e.data with
          | unset | timerEvent | updateLedStateEvent => rfl
          | buttonEvent pinNo action =>
              rw [hh, hd] at hedge
              by_cases hpin : pinNo = functionButton
              · subst hpin
                cases action <;> first | rfl | cases hedge
              · exact if_pos hpin

end Handlers

/-! ## The record and the queue -/

theorem heldSince_concat {ds : List Dispatch} {d : Dispatch} {g : Nat} :
    HeldSince (ds ++ [d]) g ↔
      match d.event.edge? with
      | some .push => d.generation = g
      | some .release => False
      | none => HeldSince ds g := by
  constructor
  · intro hsome
    obtain ⟨earlier, push, mid, heq, hpush, hgen, hmid⟩ := hsome
    rcases split_concat heq with ⟨-, rfl, -⟩ | ⟨mid', rfl, hds⟩
    · rw [hpush]
      exact hgen
    · rw [hmid d (by simp)]
      exact ⟨earlier, push, mid', hds, hpush, hgen,
        fun d' hd' => hmid d' (List.mem_append_left _ hd')⟩
  · intro h
    split at h
    next hpush => exact ⟨ds, d, [], rfl, hpush, h, List.forall_mem_nil _⟩
    next => exact h.elim
    next hnone =>
      obtain ⟨earlier, push, mid, rfl, hpush, hgen, hmid⟩ := h
      refine ⟨earlier, push, mid ++ [d], by simp, hpush, hgen, ?_⟩
      intro d' hd'
      rcases List.mem_append.mp hd' with hd' | hd'
      · exact hmid d' hd'
      · rw [List.mem_singleton.mp hd']
        exact hnone

theorem lastEdge_concat (events : List AppEvent) (e : AppEvent) :
    lastEdge (events ++ [e]) = e.edge?.or (lastEdge events) :=
  lastLetter_concat AppEvent.edge? events e

theorem HeldSince.unique {ds : List Dispatch} {g g' : Nat}
    (h : HeldSince ds g) (h' : HeldSince ds g') : g = g' := by
  induction ds using List.reverseRecOn with
  | nil =>
      obtain ⟨earlier, push, mid, heq, -⟩ := h
      exact absurd heq (by simp)
  | append_singleton ds d ih =>
      rw [heldSince_concat] at h h'
      split at h
      next hpush =>
        rw [hpush] at h'
        exact h.symm.trans h'
      next => exact h.elim
      next hnone =>
        rw [hnone] at h'
        exact ih h h'

/-- A queued expiry is dispatched right after a release, or belongs to the
press going on. -/
def Queued (dispatched : List Dispatch) (ahead : List AppEvent)
    (e : AppEvent) : Prop :=
  e.handler = some .functionTimerEventHandler →
    ∃ generation, e.generation? = some generation ∧
      (lastEdge (dispatched.map (·.event) ++ ahead) = some .release ∨
        ((∀ e ∈ ahead, e.edge? = none) ∧ HeldSince dispatched generation))

/-- The oldest event moves from the queue to the record. -/
theorem Queued.moved {ds : List Dispatch} {d : Dispatch}
    {ahead : List AppEvent} {e : AppEvent}
    (h : Queued ds (d.event :: ahead) e) : Queued (ds ++ [d]) ahead e := by
  intro hh
  obtain ⟨g, hg, hlast | ⟨hnone, hheld⟩⟩ := h hh
  · refine ⟨g, hg, Or.inl ?_⟩
    rw [List.map_append, List.map_singleton, ← List.append_cons]
    exact hlast
  · refine ⟨g, hg, Or.inr ⟨fun e' he' =>
      hnone e' (List.mem_cons_of_mem _ he'), heldSince_concat.mpr ?_⟩⟩
    rw [hnone d.event List.mem_cons_self]
    exact hheld

structure TimerInv (s : System) : Prop where
  /-- The running timer is that of the press going on, and has not
  expired yet. -/
  running : s.task.sFunctionTimer.running.isSome = true →
    s.task.mFunction = .factoryReset ∧
      HeldSince s.dispatched s.task.sFunctionTimer.generation ∧
      ∀ e ∈ s.task.sAppEventQueue.msgs,
        e.generation? ≠ some s.task.sFunctionTimer.generation
  oneShot : ∀ r, s.task.sFunctionTimer.running = some r → r.period = 0
  bounded : ∀ e ∈ s.task.sAppEventQueue.msgs, ∀ generation ∈ e.generation?,
    generation ≤ s.task.sFunctionTimer.generation
  pressed : s.task.mFunction = .factoryReset →
    lastEdge (s.dispatched.map (·.event)) = some .push
  queued : EachAfter (Queued s.dispatched) s.task.sAppEventQueue.msgs
  resets : ResetsWereHeld s.dispatched

/-! ## The invariant over a step -/

theorem postEvent_cases (t : AppTask) (e : AppEvent) :
    (∃ q, t.postEvent e = { t with sAppEventQueue := q } ∧
        q.msgs = t.sAppEventQueue.msgs ++ [e]) ∨
      t.postEvent e = { t with failedPosts := t.failedPosts + 1 } := by
  unfold AppTask.postEvent
  split
  · next q hq => exact Or.inl ⟨q, rfl, MsgQueue.put_msgs hq⟩
  · exact Or.inr rfl

theorem TimerInv.post {s : System} (h : TimerInv s) {e : AppEvent}
    (hg : ∀ generation ∈ e.generation?,
      generation ≤ s.task.sFunctionTimer.generation ∧
        s.task.sFunctionTimer.running = none)
    (hq : Queued s.dispatched s.task.sAppEventQueue.msgs e)
    (buttonState : BitVec 32) :
    TimerInv { s with task := s.task.postEvent e, buttonState } := by
  rcases postEvent_cases s.task e with ⟨q, ht, hmsgs⟩ | ht
  · rw [ht]
    refine ⟨fun hrun => ?_, h.oneShot, ?_, h.pressed, ?_, h.resets⟩
    · obtain ⟨hfunction, hheld, hnone⟩ := h.running hrun
      refine ⟨hfunction, hheld, fun e' he' heq => ?_⟩
      rw [hmsgs] at he'
      rcases List.mem_append.mp he' with he' | he'
      · exact hnone e' he' heq
      · rw [List.mem_singleton.mp he'] at heq
        have hstop := (hg _ heq).2
        dsimp only at hrun
        rw [hstop] at hrun
        cases hrun
    · intro e' he' g hge
      rw [hmsgs] at he'
      rcases List.mem_append.mp he' with he' | he'
      · exact h.bounded e' he' g hge
      · rw [List.mem_singleton.mp he'] at hge
        exact (hg g hge).1
    · show EachAfter _ q.msgs
      rw [hmsgs]
      exact eachAfter_concat.mpr ⟨h.queued, hq⟩
  · rw [ht]
    exact ⟨h.running, h.oneShot, h.bounded, h.pressed, h.queued, h.resets⟩

theorem TimerInv.postOther {s : System} (h : TimerInv s) {e : AppEvent}
    (he : e.handler ≠ some .functionTimerEventHandler)
    (buttonState : BitVec 32) :
    TimerInv { s with task := s.task.postEvent e, buttonState } := by
  refine h.post (fun g hg => ?_) (fun hh => absurd hh he) buttonState
  unfold AppEvent.generation? at hg
  split at hg
  next hh _ => exact absurd hh he
  next => cases hg

theorem TimerInv.expired {s : System} (h : TimerInv s)
    (hstop : s.task.sFunctionTimer.expire.running = none) :
    TimerInv { s with
      task := { s.task with
        sFunctionTimer := s.task.sFunctionTimer.expire } } := by
  refine ⟨fun hrun => ?_, fun r hr => ?_, ?_, h.pressed, h.queued, h.resets⟩
  · dsimp only at hrun
    rw [hstop] at hrun
    cases hrun
  · dsimp only at hr
    rw [hstop] at hr
    cases hr
  · dsimp only
    rw [KTimer.generation_expire]
    exact h.bounded

/-- Where an expiry is posted the newest edge, queued or else dispatched,
decides which kind it is. -/
theorem queued_timerEvent {dispatched : List Dispatch}
    {ahead : List AppEvent} {generation : Nat}
    (hheld : HeldSince dispatched generation)
    (hpush : lastEdge ahead ≠ some .push) :
    Queued dispatched ahead (AppTask.timerEvent generation) := by
  refine fun _ => ⟨generation, rfl, ?_⟩
  cases hlast : lastEdge ahead with
  | none =>
      refine Or.inr ⟨fun e he => ?_, hheld⟩
      exact List.filterMap_eq_nil_iff.mp
        (List.getLast?_eq_none_iff.mp hlast) e he
  | some edge =>
      cases edge with
      | push => exact absurd hlast hpush
      | release =>
          left
          rw [lastEdge] at hlast ⊢
          rw [List.filterMap_append, List.getLast?_append, hlast]
          rfl

theorem TimerInv.timerExpiry {s : System} (h : TimerInv s)
    (hi : ExpiresBeforePush s .timerExpiry) :
    TimerInv { s with task := s.task.timerExpiry } := by
  unfold AppTask.timerExpiry
  split
  case isFalse => exact h
  next hrun =>
    obtain ⟨-, hheld, -⟩ := h.running hrun
    obtain ⟨r, hr⟩ := Option.isSome_iff_exists.mp hrun
    have hstop : s.task.sFunctionTimer.expire.running = none :=
      KTimer.running_expire_oneShot (by rw [← h.oneShot r hr]; exact hr)
    refine (h.expired hstop).post (fun g hg => ?_)
      (queued_timerEvent hheld (hi rfl hrun)) s.buttonState
    obtain rfl := Option.some.inj hg
    exact ⟨Nat.le_of_eq (KTimer.generation_expire _).symm, hstop⟩

theorem TimerInv.buttons {s : System} (h : TimerInv s) (new : BitVec 32) :
    TimerInv (s.step (.buttons new)) := by
  rw [System.step, AppTask.buttonEventHandler]
  split
  · exact h.postOther (by simp [AppTask.buttonEvent]) new
  · exact ⟨h.running, h.oneShot, h.bounded, h.pressed, h.queued, h.resets⟩

theorem dispatch_cases (s : System) :
    s.dispatch = s ∨
      ∃ e q t effects, s.task.sAppEventQueue.msgs = e :: q.msgs ∧
        AppTask.dispatchEvent { s.task with sAppEventQueue := q } e =
          (t, effects) ∧
        s.dispatch =
          { s with
            task := t
            dispatched := s.dispatched ++
              [⟨e, effects, t.sFunctionTimer.generation⟩] } := by
  unfold System.dispatch
  split
  · exact Or.inl rfl
  · next e q hget =>
      exact Or.inr ⟨e, q, _, _, MsgQueue.get_msgs hget, rfl, rfl⟩

/-- What an expiry that is dispatched with `mFunction` set belongs to: the
press going on. -/
theorem TimerInv.head {s : System} (h : TimerInv s) {e : AppEvent}
    {rest : List AppEvent} (hmsgs : s.task.sAppEventQueue.msgs = e :: rest)
    (he : e.handler = some .functionTimerEventHandler)
    (hm : s.task.mFunction = .factoryReset) :
    s.task.sFunctionTimer.running = none ∧
      ∃ generation, e.generation? = some generation ∧
        HeldSince s.dispatched generation := by
  have hqueued := h.queued
  rw [hmsgs, eachAfter_cons] at hqueued
  obtain ⟨g, hg, hlast | ⟨-, hheld⟩⟩ := hqueued.1 he
  · rw [List.append_nil, h.pressed hm] at hlast
    cases hlast
  · refine ⟨?_, g, hg, hheld⟩
    cases hrun : s.task.sFunctionTimer.running with
    | none => rfl
    | some r =>
        obtain ⟨-, hheld', hnone⟩ := h.running (by rw [hrun]; rfl)
        refine absurd ?_ (hnone e (by rw [hmsgs]; exact List.mem_cons_self))
        rw [hg, hheld.unique hheld']

section Taken

variable {s : System} {d : Dispatch} {t : AppTask}
  {q : MsgQueue AppEvent kAppEventQueueSize}

/-- The oldest event is moved from the queue to the record, whatever it is.
That leaves the timer, `mFunction` and the effects. -/
theorem TimerInv.taken (h : TimerInv s)
    (hmsgs : s.task.sAppEventQueue.msgs = d.event :: q.msgs)
    (hq : t.sAppEventQueue = q)
    (hgen : s.task.sFunctionTimer.generation ≤ t.sFunctionTimer.generation)
    (running : t.sFunctionTimer.running.isSome = true →
      t.mFunction = .factoryReset ∧
        HeldSince (s.dispatched ++ [d]) t.sFunctionTimer.generation ∧
        ∀ e ∈ q.msgs, e.generation? ≠ some t.sFunctionTimer.generation)
    (oneShot : ∀ r, t.sFunctionTimer.running = some r → r.period = 0)
    (pressed : t.mFunction = .factoryReset →
      d.event.edge?.or (lastEdge (s.dispatched.map (·.event))) = some .push)
    (resets : ResetsWereHeld (s.dispatched ++ [d])) :
    TimerInv { s with task := t, dispatched := s.dispatched ++ [d] } := by
  have hqueued := h.queued
  rw [hmsgs, eachAfter_cons] at hqueued
  subst hq
  refine ⟨running, oneShot, fun e he g hg => ?_, fun hm => ?_,
    fun pre e post heq => (hqueued.2 pre e post heq).moved, resets⟩
  · refine Nat.le_trans (h.bounded e ?_ g hg) hgen
    rw [hmsgs]
    exact List.mem_cons_of_mem _ he
  · rw [List.map_append, List.map_singleton, lastEdge_concat]
    exact pressed hm

/-- An event that does nothing: it is no edge, or no press is going on. -/
theorem TimerInv.ignored (h : TimerInv s)
    (hmsgs : s.task.sAppEventQueue.msgs = d.event :: q.msgs)
    (hd : d.effects = [])
    (hedge : s.task.mFunction = .factoryReset → d.event.edge? = none) :
    TimerInv { s with
      task := { s.task with sAppEventQueue := q }
      dispatched := s.dispatched ++ [d] } := by
  refine h.taken hmsgs rfl (Nat.le_refl _) (fun hrun => ?_) h.oneShot
    (fun hm => ?_) (eachAfter_concat.mpr ⟨h.resets, by simp [hd]⟩)
  · obtain ⟨hm, hheld, hnone⟩ := h.running hrun
    refine ⟨hm, heldSince_concat.mpr ?_, fun e he => hnone e ?_⟩
    · rw [hedge hm]
      exact hheld
    · rw [hmsgs]
      exact List.mem_cons_of_mem _ he
  · rw [hedge hm, Option.none_or]
    exact h.pressed hm

/-- A push starts the timer anew, and no queued expiry is of that start. -/
theorem TimerInv.push (h : TimerInv s)
    (hmsgs : s.task.sAppEventQueue.msgs = d.event :: q.msgs)
    (hedge : d.event.edge? = some .push) (hd : d.effects = [])
    (hgen : d.generation = s.task.sFunctionTimer.generation + 1) :
    TimerInv { s with
      task := { { s.task with sAppEventQueue := q }.startTimer
          kFactoryResetTriggerTimeout with mFunction := .factoryReset }
      dispatched := s.dispatched ++ [d] } := by
  refine h.taken hmsgs rfl (Nat.le_succ _) (fun _ => ⟨rfl, ?_, ?_⟩)
    (fun r hr => ?_) (fun _ => ?_)
    (eachAfter_concat.mpr ⟨h.resets, by simp [hd]⟩)
  · refine heldSince_concat.mpr ?_
    rw [hedge]
    exact hgen
  · intro e he heq
    have hle := h.bounded e (by rw [hmsgs]; exact List.mem_cons_of_mem _ he)
      _ heq
    exact absurd hle (Nat.not_succ_le_self _)
  · rw [← Option.some.inj hr]
  · rw [hedge]
    rfl

theorem TimerInv.canceled (h : TimerInv s)
    (hmsgs : s.task.sAppEventQueue.msgs = d.event :: q.msgs)
    (hd : .scheduleFactoryReset ∉ d.effects) (status : LightSwitch.LedMode) :
    TimerInv { s with
      task := { { s.task with sAppEventQueue := q }.cancelTimer with
        mFunction := .noneSelected
        sStatusLED := status
        sFactoryResetLEDs := .steady false }
      dispatched := s.dispatched ++ [d] } :=
  h.taken hmsgs rfl (Nat.le_succ _) nofun nofun nofun
    (eachAfter_concat.mpr ⟨h.resets, fun hr => absurd hr hd⟩)

/-- An expiry that resets the device is one of the press going on. -/
theorem TimerInv.reset (h : TimerInv s)
    (hmsgs : s.task.sAppEventQueue.msgs = d.event :: q.msgs)
    (hexpiry : d.event.handler = some .functionTimerEventHandler)
    (hm : s.task.mFunction = .factoryReset) :
    TimerInv { s with
      task := { s.task with
        sAppEventQueue := q
        mFunction := .noneSelected
        sStatusLED := .steady true
        sFactoryResetLEDs := .steady true }
      dispatched := s.dispatched ++ [d] } := by
  obtain ⟨hstop, g, hg, before, push, mid, hsplit, hpush, hgen, hmid⟩ :=
    h.head hmsgs hexpiry hm
  refine h.taken hmsgs rfl (Nat.le_refl _) (fun hrun => ?_) h.oneShot nofun
    (eachAfter_concat.mpr ⟨h.resets, fun _ => ?_⟩)
  · dsimp only at hrun
    rw [hstop] at hrun
    cases hrun
  · refine ⟨g, hg, before, push, mid, hsplit, hpush, hgen, ?_⟩
    intro d' hd'
    rw [hmid d' hd']
    exact nofun

end Taken

theorem TimerInv.dispatch {s : System} (h : TimerInv s) :
    TimerInv s.dispatch := by
  rcases dispatch_cases s with hs | ⟨e, q, t, effects, hmsgs, hr, hs⟩
  · rw [hs]
    exact h
  have hidle : ∀ {m : FunctionEvent}, m = .noneSelected →
      m = .factoryReset → e.edge? = none := by
    intro m heq hm
    subst heq
    cases hm
  rw [hs]
  cases hedge : e.edge? with
  | some edge =>
      cases edge with
      | push =>
          rw [dispatchEvent_push _ hedge] at hr
          cases hr
          exact h.push hmsgs hedge rfl rfl
      | release =>
          rcases dispatchEvent_release { s.task with sAppEventQueue := q } hedge
            with ⟨-, status, hd⟩ | ⟨hm, hd⟩
          · rw [hd] at hr
            cases hr
            exact h.canceled hmsgs (by simp) status
          · rw [hd] at hr
            cases hr
            exact h.ignored hmsgs rfl (hidle hm)
  | none =>
      by_cases he : e.handler = some .functionTimerEventHandler
      · rcases dispatchEvent_expiry { s.task with sAppEventQueue := q } he with
          ⟨hm, hd⟩ | ⟨hm, hd⟩
        · rw [hd] at hr
          cases hr
          exact h.reset hmsgs he hm
        · rw [hd] at hr
          cases hr
          exact h.ignored hmsgs rfl (hidle hm)
      · rw [dispatchEvent_other _ hedge he] at hr
        cases hr
        exact h.ignored hmsgs rfl fun _ => hedge

theorem timerInv_boot (buttonState : BitVec 32) :
    TimerInv (System.boot buttonState) :=
  ⟨nofun, nofun, List.forall_mem_nil _, nofun, eachAfter_nil _,
    eachAfter_nil _⟩

theorem TimerInv.step {s : System} (h : TimerInv s) {i : Input}
    (hi : ExpiresBeforePush s i) : TimerInv (s.step i) := by
  cases i with
  | buttons new => exact h.buttons new
  | timerExpiry => exact h.timerExpiry hi
  | dispatch => exact h.dispatch
  | ledStateUpdate led => exact h.postOther (by simp) s.buttonState
  | chipEvent event =>
      cases event with
      | other => exact h
      | chipoBLEAdvertisingChange | connectivityChange =>
          exact ⟨h.running, h.oneShot, h.bounded, h.pressed, h.queued,
            h.resets⟩

/-! ## The runs -/

/-- In every run in which the timer never expires while the newest queued
edge is a push, every reset is by an expiry of the press that made its start,
with no release in between. -/
theorem resets_were_held (buttonState : BitVec 32) (inputs : List Input)
    (h : Along System.step ExpiresBeforePush (System.boot buttonState)
      inputs) :
    ResetsWereHeld (System.after buttonState inputs).dispatched :=
  (run_inv_along (fun _ _ hs hi => hs.step hi) (timerInv_boot buttonState)
    h).resets

/-- A hold that is let go of in time, with the expiry already queued behind
the release, and one that is not. -/
theorem resets_were_held_second :
    let inputs : List Input := [.buttons 1, .dispatch, .buttons 0,
      .timerExpiry, .dispatch, .dispatch, .buttons 1, .dispatch, .timerExpiry,
      .dispatch]
    ResetsWereHeld (System.after 0 inputs).dispatched ∧
      (System.after 0 inputs).dispatched.flatMap (·.effects) =
        [.factoryResetCanceled, .scheduleFactoryReset] :=
  ⟨resets_were_held 0 _ (by decide), by decide⟩

/-- The button is let go of and pushed again while its task is busy, and the
timer of the first press expires behind both edges. The release cancels it,
and the second push, just made, is what the device is reset by. -/
theorem reset_by_next_press :
    let inputs : List Input := [.buttons 1, .dispatch, .buttons 0, .buttons 1,
      .timerExpiry, .dispatch, .dispatch, .dispatch]
    let s := System.after 0 inputs
    s.task.failedPosts = 0 ∧
      s.dispatched.map (·.effects) =
        [[], [.factoryResetCanceled], [], [.scheduleFactoryReset]] ∧
      ¬ ResetsWereHeld s.dispatched := by
  refine ⟨by decide, by decide, fun h => ?_⟩
  obtain ⟨g, hg, before, push, mid, hsplit, hpush, hgen, hmid⟩ :=
    h [⟨AppTask.buttonEvent .buttonPushed, [], 1⟩,
        ⟨AppTask.buttonEvent .buttonReleased, [.factoryResetCanceled], 2⟩,
        ⟨AppTask.buttonEvent .buttonPushed, [], 3⟩]
      ⟨AppTask.timerEvent 1, [.scheduleFactoryReset], 3⟩ [] (by decide)
      (by decide)
  obtain rfl : 1 = g := Option.some.inj hg
  -- the only push that made start 1 is the first entry
  rcases List.append_eq_cons_iff.mp hsplit.symm with
    ⟨rfl, heq⟩ | ⟨before', rfl, heq⟩
  · obtain ⟨rfl, rfl⟩ := List.cons.inj heq
    exact hmid _ List.mem_cons_self rfl
  · have hmem : push ∈ before' ++ push :: mid := by simp
    rw [← heq] at hmem
    simp only [List.mem_cons, List.not_mem_nil, or_false] at hmem
    rcases hmem with rfl | rfl
    · cases hgen
    · cases hgen

end SmartHome.Template
