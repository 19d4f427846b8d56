import SmartHome.Machine.Watch
import SmartHome.Proofs.Edges
import SmartHome.Proofs.Expiries

/-!
# The switch button of the two-button build

With two buttons one of them has two jobs. While the device is not
advertising and nobody has commissioned it, the button starts advertising;
afterwards it is the switch. Which of the two a press is for is decided
twice, by the push and by the release, each from the state of the device at
its own time. If that changes while the button is held the two disagree:
`left_dimming` is a press that starts the gesture and a release that only
asks for advertising, and leaves the dimmer running with the button up.

`FindsAsPush` is that the two agree, `Press` the note that is kept of a push
so that it can be said, and `PressInv` what holds then: only a press of the
switch has an expiry of `sDimmerPressKeyTimer` under way, and the dimmer is
at rest unless one was dispatched in it.
-/

namespace SmartHome.LightSwitch

open Zephyr Machine

/-- What is noted of a push while its press lasts. -/
structure Press where
  /-- The push found the device ready to start advertising. -/
  advertising : Bool
  /-- It started `sDimmerPressKeyTimer`. -/
  started : Bool
deriving DecidableEq, Repr

def System.next? (s : System) (i : Input) : Option AppEvent :=
  match i with
  | .dispatch => s.task.sAppEventQueue.msgs.head?
  | _ => none

/-- The note of the press going on, after a step. -/
def notePress (cfg : Config) (press : Option Press) (s : System)
    (i : Input) : Option Press :=
  match (s.next? i).bind (·.edge? switchButton) with
  | some .push =>
      some
        { advertising := mayAdvertise cfg s.commissioning
          started := (s.step cfg i).task.sDimmerPressKeyTimer =
            s.task.sDimmerPressKeyTimer.start kDimmerTriggeredTimeout 0 }
  | some .release => none
  | none => press

/-- The application with the note of the press going on. -/
def watchPress (cfg : Config) :
    System × Option Press → Input → System × Option Press :=
  watch (System.step cfg) (notePress cfg)

/-- What is promised of a step. -/
structure PressAgrees (cfg : Config) (x : System × Option Press)
    (i : Input) : Prop where
  /-- Once a release was dispatched, the gesture is over. -/
  released :
    let s := x.1.step cfg i
    lastEdge switchButton (s.dispatched.map (·.event)) = some .release →
      s.task.sDimmerPressKeyTimer.running = none ∧
        s.task.sDimmerTimer.running = none ∧
        s.task.sWasDimmerTriggered = false
  /-- The light is toggled by a release whose push started the timer. -/
  toggled : ∀ d, (x.1.step cfg i).dispatched = x.1.dispatched ++ [d] →
    .initiateActionSwitch .toggle ∈ d.effects →
      d.event.edge? switchButton = some .release ∧
        ∃ press ∈ x.2, press.started = true

/-- A release finds the device as its push did; one without a push, of a
button held down since the start, finds it ready to start advertising. -/
def FindsAsPush (cfg : Config) (x : System × Option Press) (i : Input) :
    Prop :=
  ∀ e ∈ x.1.next? i, e.edge? switchButton = some .release →
    mayAdvertise cfg x.1.commissioning =
      (x.2.map (·.advertising)).getD true

instance (cfg : Config) : DecidableRel (FindsAsPush cfg) := fun _ _ =>
  inferInstanceAs (Decidable (∀ e ∈ _, _ → _))

/-! ## The press and the timers -/

def switching (press : Option Press) : Bool :=
  press.any (!·.advertising)

theorem switching_eq (press : Option Press) :
    switching press = !(press.map (·.advertising)).getD true := by
  cases press <;> simp [switching]

structure PressInv (t : AppTask) (press : Option Press) : Prop where
  trigger : t.Armed .dimmerTrigger
    (if switching press && !t.sWasDimmerTriggered then 1 else 0)
  dimmer : t.sWasDimmerTriggered = false → t.sDimmerTimer.running = none
  triggered : t.sWasDimmerTriggered = true → switching press = true

theorem PressInv.rest {t : AppTask} {press : Option Press}
    (h : PressInv t press) (hpress : switching press = false) :
    t.sDimmerPressKeyTimer.running = none ∧ t.sDimmerTimer.running = none ∧
      t.sWasDimmerTriggered = false := by
  have hflag : t.sWasDimmerTriggered = false := by
    cases hf : t.sWasDimmerTriggered with
    | false => rfl
    | true => exact absurd (hpress.symm.trans (h.triggered hf)) (by decide)
  refine ⟨?_, h.dimmer hflag, hflag⟩
  have hle := h.trigger.underWay
  rw [hpress, Bool.false_and, if_neg Bool.false_ne_true] at hle
  cases hr : t.sDimmerPressKeyTimer.running with
  | none => rfl
  | some r =>
      have hrun : (t.timer .dimmerTrigger).running.isSome = true := by
        rw [AppTask.timer, hr]
        rfl
      rw [if_pos hrun] at hle
      omega

/-- Out of a press of the switch nothing is under way, so which press it was
makes no difference. -/
theorem PressInv.of_not_switching {t : AppTask} {press press' : Option Press}
    (h : PressInv t press) (hpress : switching press = false)
    (hpress' : switching press' = false) : PressInv t press' := by
  refine ⟨?_, h.dimmer, fun hf => ?_⟩
  · rw [hpress', ← hpress]
    exact h.trigger
  · rw [hpress', ← hpress]
    exact h.triggered hf

section Dispatch

variable {cfg : Config} {env : Commissioning} {t : AppTask} {e : AppEvent}
  {q : MsgQueue AppEvent kAppEventQueueSize} {press press' : Option Press}

theorem PressInv.frame {t' : AppTask} (h : PressInv t press)
    {posted : List AppEvent}
    (htrigger : t'.sDimmerPressKeyTimer = t.sDimmerPressKeyTimer)
    (hdimmer : t'.sDimmerTimer = t.sDimmerTimer)
    (hflag : t'.sWasDimmerTriggered = t.sWasDimmerTriggered)
    (hmsgs : t'.sAppEventQueue.msgs = t.sAppEventQueue.msgs ++ posted)
    (hposted : ∀ e ∈ posted, ∀ timer, e.generation? timer = none) :
    PressInv t' press := by
  refine ⟨?_, ?_, ?_⟩
  · rw [hflag]
    exact h.trigger.append htrigger hmsgs fun e he => hposted e he _
  · rw [hflag, hdimmer]
    exact h.dimmer
  · rw [hflag]
    exact h.triggered

theorem PressInv.untouched {t' : AppTask} (h : PressInv t press)
    (htrigger : t'.sDimmerPressKeyTimer = t.sDimmerPressKeyTimer)
    (hdimmer : t'.sDimmerTimer = t.sDimmerTimer)
    (hflag : t'.sWasDimmerTriggered = t.sWasDimmerTriggered)
    (hmsgs : t'.sAppEventQueue.msgs = t.sAppEventQueue.msgs) :
    PressInv t' press := by
  have hposted : t'.sAppEventQueue.msgs = t.sAppEventQueue.msgs ++ [] := by
    rw [hmsgs, List.append_nil]
  exact h.frame htrigger hdimmer hflag hposted (List.forall_mem_nil _)

theorem PressInv.taken (h : PressInv t press)
    (hmsgs : t.sAppEventQueue.msgs = e :: q.msgs) :
    PressInv { t with sAppEventQueue := q } press :=
  ⟨h.trigger.taken hmsgs, h.dimmer, h.triggered⟩

/-! ## What each handler makes of the press -/

theorem PressInv.pushed (h : PressInv t none)
    (hbounded : t.Bounded .dimmerTrigger) (started : Bool) :
    PressInv (t.startTimer .dimmerTrigger kDimmerTriggeredTimeout)
      (some ⟨false, started⟩) := by
  have hflag := (h.rest rfl).2.2
  refine ⟨?_, fun _ => h.dimmer hflag, fun _ => rfl⟩
  show AppTask.Armed _ _ (if true && !t.sWasDimmerTriggered then 1 else 0)
  rw [hflag]
  exact hbounded.started rfl rfl

theorem pressInv_switchButtonReleased (hbounded : t.Bounded .dimmerTrigger) :
    PressInv t.switchButtonReleased.1 none :=
  ⟨hbounded.stopped rfl rfl, fun _ => rfl, nofun⟩

theorem PressInv.advertises (h : PressInv t press)
    (hpress : switching press = false) :
    PressInv (t.postEvent (AppTask.startBLEAdvertisementEvent switchButton))
      none := by
  obtain ⟨posted, hq, hposted⟩ :=
    t.queue_postEvent (AppTask.startBLEAdvertisementEvent switchButton)
  obtain ⟨q', n, hp⟩ :=
    t.postEvent_frame (AppTask.startBLEAdvertisementEvent switchButton)
  refine (h.of_not_switching hpress rfl).frame ?_ ?_ ?_ hq
    fun e' he' timer => ?_
  · rw [hp]
  · rw [hp]
  · rw [hp]
  · rw [hposted e' he']
    rfl

/-- The timer's one expiry is that of a press of the switch, which is now a
long one. -/
theorem PressInv.triggerExpired (h : PressInv t press)
    (hbounded : t.Bounded .dimmerTrigger)
    (hmsgs : t.sAppEventQueue.msgs = e :: q.msgs)
    (hlatest : e.generation? .dimmerTrigger =
      some (t.timer .dimmerTrigger).generation) :
    PressInv { t with sAppEventQueue := q }.dimmerTriggerExpired.1 press := by
  obtain ⟨m, hone, -⟩ := h.trigger.takenFresh hmsgs hlatest
  have hpress : switching press = true := by
    cases hs : switching press with
    | true => rfl
    | false =>
        rw [hs] at hone
        cases hone
  refine ⟨?_, nofun, fun _ => hpress⟩
  show AppTask.Armed _ _ (if switching press && false then 1 else 0)
  rw [Bool.and_false]
  exact (hbounded.taken hmsgs).stopped rfl rfl

theorem press_dispatchEvent (h : PressInv t press)
    (hbounded : t.Bounded .dimmerTrigger)
    (hmsgs : t.sAppEventQueue.msgs = e :: q.msgs)
    (hfresh : ∀ generation ∈ e.generation? .dimmerTrigger,
      generation = (t.timer .dimmerTrigger).generation)
    (hpush : e.edge? switchButton = some .push → press = none)
    (hrelease : e.edge? switchButton = some .release →
      mayAdvertise cfg env = (press.map (·.advertising)).getD true)
    {started : Bool}
    (hpress' : press' = match e.edge? switchButton with
      | some .push => some ⟨mayAdvertise cfg env, started⟩
      | some .release => none
      | none => press) :
    PressInv
      (AppTask.dispatchEvent cfg env { t with sAppEventQueue := q } e).1
      press' := by
  have htaken := h.taken hmsgs
  have hbounded' := hbounded.taken hmsgs
  have hnone : ∀ {k}, e.kind = k → k ≠ .pushed switchButton →
      k ≠ .released switchButton → press' = press := by
    intro k hk hp hr
    rw [hpress', edge_eq_none hk hp hr]
  have hreleased : ∀ {adv}, e.kind = .released switchButton →
      mayAdvertise cfg env = adv → press' = none ∧ switching press = !adv := by
    intro adv hk heq
    subst heq
    have hedge : e.edge? switchButton = some .release := edge_release.mpr hk
    rw [hpress', hedge, switching_eq, hrelease hedge]
    exact ⟨rfl, rfl⟩
  have hpushed : ∀ {adv}, e.kind = .pushed switchButton →
      mayAdvertise cfg env = adv →
      press = none ∧ press' = some ⟨adv, started⟩ := by
    intro adv hk heq
    subst heq
    have hedge : e.edge? switchButton = some .push := edge_push.mpr hk
    rw [hpress', hedge]
    exact ⟨hpush hedge, rfl⟩
  apply AppTask.dispatchEvent_cases cfg env { t with sAppEventQueue := q } e
    (motive := fun r => PressInv r.1 press')
  case functionPushed =>
    intro hk
    rw [hnone hk (by simp) (by simp)]
    exact htaken.untouched rfl rfl rfl rfl
  case functionReleased =>
    intro hk
    obtain ⟨_, _, _, hr, -⟩ := AppTask.functionButtonReleased_eq cfg
      { t with sAppEventQueue := q }
    rw [hnone hk (by simp) (by simp), hr]
    exact htaken.untouched rfl rfl rfl rfl
  case functionExpired =>
    intro hk
    rw [hnone hk (by simp) (by simp)]
    rcases AppTask.functionTimerExpired_eq cfg
        { t with sAppEventQueue := q } with ⟨-, _, _, _, hr⟩ | ⟨-, hr⟩ <;>
      rw [hr] <;>
      exact htaken.untouched rfl rfl rfl rfl
  case switchPushed =>
    intro hk hadv
    obtain ⟨rfl, hp⟩ := hpushed hk hadv
    rw [hp]
    exact htaken.pushed hbounded' started
  case pushIgnored =>
    intro hk hadv
    obtain ⟨rfl, hp⟩ := hpushed hk hadv
    rw [hp]
    exact htaken.of_not_switching rfl rfl
  case switchReleased =>
    intro hk hadv
    rw [(hreleased hk hadv).1]
    exact pressInv_switchButtonReleased hbounded'
  case advertises =>
    intro hk hadv
    obtain ⟨hp, hswitching⟩ := hreleased hk hadv
    rw [hp]
    exact htaken.advertises hswitching
  case triggerExpired =>
    intro hk
    obtain ⟨g, hg⟩ := generation_of_expired hk
    rw [hnone hk (by simp) (by simp)]
    exact h.triggerExpired hbounded hmsgs (by rw [hg, hfresh g hg])
  case dimmerExpired =>
    intro hk
    rw [hnone hk (by simp) (by simp)]
    exact htaken
  case unused =>
    intro pinNo _ hs hk
    rcases hk with hk | hk <;>
      rw [hnone hk (by simp [hs]) (by simp [hs])] <;>
      exact htaken
  case other =>
    intro hk effects _
    rw [hnone hk (by simp) (by simp)]
    exact htaken.untouched rfl rfl rfl rfl

theorem toggle_dispatchEvent
    (hrelease : e.edge? switchButton = some .release →
      mayAdvertise cfg env = (press.map (·.advertising)).getD true)
    (h : .initiateActionSwitch .toggle ∈ (t.dispatchEvent cfg env e).2) :
    e.edge? switchButton = some .release ∧ switching press = true := by
  have hk : e.kind = .released switchButton :=
    AppTask.kind_of_effect cfg env t h
  have hedge : e.edge? switchButton = some .release := edge_release.mpr hk
  refine ⟨hedge, ?_⟩
  rw [switching_eq, ← hrelease hedge]
  rw [AppTask.dispatchEvent_switchReleased cfg env t hk] at h
  split at h
  next => cases h
  next hadv => rw [eq_false_of_ne_true hadv]; rfl

theorem started_switchPushed (cfg : Config) (env : Commissioning)
    (t : AppTask) (h : e.kind = .pushed switchButton) :
    (t.dispatchEvent cfg env e).1.sDimmerPressKeyTimer =
        t.sDimmerPressKeyTimer.start kDimmerTriggeredTimeout 0 ↔
      mayAdvertise cfg env = false := by
  rw [AppTask.dispatchEvent_switchPushed cfg env t h]
  cases mayAdvertise cfg env with
  | false => exact iff_of_true rfl rfl
  | true =>
      refine iff_of_false (fun heq => ?_) (by decide)
      have hgen := congrArg KTimer.generation heq
      exact absurd hgen.symm (Nat.succ_ne_self _)

end Dispatch

/-! ## The invariant over a step -/

structure WatchInv (x : System × Option Press) : Prop where
  bounded : x.1.task.Bounded .dimmerTrigger
  edges : EdgesInv switchButton x.1
  press : PressInv x.1.task x.2
  noted : x.2.isSome = true ↔
    lastEdge switchButton (x.1.dispatched.map (·.event)) = some .push
  started : ∀ press ∈ x.2, press.started = !press.advertising

theorem WatchInv.released {x : System × Option Press} (h : WatchInv x)
    (hlast : lastEdge switchButton (x.1.dispatched.map (·.event)) =
      some .release) :
    x.1.task.sDimmerPressKeyTimer.running = none ∧
      x.1.task.sDimmerTimer.running = none ∧
      x.1.task.sWasDimmerTriggered = false := by
  refine h.press.rest ?_
  cases hp : x.2 with
  | none => rfl
  | some press =>
      have hpush := h.noted.mp (by rw [hp]; rfl)
      cases hlast.symm.trans hpush

theorem dimmer_step (cfg : Config) {s : System} {i : Input}
    (hi : i ≠ .dispatch) (h : s.task.sDimmerTimer.running = none) :
    (s.step cfg i).task.sDimmerTimer.running = none := by
  have hposts : ∀ (t : AppTask) (events : List AppEvent),
      t.sDimmerTimer.running = none →
        (events.foldl AppTask.postEvent t).sDimmerTimer.running = none := by
    intro t events ht
    obtain ⟨q, n, hp⟩ := t.posts_frame events
    rw [hp]
    exact ht
  cases i with
  | dispatch => exact absurd rfl hi
  | buttons new => exact hposts s.task _ h
  | timerExpiry timer =>
      show (s.task.timerExpiry timer).sDimmerTimer.running = none
      rw [AppTask.timerExpiry]
      split
      next hrun =>
        refine hposts _ [_] ?_
        cases timer with
        | function | dimmerTrigger => exact h
        | dimmer =>
            rw [AppTask.timer, h] at hrun
            cases hrun
      next => exact h
  | identifyStart | identifyStop | ledStateUpdate => exact hposts s.task [_] h
  | chipEvent event =>
      obtain ⟨_, _, _, _, _, hc⟩ :=
        AppTask.chipEventHandler_eq cfg s.task event
      rw [System.step, hc]
      exact h
  | commissioning env => exact h

theorem PressInv.step (cfg : Config) {s : System} {press : Option Press}
    (h : PressInv s.task press) {i : Input} (hi : i ≠ .dispatch) :
    PressInv (s.step cfg i).task press := by
  obtain ⟨-, hflag, -⟩ := step_frame cfg s hi
  refine ⟨?_, ?_, ?_⟩
  · rw [hflag]
    exact armed_step cfg h.trigger hi
  · rw [hflag]
    exact fun hf => dimmer_step cfg hi (h.dimmer hf)
  · rw [hflag]
    exact h.triggered

theorem WatchInv.idle {cfg : Config} {x : System × Option Press} {i : Input}
    (h : WatchInv x) (hnext : x.1.next? i = none)
    (hposts : (x.1.step cfg i).task.failedPosts = 0)
    (hpress : PressInv (x.1.step cfg i).task x.2)
    (hdispatched : (x.1.step cfg i).dispatched = x.1.dispatched) :
    WatchInv (watchPress cfg x i) ∧ PressAgrees cfg x i := by
  have hnote : (watchPress cfg x i).2 = x.2 := by
    show notePress cfg x.2 x.1 i = x.2
    rw [notePress, hnext]
    rfl
  have hinv : WatchInv (watchPress cfg x i) := by
    refine ⟨bounded_step cfg h.bounded i, h.edges.step (Or.inr rfl) hposts,
      ?_, ?_, ?_⟩
    · rw [hnote]
      exact hpress
    · rw [hnote]
      show _ ↔ lastEdge switchButton
        ((x.1.step cfg i).dispatched.map (·.event)) = _
      rw [hdispatched]
      exact h.noted
    · rw [hnote]
      exact h.started
  refine ⟨hinv, hinv.released, fun d hd => ?_⟩
  have hlen := congrArg List.length (hdispatched.symm.trans hd)
  rw [List.length_append] at hlen
  exact absurd hlen (Nat.ne_of_lt (Nat.lt_succ_self _))

section Taken

variable {cfg : Config} {s : System} {press : Option Press} {e : AppEvent}
  {q : MsgQueue AppEvent kAppEventQueueSize} {t : AppTask}
  {effects : List Effect}

theorem notePress_dispatch (hmsgs : s.task.sAppEventQueue.msgs = e :: q.msgs)
    (hs : (s.step cfg .dispatch).task = t) :
    notePress cfg press s .dispatch =
      match e.edge? switchButton with
      | some .push =>
          some
            { advertising := mayAdvertise cfg s.commissioning
              started := t.sDimmerPressKeyTimer =
                s.task.sDimmerPressKeyTimer.start kDimmerTriggeredTimeout 0 }
      | some .release => none
      | none => press := by
  have hnext : s.next? .dispatch = some e := by
    show s.task.sAppEventQueue.msgs.head? = some e
    rw [hmsgs]
    rfl
  rw [notePress, hs, hnext]
  rfl

theorem isSome_notePress (hmsgs : s.task.sAppEventQueue.msgs = e :: q.msgs)
    (h : press.isSome = true ↔
      lastEdge switchButton (s.dispatched.map (·.event)) = some .push) :
    (notePress cfg press s .dispatch).isSome = true ↔
      lastEdge switchButton
        ((s.dispatched ++ [Dispatch.mk e effects]).map (·.event)) =
          some .push := by
  rw [notePress_dispatch hmsgs rfl, List.map_append, List.map_singleton,
    lastEdge_concat]
  cases e.edge? switchButton with
  | none => exact h
  | some edge => cases edge <;> simp

theorem started_notePress (hmsgs : s.task.sAppEventQueue.msgs = e :: q.msgs)
    (hr : AppTask.dispatchEvent cfg s.commissioning
      { s.task with sAppEventQueue := q } e = (t, effects))
    (hs : (s.step cfg .dispatch).task = t)
    (h : ∀ p ∈ press, p.started = !p.advertising) :
    ∀ p ∈ notePress cfg press s .dispatch, p.started = !p.advertising := by
  rw [notePress_dispatch hmsgs hs]
  cases he : e.edge? switchButton with
  | none => exact h
  | some edge =>
      cases edge with
      | release => exact fun _ => nofun
      | push =>
          intro p hp
          obtain rfl := Option.some.inj hp
          have hstart := started_switchPushed cfg s.commissioning
            { s.task with sAppEventQueue := q } (edge_push.mp he)
          rw [hr] at hstart
          cases hadv : mayAdvertise cfg s.commissioning with
          | false => exact decide_eq_true (hstart.mpr hadv)
          | true =>
              refine decide_eq_false fun heq => ?_
              exact absurd (hadv.symm.trans (hstart.mp heq)) (by decide)

end Taken

theorem WatchInv.dispatch {cfg : Config} {x : System × Option Press}
    (h : WatchInv x) (hfresh : DispatchesFresh .dimmerTrigger x.1 .dispatch)
    (hfinds : FindsAsPush cfg x .dispatch)
    (hposts : (x.1.step cfg .dispatch).task.failedPosts = 0)
    {e : AppEvent} {q : MsgQueue AppEvent kAppEventQueueSize} {t : AppTask}
    {effects : List Effect}
    (hmsgs : x.1.task.sAppEventQueue.msgs = e :: q.msgs)
    (hr : AppTask.dispatchEvent cfg x.1.commissioning
      { x.1.task with sAppEventQueue := q } e = (t, effects))
    (hs : x.1.step cfg .dispatch =
      { x.1 with
        task := t
        dispatched := x.1.dispatched ++ [⟨e, effects⟩] }) :
    WatchInv (watchPress cfg x .dispatch) ∧ PressAgrees cfg x .dispatch := by
  have hhead : e ∈ x.1.task.sAppEventQueue.msgs.head? := by
    rw [hmsgs]
    rfl
  have htask : (x.1.step cfg .dispatch).task = t := by rw [hs]
  have hdispatched : (x.1.step cfg .dispatch).dispatched =
      x.1.dispatched ++ [⟨e, effects⟩] := by
    rw [hs]
  have hpush : e.edge? switchButton = some .push → x.2 = none := by
    intro he
    have hlast := h.edges.next hmsgs he
    exact Option.not_isSome_iff_eq_none.mp fun hsome =>
      hlast (h.noted.mp hsome)
  have hpress := press_dispatchEvent h.press h.bounded hmsgs
    (hfresh rfl e hhead) hpush (hfinds e hhead)
    (notePress_dispatch hmsgs htask)
  rw [hr] at hpress
  have hinv : WatchInv (watchPress cfg x .dispatch) := by
    refine ⟨bounded_step cfg h.bounded .dispatch,
      h.edges.step (Or.inr rfl) hposts, ?_, ?_,
      started_notePress hmsgs hr htask h.started⟩
    · show PressInv (x.1.step cfg .dispatch).task _
      rw [htask]
      exact hpress
    · show _ ↔ lastEdge switchButton
        ((x.1.step cfg .dispatch).dispatched.map (·.event)) = _
      rw [hdispatched]
      exact isSome_notePress hmsgs h.noted
  refine ⟨hinv, hinv.released, fun d hd htog => ?_⟩
  obtain rfl : Dispatch.mk e effects = d :=
    List.singleton_inj.mp (List.append_cancel_left (hdispatched.symm.trans hd))
  obtain ⟨he, hswitching⟩ := toggle_dispatchEvent (hfinds e hhead)
    (show _ ∈ (AppTask.dispatchEvent _ _ _ e).2 by rw [hr]; exact htog)
  refine ⟨he, ?_⟩
  cases hp : x.2 with
  | none =>
      rw [hp] at hswitching
      cases hswitching
  | some press =>
      refine ⟨press, rfl, ?_⟩
      rw [h.started press hp]
      rw [hp] at hswitching
      exact hswitching

theorem WatchInv.step {cfg : Config} {x : System × Option Press} {i : Input}
    (h : WatchInv x) (hfresh : DispatchesFresh .dimmerTrigger x.1 i)
    (hfinds : FindsAsPush cfg x i)
    (hposts : (x.1.step cfg i).task.failedPosts = 0) :
    WatchInv (watchPress cfg x i) ∧ PressAgrees cfg x i := by
  by_cases hi : i = .dispatch
  case neg =>
    have hnext : x.1.next? i = none := by
      cases i <;> first | rfl | exact absurd rfl hi
    exact h.idle hnext hposts (h.press.step cfg hi) (step_frame cfg x.1 hi).2.2
  subst hi
  rcases AppTask.dispatch_cases cfg x.1 with ⟨hmsgs, hs⟩ |
    ⟨e, q, t, effects, hmsgs, hr, hs⟩
  · have hstep : x.1.step cfg .dispatch = x.1 := hs
    refine h.idle ?_ hposts ?_ ?_
    · show x.1.task.sAppEventQueue.msgs.head? = none
      rw [hmsgs]
      rfl
    · rw [hstep]
      exact h.press
    · rw [hstep]
  · exact h.dispatch hfresh hfinds hposts hmsgs hr hs

theorem watchInv_boot (cfg : Config) (buttonState : BitVec 32) :
    WatchInv (System.boot cfg buttonState, none) := by
  refine ⟨bounded_boot cfg buttonState _, edgesInv_boot cfg _ buttonState, ?_,
    ?_, nofun⟩
  · obtain ⟨status, factoryReset, hinit⟩ := AppTask.updateStatusLED_eq cfg {}
    rw [System.boot, AppTask.init, hinit]
    exact ⟨⟨fun r hr => absurd hr.symm (Option.some_ne_none r),
        Nat.le_refl _⟩, fun _ => rfl, fun hw => Bool.noConfusion hw⟩
  · exact iff_of_false Bool.noConfusion fun hl =>
      Option.some_ne_none _ hl.symm

/-! ## The runs -/

/-- In every run in which no post fails, no expiry of `sDimmerPressKeyTimer`
is dispatched stale and each release finds the device as its push did, the
push and the release agree on what the press is for. -/
theorem press_agrees (cfg : Config) (buttonState : BitVec 32)
    (inputs : List Input)
    (hposts : (System.after cfg buttonState inputs).task.failedPosts = 0)
    (hfresh : Along (System.step cfg) (DispatchesFresh .dimmerTrigger)
      (System.boot cfg buttonState) inputs)
    (hfinds : Along (watchPress cfg) (FindsAsPush cfg)
      (System.boot cfg buttonState, none) inputs) :
    Along (watchPress cfg) (PressAgrees cfg)
      (System.boot cfg buttonState, none) inputs := by
  have hzero : Along (System.step cfg)
      (fun s i => (s.step cfg i).task.failedPosts = 0)
      (System.boot cfg buttonState) inputs :=
    @along_of_run_eq_zero _ _ (System.step cfg) (·.task.failedPosts)
      (failedPosts_step cfg) _ _ hposts
  have hboth := (along_watch_fst _ (notePress cfg)
    (x := (System.boot cfg buttonState, none))).mpr (hfresh.and hzero)
  have hall := Along.and hboth hfinds
  refine @Along.of_inv _ _ (watchPress cfg) _ _ WatchInv ?_ ?_ _
    (watchInv_boot cfg buttonState) _ hall
  · intro x i hx hboth
    obtain ⟨⟨hf, hz⟩, hfind⟩ := hboth
    exact (hx.step hf hfind hz).1
  · intro x i hx hboth
    obtain ⟨⟨hf, hz⟩, hfind⟩ := hboth
    exact (hx.step hf hfind hz).2

/-- A press that starts advertising, and after the device was commissioned a
long press and a short one. -/
theorem press_agrees_commissioned :
    let cfg : Config := ⟨true, true, true, true⟩
    let inputs : List Input := [.buttons 2, .dispatch, .buttons 0, .dispatch,
      .dispatch, .commissioning ⟨false, 1⟩, .buttons 2, .dispatch,
      .timerExpiry .dimmerTrigger, .dispatch, .buttons 0, .dispatch,
      .buttons 2, .dispatch, .buttons 0, .dispatch]
    Along (watchPress cfg) (PressAgrees cfg) (System.boot cfg 0, none)
        inputs ∧
      (System.after cfg 0 inputs).dispatched.flatMap (·.effects) =
        [.openBasicCommissioningWindow, .initiateActionSwitch .on,
          .initiateActionSwitch .toggle] :=
  ⟨press_agrees _ 0 _ (by decide) (by decide) (by decide), by decide⟩

/-- The last fabric is removed during a long press: the release asks for
advertising, and the dimmer runs on. -/
theorem left_dimming :
    let cfg : Config := ⟨true, true, true, true⟩
    let inputs : List Input := [.commissioning ⟨false, 1⟩, .buttons 2,
      .dispatch, .timerExpiry .dimmerTrigger, .dispatch,
      .commissioning ⟨false, 0⟩, .buttons 0, .dispatch]
    let s := System.after cfg 0 inputs
    s.task.failedPosts = 0 ∧
      Along (System.step cfg) (DispatchesFresh .dimmerTrigger)
        (System.boot cfg 0) inputs ∧
      Along (System.step cfg) (DispatchesFresh .dimmer)
        (System.boot cfg 0) inputs ∧
      s.task.sDimmerTimer.running.isSome = true ∧
      ¬ Along (watchPress cfg) (PressAgrees cfg) (System.boot cfg 0, none)
        inputs := by
  refine ⟨by decide, by decide, by decide, by decide, fun h => ?_⟩
  have hlast := h.2.2.2.2.2.2.2.1
  exact absurd (hlast.released (by decide)).2.1 (by decide)

end SmartHome.LightSwitch
