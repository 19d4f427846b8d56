import SmartHome.LightSwitch.System

/-!
# What a step of the light switch can do

The invariants over runs are proved against this file and not against the
handlers. Dispatching an event is settled by the event's kind: one equation
for each branch of the two button handlers and of the timer handler, and
`dispatchEvent_other` for everything else, which can set the Identify LED
and open a commissioning window and nothing more. `dispatchEvent_cases` puts
them together, and `kind_of_effect` reads it backwards: from what was done to
the kind of the event that did it.

On the posting side, `postEvent_cases` says that a post appends one event or
drops it, `posts_frame` that posts touch nothing but the queue, `posts_eq`
that a series of posts in which none is dropped appends them all, and
`edgeEvents_xor` which events a change of the button state posts.
`step_frame` lists what only a dispatch can change.
-/

namespace SmartHome.LightSwitch

open Zephyr Machine

/-! ## The kinds of the events that are posted -/

@[simp] theorem kind_pushEvent (pinNo : DkButton) :
    (AppTask.pushEvent pinNo).kind = .pushed pinNo := rfl

@[simp] theorem kind_releaseEvent (pinNo : DkButton) :
    (AppTask.releaseEvent pinNo).kind = .released pinNo := rfl

theorem kind_pushed {e : AppEvent} {pinNo : DkButton}
    (h : e.kind = .pushed pinNo) :
    e.type = .button ∧ e.handler = some .buttonPushHandler ∧
      ∃ action, e.data = .buttonEvent pinNo action := by
  unfold AppEvent.kind at h
  split at h <;> cases h
  next ht hh hd => exact ⟨ht, hh, _, hd⟩

theorem kind_released {e : AppEvent} {pinNo : DkButton}
    (h : e.kind = .released pinNo) :
    e.type = .button ∧ e.handler = some .buttonReleaseHandler ∧
      ∃ action, e.data = .buttonEvent pinNo action := by
  unfold AppEvent.kind at h
  split at h <;> cases h
  next ht hh hd => exact ⟨ht, hh, _, hd⟩

theorem kind_expired {e : AppEvent} {timer : Timer}
    (h : e.kind = .expired timer) :
    e.type = .timer ∧ e.handler = some .timerEventHandler ∧
      ∃ generation, e.data = .timerEvent timer generation := by
  unfold AppEvent.kind at h
  split at h <;> cases h
  next ht hh hd => exact ⟨ht, hh, _, hd⟩

theorem edge_push {b : DkButton} {e : AppEvent} :
    e.edge? b = some .push ↔ e.kind = .pushed b := by
  unfold AppEvent.edge?
  cases e.kind <;> simp

theorem edge_release {b : DkButton} {e : AppEvent} :
    e.edge? b = some .release ↔ e.kind = .released b := by
  unfold AppEvent.edge?
  cases e.kind <;> simp

theorem edge_eq_none {b : DkButton} {e : AppEvent} {k : EventKind}
    (h : e.kind = k) (hp : k ≠ .pushed b) (hr : k ≠ .released b) :
    e.edge? b = none := by
  subst h
  cases he : e.edge? b with
  | none => rfl
  | some edge =>
      cases edge with
      | push => exact absurd (edge_push.mp he) hp
      | release => exact absurd (edge_release.mp he) hr

theorem lastEdge_append_of_none {b : DkButton} {older newer : List AppEvent}
    (h : newer.filterMap (·.edge? b) = []) :
    lastEdge b (older ++ newer) = lastEdge b older := by
  rw [lastEdge, List.filterMap_append, h, List.append_nil, lastEdge]

theorem lastEdge_append_of_some {b : DkButton} {older newer : List AppEvent}
    {edge : Edge} (h : lastEdge b newer = some edge) :
    lastEdge b (older ++ newer) = some edge := by
  rw [lastEdge] at h
  rw [lastEdge, List.filterMap_append, List.getLast?_append, h]
  rfl

theorem lastEdge_concat (b : DkButton) (events : List AppEvent)
    (e : AppEvent) :
    lastEdge b (events ++ [e]) = (e.edge? b).or (lastEdge b events) :=
  lastLetter_concat (AppEvent.edge? b) events e

/-- What an event makes of the Identify LED: only the two Identify lambdas
set it. -/
def AppEvent.identifyLed (e : AppEvent) (led : LedMode) : LedMode :=
  match e.handler with
  | some .identifyStart => .blinking kIdentifyBlinkRate kIdentifyBlinkRate
  | some .identifyStop => .steady false
  | _ => led

/-- The kind of event that has a given effect. The toggle is the release's;
any other switch command is the one that dimming begins with. -/
def Effect.cause : Effect → EventKind
  | .startServer | .factoryResetCanceled => .released functionButton
  | .scheduleFactoryReset => .expired .function
  | .initiateActionSwitch .toggle => .released switchButton
  | .initiateActionSwitch _ => .expired .dimmerTrigger
  | .dimmerChangeBrightness => .expired .dimmer
  | .openBasicCommissioningWindow => .other

/-- What both button handlers of the two-button build ask before anything
else: nobody has commissioned the device and it is not advertising, so the
button is to start that. -/
def mayAdvertise (cfg : Config) (env : Commissioning) : Bool :=
  cfg.twoButtons && !env.isBLEAdvertisingEnabled && env.fabricCount == 0

namespace AppTask

variable (cfg : Config) (env : Commissioning) (t : AppTask) {e : AppEvent}

/-! ## The LEDs

Neither of the two functions that only set LEDs touches anything else. -/

theorem updateStatusLED_eq : ∃ status factoryReset, t.updateStatusLED cfg =
    { t with sStatusLED := status, sFactoryResetLEDs := factoryReset } := by
  unfold updateStatusLED
  split
  · exact ⟨_, _, rfl⟩
  · exact ⟨t.sStatusLED, t.sFactoryResetLEDs, rfl⟩

theorem blinkAllLeds_eq : ∃ status identify factoryReset,
    t.blinkAllLeds cfg =
      { t with
        sStatusLED := status
        sIdentifyLED := identify
        sFactoryResetLEDs := factoryReset } := by
  unfold blinkAllLeds
  split
  · exact ⟨_, _, _, rfl⟩
  · exact ⟨t.sStatusLED, t.sIdentifyLED, t.sFactoryResetLEDs, rfl⟩

/-- The device events leave the timers, the queue and the record of the
button functions alone. -/
theorem chipEventHandler_eq (event : ChipDeviceEvent) :
    ∃ provisioned enabled ble status factoryReset,
      t.chipEventHandler cfg event =
        { t with
          sIsNetworkProvisioned := provisioned
          sIsNetworkEnabled := enabled
          sHaveBLEConnections := ble
          sStatusLED := status
          sFactoryResetLEDs := factoryReset } := by
  cases event with
  | chipoBLEAdvertisingChange n =>
      obtain ⟨s₁, f₁, h₁⟩ := updateStatusLED_eq cfg t
      simp only [chipEventHandler, h₁]
      obtain ⟨s₂, f₂, h₂⟩ := updateStatusLED_eq cfg
        { t with
          sHaveBLEConnections := n != 0
          sStatusLED := s₁
          sFactoryResetLEDs := f₁ }
      exact ⟨_, _, n != 0, s₂, f₂, h₂⟩
  | connectivityChange provisioned enabled =>
      obtain ⟨s₁, f₁, h₁⟩ := updateStatusLED_eq cfg
        { t with
          sIsNetworkProvisioned := provisioned
          sIsNetworkEnabled := enabled }
      exact ⟨provisioned, enabled, t.sHaveBLEConnections, s₁, f₁, h₁⟩
  | other => exact ⟨_, _, _, _, _, rfl⟩

/-! ## Dispatching, by the kind of the event -/

/-- A release of the function button, whatever `mFunction` was. -/
theorem functionButtonReleased_eq : ∃ status factoryReset effect,
    t.functionButtonReleased cfg =
      ({ t with
          sFunctionTimer := t.sFunctionTimer.stop
          mFunction := .noneSelected
          sStatusLED := status
          sFactoryResetLEDs := factoryReset }, effect) ∧
      ∀ x ∈ effect, x = .startServer ∨ x = .factoryResetCanceled := by
  cases hm : t.mFunction with
  | noneSelected =>
      rw [functionButtonReleased, if_pos hm]
      dsimp only
      split
      · obtain ⟨status, factoryReset, h⟩ := updateStatusLED_eq cfg
          { t.cancelTimer .function with mFunction := .noneSelected }
        exact ⟨status, factoryReset, _, by rw [h]; rfl, by simp⟩
      · exact ⟨t.sStatusLED, t.sFactoryResetLEDs, _, rfl, by simp⟩
  | factoryReset =>
      obtain ⟨status, factoryReset, h⟩ := updateStatusLED_eq cfg t
      rw [functionButtonReleased, if_neg (by rw [hm]; decide), if_pos hm]
      dsimp only
      exact ⟨status, factoryReset, _, by rw [h]; rfl, by simp⟩

/-- An expiry of the function timer: the first one starts the countdown, the
next one resets the device. -/
theorem functionTimerExpired_eq :
    (t.mFunction = .noneSelected ∧ ∃ status identify factoryReset,
      t.functionTimerExpired cfg =
        ({ t with
            sFunctionTimer :=
              t.sFunctionTimer.start kFactoryResetCancelWindowTimeout 0
            mFunction := .factoryReset
            sStatusLED := status
            sIdentifyLED := identify
            sFactoryResetLEDs := factoryReset }, [])) ∨
      (t.mFunction = .factoryReset ∧ t.functionTimerExpired cfg =
        ({ t with mFunction := .noneSelected }, [.scheduleFactoryReset])) := by
  cases hm : t.mFunction with
  | noneSelected =>
      obtain ⟨status, identify, factoryReset, hb⟩ := blinkAllLeds_eq cfg
        { t.startTimer .function kFactoryResetCancelWindowTimeout with
          mFunction := .factoryReset }
      refine Or.inl ⟨rfl, status, identify, factoryReset, ?_⟩
      rw [functionTimerExpired, if_pos hm]
      dsimp only
      rw [hb]
      rfl
  | factoryReset =>
      refine Or.inr ⟨rfl, ?_⟩
      rw [functionTimerExpired, if_neg (by rw [hm]; decide), if_pos hm]

theorem dispatchEvent_functionPushed (h : e.kind = .pushed functionButton) :
    t.dispatchEvent cfg env e =
      ({ t.startTimer .function kFactoryResetTriggerTimeout with
          mFunction := .softwareUpdate }, []) := by
  obtain ⟨ht, hh, action, hd⟩ := kind_pushed h
  simp only [dispatchEvent, hh, buttonPushHandler, ht, hd]

theorem dispatchEvent_switchPushed (h : e.kind = .pushed switchButton) :
    t.dispatchEvent cfg env e =
      if mayAdvertise cfg env then (t, [])
      else (t.startTimer .dimmerTrigger kDimmerTriggeredTimeout, []) := by
  obtain ⟨ht, hh, action, hd⟩ := kind_pushed h
  simp only [dispatchEvent, hh, buttonPushHandler, ht, hd]
  rfl

theorem dispatchEvent_functionReleased
    (h : e.kind = .released functionButton) :
    t.dispatchEvent cfg env e = t.functionButtonReleased cfg := by
  obtain ⟨ht, hh, action, hd⟩ := kind_released h
  simp only [dispatchEvent, hh, buttonReleaseHandler, ht, hd]

theorem dispatchEvent_switchReleased (h : e.kind = .released switchButton) :
    t.dispatchEvent cfg env e =
      if mayAdvertise cfg env then
        (t.postEvent (startBLEAdvertisementEvent switchButton), [])
      else t.switchButtonReleased := by
  obtain ⟨ht, hh, action, hd⟩ := kind_released h
  simp only [dispatchEvent, hh, buttonReleaseHandler, ht, hd]
  rfl

/-- The buttons no handler has a case for. -/
theorem dispatchEvent_unused {pinNo : DkButton}
    (h : e.kind = .pushed pinNo ∨ e.kind = .released pinNo)
    (hf : pinNo ≠ functionButton) (hs : pinNo ≠ switchButton) :
    t.dispatchEvent cfg env e = (t, []) := by
  rcases h with h | h
  · obtain ⟨ht, hh, action, hd⟩ := kind_pushed h
    cases pinNo <;>
      simp_all only [dispatchEvent, buttonPushHandler, ne_eq, reduceCtorEq,
        not_true_eq_false]
  · obtain ⟨ht, hh, action, hd⟩ := kind_released h
    cases pinNo <;>
      simp_all only [dispatchEvent, buttonReleaseHandler, ne_eq, reduceCtorEq,
        not_true_eq_false]

theorem dispatchEvent_functionExpired (h : e.kind = .expired .function) :
    t.dispatchEvent cfg env e = t.functionTimerExpired cfg := by
  obtain ⟨ht, hh, generation, hd⟩ := kind_expired h
  simp only [dispatchEvent, hh, timerEventHandler, ht, hd]

theorem dispatchEvent_triggerExpired
    (h : e.kind = .expired .dimmerTrigger) :
    t.dispatchEvent cfg env e = t.dimmerTriggerExpired := by
  obtain ⟨ht, hh, generation, hd⟩ := kind_expired h
  simp only [dispatchEvent, hh, timerEventHandler, ht, hd]

theorem dispatchEvent_dimmerExpired (h : e.kind = .expired .dimmer) :
    t.dispatchEvent cfg env e = (t, [.dimmerChangeBrightness]) := by
  obtain ⟨ht, hh, generation, hd⟩ := kind_expired h
  simp only [dispatchEvent, hh, timerEventHandler, ht, hd]

/-- Every other event leaves the task alone up to the Identify LED. -/
theorem dispatchEvent_other (h : e.kind = .other) :
    ∃ effects, t.dispatchEvent cfg env e =
        ({ t with sIdentifyLED := e.identifyLed t.sIdentifyLED }, effects) ∧
      ∀ x ∈ effects, x = .openBasicCommissioningWindow := by
  unfold AppEvent.identifyLed
  cases hh : e.handler with
  | none =>
      refine ⟨[], ?_, by simp⟩
      simp only [dispatchEvent, hh]
  | some handler =>
      cases handler with
      | buttonPushHandler =>
          refine ⟨[], ?_, by simp⟩
          simp only [dispatchEvent, hh, buttonPushHandler]
          split
          · next ht hd => simp [AppEvent.kind, ht, hh, hd] at h
          · rfl
      | buttonReleaseHandler =>
          refine ⟨[], ?_, by simp⟩
          simp only [dispatchEvent, hh, buttonReleaseHandler]
          split
          · next ht hd => simp [AppEvent.kind, ht, hh, hd] at h
          · rfl
      | timerEventHandler =>
          refine ⟨[], ?_, by simp⟩
          simp only [dispatchEvent, hh, timerEventHandler]
          split
          · next ht hd => simp [AppEvent.kind, ht, hh, hd] at h
          · rfl
      | startBLEAdvertisementHandler =>
          simp only [dispatchEvent, hh, startBLEAdvertisementHandler]
          split
          · exact ⟨[], rfl, by simp⟩
          · split
            · exact ⟨[], rfl, by simp⟩
            · exact ⟨_, rfl, by simp⟩
      | updateLedStateEventHandler | identifyStart | identifyStop =>
          refine ⟨[], ?_, by simp⟩
          simp only [dispatchEvent, hh]

/-- Everything a dispatch can do. The buttons that no handler knows are
ignored, and so is the push of the two-button build while the device may
start advertising; that build's release then posts an event instead. -/
theorem dispatchEvent_cases (e : AppEvent)
    {motive : AppTask × List Effect → Prop}
    (functionPushed : e.kind = .pushed functionButton →
      motive ({ t.startTimer .function kFactoryResetTriggerTimeout with
        mFunction := .softwareUpdate }, []))
    (functionReleased : e.kind = .released functionButton →
      motive (t.functionButtonReleased cfg))
    (switchPushed : e.kind = .pushed switchButton →
      mayAdvertise cfg env = false →
      motive (t.startTimer .dimmerTrigger kDimmerTriggeredTimeout, []))
    (switchReleased : e.kind = .released switchButton →
      mayAdvertise cfg env = false → motive t.switchButtonReleased)
    (functionExpired : e.kind = .expired .function →
      motive (t.functionTimerExpired cfg))
    (triggerExpired : e.kind = .expired .dimmerTrigger →
      motive t.dimmerTriggerExpired)
    (dimmerExpired : e.kind = .expired .dimmer →
      motive (t, [.dimmerChangeBrightness]))
    (unused : ∀ pinNo, pinNo ≠ functionButton → pinNo ≠ switchButton →
      e.kind = .pushed pinNo ∨ e.kind = .released pinNo → motive (t, []))
    (pushIgnored : e.kind = .pushed switchButton →
      mayAdvertise cfg env = true → motive (t, []))
    (advertises : e.kind = .released switchButton →
      mayAdvertise cfg env = true →
      motive (t.postEvent (startBLEAdvertisementEvent switchButton), []))
    (other : e.kind = .other → ∀ effects,
      (∀ x ∈ effects, x = .openBasicCommissioningWindow) →
      motive ({ t with sIdentifyLED := e.identifyLed t.sIdentifyLED },
        effects)) :
    motive (t.dispatchEvent cfg env e) := by
  cases hk : e.kind with
  | pushed pinNo =>
      by_cases hf : pinNo = functionButton
      · subst hf
        rw [dispatchEvent_functionPushed cfg env t hk]
        exact functionPushed hk
      · by_cases hs : pinNo = switchButton
        · subst hs
          rw [dispatchEvent_switchPushed cfg env t hk]
          split
          · next hc => exact pushIgnored hk hc
          · next hc => exact switchPushed hk (eq_false_of_ne_true hc)
        · rw [dispatchEvent_unused cfg env t (Or.inl hk) hf hs]
          exact unused pinNo hf hs (Or.inl hk)
  | released pinNo =>
      by_cases hf : pinNo = functionButton
      · subst hf
        rw [dispatchEvent_functionReleased cfg env t hk]
        exact functionReleased hk
      · by_cases hs : pinNo = switchButton
        · subst hs
          rw [dispatchEvent_switchReleased cfg env t hk]
          split
          · next hc => exact advertises hk hc
          · next hc => exact switchReleased hk (eq_false_of_ne_true hc)
        · rw [dispatchEvent_unused cfg env t (Or.inr hk) hf hs]
          exact unused pinNo hf hs (Or.inr hk)
  | expired timer =>
      cases timer with
      | function =>
          rw [dispatchEvent_functionExpired cfg env t hk]
          exact functionExpired hk
      | dimmerTrigger =>
          rw [dispatchEvent_triggerExpired cfg env t hk]
          exact triggerExpired hk
      | dimmer =>
          rw [dispatchEvent_dimmerExpired cfg env t hk]
          exact dimmerExpired hk
  | other =>
      obtain ⟨effects, hr, hx⟩ := dispatchEvent_other cfg env t hk
      rw [hr]
      exact other hk effects hx

/-! ## What the effects say -/

theorem effects_switchButtonReleased {x : Effect}
    (h : x ∈ t.switchButtonReleased.2) :
    x = .initiateActionSwitch .toggle := by
  unfold switchButtonReleased at h
  dsimp only at h
  split at h
  · cases h
  · exact List.mem_singleton.mp h

/-- An effect tells what kind of event was dispatched. -/
theorem kind_of_effect {x : Effect} (h : x ∈ (t.dispatchEvent cfg env e).2) :
    e.kind = x.cause := by
  revert h
  apply dispatchEvent_cases cfg env t e
    (motive := fun r => x ∈ r.2 → e.kind = x.cause)
  case functionReleased =>
    intro hk h
    obtain ⟨_, _, _, hr, hx⟩ := functionButtonReleased_eq cfg t
    rw [hr] at h
    rcases hx _ h with rfl | rfl <;> exact hk
  case switchReleased =>
    intro hk _ h
    rw [t.effects_switchButtonReleased h]
    exact hk
  case functionExpired =>
    intro hk h
    rcases functionTimerExpired_eq cfg t with ⟨-, _, _, _, hr⟩ | ⟨-, hr⟩ <;>
      rw [hr] at h
    · cases h
    · rw [List.mem_singleton.mp h]
      exact hk
  case triggerExpired | dimmerExpired =>
    intro hk h
    rw [List.mem_singleton.mp h]
    exact hk
  case other =>
    intro hk _ hx h
    rw [hx _ h]
    exact hk
  all_goals
    intros
    contradiction

/-! ## Posting -/

theorem postEvent_cases (e : AppEvent) :
    (∃ q, t.postEvent e = { t with sAppEventQueue := q } ∧
        q.msgs = t.sAppEventQueue.msgs ++ [e]) ∨
      t.postEvent e = { t with failedPosts := t.failedPosts + 1 } := by
  unfold postEvent
  split
  · next q hq => exact Or.inl ⟨q, rfl, MsgQueue.put_msgs hq⟩
  · exact Or.inr rfl

theorem queue_postEvent (e : AppEvent) : ∃ posted,
    (t.postEvent e).sAppEventQueue.msgs = t.sAppEventQueue.msgs ++ posted ∧
      ∀ e' ∈ posted, e' = e := by
  rcases t.postEvent_cases e with ⟨q, ht, hq⟩ | ht
  · exact ⟨[e], by rw [ht]; exact hq, fun _ => List.mem_singleton.mp⟩
  · exact ⟨[], by rw [ht, List.append_nil], by simp⟩

/-- Posting touches nothing but the queue and the count of failures. -/
theorem postEvent_frame (e : AppEvent) : ∃ q n, t.postEvent e =
    { t with sAppEventQueue := q, failedPosts := n } := by
  rcases t.postEvent_cases e with ⟨q, ht, -⟩ | ht
  · exact ⟨q, t.failedPosts, ht⟩
  · exact ⟨t.sAppEventQueue, _, ht⟩

theorem posts_frame (events : List AppEvent) :
    ∃ q n, events.foldl postEvent t =
      { t with sAppEventQueue := q, failedPosts := n } := by
  induction events generalizing t with
  | nil => exact ⟨t.sAppEventQueue, t.failedPosts, rfl⟩
  | cons e es ih =>
      obtain ⟨q, n, h⟩ := ih (t.postEvent e)
      obtain ⟨q', n', ht⟩ := t.postEvent_frame e
      refine ⟨q, n, ?_⟩
      rw [List.foldl_cons, h, ht]

/-- A property of the events known so far survives a post that respects it. -/
theorem eachAfter_postEvent {P : List AppEvent → AppEvent → Prop}
    {earlier : List AppEvent} (e : AppEvent)
    (h : EachAfter P (earlier ++ t.sAppEventQueue.msgs))
    (he : P (earlier ++ t.sAppEventQueue.msgs) e) :
    EachAfter P (earlier ++ (t.postEvent e).sAppEventQueue.msgs) := by
  rcases t.postEvent_cases e with ⟨q, ht, hq⟩ | ht
  · rw [ht]
    show EachAfter P (earlier ++ q.msgs)
    rw [hq, ← List.append_assoc]
    exact eachAfter_concat.mpr ⟨h, he⟩
  · rw [ht]
    exact h

theorem eachAfter_posts {P : List AppEvent → AppEvent → Prop}
    {earlier : List AppEvent} {events : List AppEvent}
    (he : ∀ e ∈ events, ∀ pre, P pre e)
    (h : EachAfter P (earlier ++ t.sAppEventQueue.msgs)) :
    EachAfter P
      (earlier ++ (events.foldl postEvent t).sAppEventQueue.msgs) := by
  induction events generalizing t with
  | nil => exact h
  | cons e es ih =>
      exact ih (t.postEvent e)
        (fun e' he' => he e' (List.mem_cons_of_mem e he'))
        (t.eachAfter_postEvent e h (he e List.mem_cons_self _))

theorem timer_posts (events : List AppEvent) (timer : Timer) :
    (events.foldl postEvent t).timer timer = t.timer timer := by
  obtain ⟨q, n, h⟩ := t.posts_frame events
  rw [h]
  cases timer <;> rfl

@[simp] theorem timer_postEvent (e : AppEvent) (timer : Timer) :
    (t.postEvent e).timer timer = t.timer timer :=
  t.timer_posts [e] timer

/-- What a button scan posts: edges, and requests to start advertising. -/
theorem mem_buttonEvents {buttonState hasChanged : BitVec 32} {e : AppEvent}
    (h : e ∈ buttonEvents cfg buttonState hasChanged) :
    ∃ pinNo, e = pushEvent pinNo ∨ e = releaseEvent pinNo ∨
      e = startBLEAdvertisementEvent pinNo := by
  have hedge : ∀ pinNo, e ∈ edgeEvents pinNo buttonState hasChanged →
      e = pushEvent pinNo ∨ e = releaseEvent pinNo ∨
        e = startBLEAdvertisementEvent pinNo := by
    intro pinNo he
    unfold edgeEvents at he
    split at he
    · exact Or.inl (List.mem_singleton.mp he)
    · split at he
      · exact Or.inr (Or.inl (List.mem_singleton.mp he))
      · cases he
  unfold buttonEvents at h
  rcases List.mem_append.mp h with h | h
  · rcases List.mem_append.mp h with h | h
    · exact ⟨_, hedge functionButton h⟩
    · exact ⟨_, hedge switchButton h⟩
  · split at h
    · cases h
    · split at h
      · exact ⟨_, Or.inr (Or.inr (List.mem_singleton.mp h))⟩
      · cases h

/-- Buttons post no expiry. -/
theorem kind_buttonEvents {buttonState hasChanged : BitVec 32}
    {e : AppEvent} (h : e ∈ buttonEvents cfg buttonState hasChanged)
    (timer : Timer) : e.kind ≠ .expired timer := by
  obtain ⟨pinNo, rfl | rfl | rfl⟩ := mem_buttonEvents cfg h <;>
    exact EventKind.noConfusion

/-- The only event a dispatch posts is the two-button build's request to
start advertising. -/
theorem queue_dispatchEvent (e : AppEvent) :
    ∃ posted, (t.dispatchEvent cfg env e).1.sAppEventQueue.msgs =
        t.sAppEventQueue.msgs ++ posted ∧
      ∀ e' ∈ posted, e' = startBLEAdvertisementEvent switchButton := by
  apply dispatchEvent_cases cfg env t e (motive := fun r =>
    ∃ posted, r.1.sAppEventQueue.msgs = t.sAppEventQueue.msgs ++ posted ∧
      ∀ e' ∈ posted, e' = startBLEAdvertisementEvent switchButton)
  case functionReleased =>
    intro _
    obtain ⟨_, _, _, hr, -⟩ := functionButtonReleased_eq cfg t
    exact ⟨[], by rw [hr, List.append_nil], by simp⟩
  case functionExpired =>
    intro _
    rcases functionTimerExpired_eq cfg t with ⟨-, _, _, _, hr⟩ | ⟨-, hr⟩ <;>
      exact ⟨[], by rw [hr, List.append_nil], by simp⟩
  case advertises =>
    intro _ _
    exact t.queue_postEvent _
  all_goals
    intros
    exact ⟨[], (List.append_nil _).symm, by simp⟩

/-- What respects that request respects a dispatch. -/
theorem eachAfter_dispatchEvent {P : List AppEvent → AppEvent → Prop}
    {earlier : List AppEvent} (e : AppEvent)
    (hP : ∀ pre, P pre (startBLEAdvertisementEvent switchButton))
    (h : EachAfter P (earlier ++ t.sAppEventQueue.msgs)) :
    EachAfter P (earlier ++
      (t.dispatchEvent cfg env e).1.sAppEventQueue.msgs) := by
  obtain ⟨posted, hmsgs, hposted⟩ := queue_dispatchEvent cfg env t e
  rw [hmsgs, ← List.append_assoc]
  exact h.append fun e' he' pre => hposted e' he' ▸ hP pre

theorem failedPosts_posts (events : List AppEvent) :
    t.failedPosts ≤ (events.foldl postEvent t).failedPosts := by
  induction events generalizing t with
  | nil => exact Nat.le_refl _
  | cons e es ih =>
      refine Nat.le_trans ?_ (ih (t.postEvent e))
      rcases t.postEvent_cases e with ⟨q, ht, -⟩ | ht
      · exact Nat.le_of_eq (by rw [ht])
      · exact Nat.le_of_lt (by rw [ht]; exact Nat.lt_succ_self _)

/-- As long as no post has failed, a series of posts appends all its
events. -/
theorem posts_eq {events : List AppEvent}
    (h : (events.foldl postEvent t).failedPosts = 0) :
    ∃ q, events.foldl postEvent t = { t with sAppEventQueue := q } ∧
      q.msgs = t.sAppEventQueue.msgs ++ events := by
  induction events generalizing t with
  | nil => exact ⟨t.sAppEventQueue, rfl, by rw [List.append_nil]⟩
  | cons e es ih =>
      rw [List.foldl_cons] at h ⊢
      rcases t.postEvent_cases e with ⟨q, ht, hq⟩ | ht
      · rw [ht] at h ⊢
        obtain ⟨q', hq', hmsgs⟩ := ih { t with sAppEventQueue := q } h
        exact ⟨q', hq', by rw [hmsgs, hq, List.append_assoc]; rfl⟩
      · have hmono := failedPosts_posts (t.postEvent e) es
        rw [h, ht] at hmono
        exact absurd hmono (Nat.not_succ_le_zero _)

/-- The one-event case of `posts_eq`. -/
theorem postEvent_eq {e : AppEvent} (h : (t.postEvent e).failedPosts = 0) :
    ∃ q, t.postEvent e = { t with sAppEventQueue := q } ∧
      q.msgs = t.sAppEventQueue.msgs ++ [e] :=
  @posts_eq t [e] h

/-- A dispatch forgets no failed post. -/
theorem failedPosts_dispatchEvent (e : AppEvent) :
    t.failedPosts ≤ (t.dispatchEvent cfg env e).1.failedPosts := by
  apply dispatchEvent_cases cfg env t e (motive := fun r =>
    t.failedPosts ≤ r.1.failedPosts)
  case functionReleased =>
    intro _
    obtain ⟨_, _, _, hr, -⟩ := functionButtonReleased_eq cfg t
    exact Nat.le_of_eq (by rw [hr])
  case functionExpired =>
    intro _
    rcases functionTimerExpired_eq cfg t with ⟨-, _, _, _, hr⟩ | ⟨-, hr⟩ <;>
      exact Nat.le_of_eq (by rw [hr])
  case advertises =>
    intro _ _
    exact t.failedPosts_posts [_]
  all_goals
    intros
    exact Nat.le_refl _

/-- One round of the task's loop. -/
theorem dispatch_cases (s : System) :
    (s.task.sAppEventQueue.msgs = [] ∧ s.dispatch cfg = s) ∨
      ∃ e q t' effects, s.task.sAppEventQueue.msgs = e :: q.msgs ∧
        dispatchEvent cfg s.commissioning
          { s.task with sAppEventQueue := q } e = (t', effects) ∧
        s.dispatch cfg =
          { s with
            task := t'
            dispatched := s.dispatched ++ [⟨e, effects⟩] } := by
  unfold System.dispatch
  split
  · next hget => exact Or.inl ⟨MsgQueue.get_none hget, rfl⟩
  · next e q hget =>
      exact Or.inr ⟨e, q, _, _, MsgQueue.get_msgs hget, rfl, rfl⟩

/-! ## The button scan -/

theorem msk_and_ne_zero (b : DkButton) (x : BitVec 32) :
    b.msk &&& x ≠ 0#32 ↔ x.getLsbD b.bit = true := by
  have hmsk : b.msk ≠ 0#32 := by cases b <;> decide
  rw [DkButton.msk, BitVec.twoPow_and]
  cases x.getLsbD b.bit with
  | true => exact ⟨fun _ => rfl, fun _ => hmsk⟩
  | false => exact ⟨fun h => absurd rfl h, Bool.noConfusion⟩

/-- Between two button states the DK library reports, a button whose bit
changed posts its edge, and the others post nothing. -/
theorem edgeEvents_xor (pinNo : DkButton) (old new : BitVec 32) :
    edgeEvents pinNo new (old ^^^ new) =
      match old.getLsbD pinNo.bit, new.getLsbD pinNo.bit with
      | false, true => [pushEvent pinNo]
      | true, false => [releaseEvent pinNo]
      | _, _ => [] := by
  have hpush : pinNo.msk &&& new &&& (old ^^^ new) ≠ 0#32 ↔
      old.getLsbD pinNo.bit = false ∧ new.getLsbD pinNo.bit = true := by
    rw [BitVec.and_assoc, msk_and_ne_zero, BitVec.getLsbD_and,
      BitVec.getLsbD_xor]
    cases old.getLsbD pinNo.bit <;> cases new.getLsbD pinNo.bit <;> decide
  have hchange : pinNo.msk &&& (old ^^^ new) ≠ 0#32 ↔
      old.getLsbD pinNo.bit ≠ new.getLsbD pinNo.bit := by
    rw [msk_and_ne_zero, BitVec.getLsbD_xor]
    cases old.getLsbD pinNo.bit <;> cases new.getLsbD pinNo.bit <;> decide
  unfold edgeEvents
  simp only [hpush, hchange]
  cases old.getLsbD pinNo.bit <;> cases new.getLsbD pinNo.bit <;> rfl

end AppTask

/-! ## The steps that are no dispatch -/

/-- They touch neither `mFunction` nor the dimmer's flag nor the record. -/
theorem step_frame (cfg : Config) (s : System) {i : Input}
    (hi : i ≠ .dispatch) :
    (s.step cfg i).task.mFunction = s.task.mFunction ∧
      (s.step cfg i).task.sWasDimmerTriggered = s.task.sWasDimmerTriggered ∧
      (s.step cfg i).dispatched = s.dispatched := by
  have hposts : ∀ (t : AppTask) (events : List AppEvent),
      (events.foldl AppTask.postEvent t).mFunction = t.mFunction ∧
        (events.foldl AppTask.postEvent t).sWasDimmerTriggered =
          t.sWasDimmerTriggered := by
    intro t events
    obtain ⟨q, n, hp⟩ := t.posts_frame events
    rw [hp]
    exact ⟨rfl, rfl⟩
  cases i with
  | dispatch => exact absurd rfl hi
  | buttons new =>
      obtain ⟨hfunction, hflag⟩ := hposts s.task _
      exact ⟨hfunction, hflag, rfl⟩
  | timerExpiry timer =>
      show (s.task.timerExpiry timer).mFunction = _ ∧
        (s.task.timerExpiry timer).sWasDimmerTriggered = _ ∧ _
      rw [AppTask.timerExpiry]
      split
      · obtain ⟨hfunction, hflag⟩ := hposts
          (s.task.setTimer timer (s.task.timer timer).expire) [_]
        refine ⟨hfunction.trans ?_, hflag.trans ?_, rfl⟩ <;>
          cases timer <;> rfl
      · exact ⟨rfl, rfl, rfl⟩
  | identifyStart | identifyStop | ledStateUpdate =>
      obtain ⟨hfunction, hflag⟩ := hposts s.task [_]
      exact ⟨hfunction, hflag, rfl⟩
  | chipEvent event =>
      obtain ⟨_, _, _, _, _, hc⟩ :=
        AppTask.chipEventHandler_eq cfg s.task event
      rw [System.step, hc]
      exact ⟨rfl, rfl, rfl⟩
  | commissioning env => exact ⟨rfl, rfl, rfl⟩

end SmartHome.LightSwitch
