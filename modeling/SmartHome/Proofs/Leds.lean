import SmartHome.Machine.Run
import SmartHome.Proofs.Handlers

/-!
# What the LEDs say about the countdown

"All LEDs: blink in unison when the factory reset procedure is initiated."
With four LEDs the two factory-reset LEDs are to blink exactly while
`mFunction` is `FactoryReset`, and the Identify LED only for an Identify
otherwise. Three handlers break this, each by touching some of the LEDs and
not the others: a device event during the countdown calls
`UpdateStatusLED`, which stops the factory-reset LEDs; a release that cancels
the countdown stops those but not the Identify LED; and a push during a
countdown that nobody is holding down ends it and stops nothing.

`KeepsLeds` excludes the three, step by step, and nothing else: up to the
first reset the LEDs agree with `mFunction` in every state of a run exactly
when every step of it meets that condition.
-/

namespace SmartHome.LightSwitch

open Zephyr Machine

def LedMode.isBlinking : LedMode → Bool
  | .steady _ => false
  | .blinking _ _ => true

/-- An Identify event: started, or stopped. -/
def AppEvent.identify? (e : AppEvent) : Option Bool :=
  match e.handler with
  | some .identifyStart => some true
  | some .identifyStop => some false
  | _ => none

def identifying (dispatched : List Dispatch) : Bool :=
  (dispatched.filterMap (·.event.identify?)).getLast? == some true

def BeforeReset (s : System) : Prop :=
  ∀ d ∈ s.dispatched, .scheduleFactoryReset ∉ d.effects

/-- The LEDs, by what the application is doing. -/
structure Indicates (mFunction : FunctionEvent)
    (factoryResetLEDs identifyLED : LedMode) (identifying : Bool) : Prop where
  countdown : mFunction = .factoryReset → factoryResetLEDs.isBlinking = true
  noCountdown : mFunction ≠ .factoryReset →
    factoryResetLEDs.isBlinking = false
  noIdentify : mFunction ≠ .factoryReset → identifyLED.isBlinking = true →
    identifying = true

def LedsAgree (s : System) : Prop :=
  Indicates s.task.mFunction s.task.sFactoryResetLEDs s.task.sIdentifyLED
    (identifying s.dispatched)

/-- Up to the first reset: no device event that redraws the status LED comes
during a countdown, no push is dispatched during one, and a release that is
dispatched during one finds the Identify LED steady or an Identify going
on. -/
def KeepsLeds (s : System) (i : Input) : Prop :=
  BeforeReset s → s.task.mFunction = .factoryReset →
    match i with
    | .chipEvent event => event = .other
    | .dispatch => ∀ e ∈ s.task.sAppEventQueue.msgs.head?,
        e.kind ≠ .pushed functionButton ∧
          (e.kind = .released functionButton →
            s.task.sIdentifyLED.isBlinking = true →
            identifying s.dispatched = true)
    | _ => True

/-! ## The record -/

theorem identifying_concat (ds : List Dispatch) (d : Dispatch) :
    identifying (ds ++ [d]) =
      (d.event.identify?).getD (identifying ds) := by
  unfold identifying
  rw [lastLetter_concat]
  cases d.event.identify? with
  | none => rfl
  | some started => cases started <;> rfl

theorem identify_of_kind {e : AppEvent} (h : e.kind ≠ .other) :
    e.identify? = none := by
  unfold AppEvent.identify?
  split
  next hh => exact absurd (by simp [AppEvent.kind, hh]) h
  next hh => exact absurd (by simp [AppEvent.kind, hh]) h
  next => rfl

theorem beforeReset_concat {s : System} {t : AppTask} {d : Dispatch} :
    BeforeReset { s with task := t, dispatched := s.dispatched ++ [d] } ↔
      BeforeReset s ∧ .scheduleFactoryReset ∉ d.effects := by
  unfold BeforeReset
  simp only [List.mem_append, List.mem_singleton, or_imp, forall_and,
    forall_eq]

/-! ## What each handler does to the LEDs -/

section Handlers

variable {cfg : Config} (t : AppTask)

theorem updateStatusLED_leds (hleds : cfg.stateLeds = true)
    (hfour : cfg.fourLeds = true) :
    (t.updateStatusLED cfg).sFactoryResetLEDs = .steady false ∧
      (t.updateStatusLED cfg).sIdentifyLED = t.sIdentifyLED ∧
      (t.updateStatusLED cfg).mFunction = t.mFunction := by
  rw [AppTask.updateStatusLED, if_pos hleds]
  exact ⟨if_pos hfour, rfl, rfl⟩

theorem blinkAllLeds_leds (hleds : cfg.stateLeds = true)
    (hfour : cfg.fourLeds = true) :
    (t.blinkAllLeds cfg).sFactoryResetLEDs.isBlinking = true ∧
      (t.blinkAllLeds cfg).mFunction = t.mFunction := by
  rw [AppTask.blinkAllLeds, if_pos hleds]
  refine ⟨?_, rfl⟩
  dsimp only
  rw [if_pos hfour]
  rfl

theorem functionButtonReleased_leds (hleds : cfg.stateLeds = true)
    (hfour : cfg.fourLeds = true) :
    (t.functionButtonReleased cfg).1.mFunction = .noneSelected ∧
      (t.functionButtonReleased cfg).1.sIdentifyLED = t.sIdentifyLED ∧
      (t.sFactoryResetLEDs.isBlinking = false ∨ t.mFunction = .factoryReset →
        (t.functionButtonReleased cfg).1.sFactoryResetLEDs.isBlinking =
          false) := by
  unfold AppTask.functionButtonReleased
  cases hm : t.mFunction with
  | noneSelected =>
      rw [if_pos rfl]
      dsimp only
      split
      next =>
        obtain ⟨hreset, hidentify, hfunction⟩ := updateStatusLED_leds
          { t.cancelTimer .function with mFunction := .noneSelected } hleds
          hfour
        rw [hreset, hidentify, hfunction]
        exact ⟨rfl, rfl, fun _ => rfl⟩
      next =>
        refine ⟨rfl, rfl, fun h => ?_⟩
        exact h.resolve_right (by decide)
  | factoryReset =>
      obtain ⟨hreset, hidentify, -⟩ := updateStatusLED_leds t hleds hfour
      rw [if_neg (by decide), if_pos rfl]
      refine ⟨rfl, hidentify, fun _ => ?_⟩
      show (t.updateStatusLED cfg).sFactoryResetLEDs.isBlinking = false
      rw [hreset]
      rfl

def KeepsLedsOn (t : AppTask) (identifying : Bool) (e : AppEvent) : Prop :=
  t.mFunction = .factoryReset → e.kind ≠ .pushed functionButton ∧
    (e.kind = .released functionButton →
      t.sIdentifyLED.isBlinking = true → identifying = true)

theorem indicates_identify {m : FunctionEvent} {factoryReset led : LedMode}
    {identifying : Bool} (h : Indicates m factoryReset led identifying)
    (e : AppEvent) : Indicates m factoryReset (e.identifyLed led)
      (e.identify?.getD identifying) := by
  refine ⟨h.countdown, h.noCountdown, ?_⟩
  unfold AppEvent.identifyLed AppEvent.identify?
  cases e.handler with
  | none => exact h.noIdentify
  | some handler =>
      cases handler with
      | identifyStart => exact fun _ _ => rfl
      | identifyStop => exact fun _ hblink => Bool.noConfusion hblink
      | buttonPushHandler | buttonReleaseHandler | timerEventHandler
      | startBLEAdvertisementHandler | updateLedStateEventHandler =>
          exact h.noIdentify

theorem indicates_softwareUpdate {m : FunctionEvent}
    {factoryReset led : LedMode} {identifying : Bool}
    (h : Indicates m factoryReset led identifying) :
    Indicates .softwareUpdate factoryReset led identifying ↔
      m ≠ .factoryReset := by
  cases m with
  | noneSelected => exact iff_of_true h FunctionEvent.noConfusion
  | factoryReset =>
      refine iff_of_false (fun hind => ?_) (fun hne => hne rfl)
      have hblink := h.countdown rfl
      have hsteady := hind.noCountdown FunctionEvent.noConfusion
      exact absurd (hblink.symm.trans hsteady) (by decide)

theorem indicates_functionButtonReleased (hleds : cfg.stateLeds = true)
    (hfour : cfg.fourLeds = true) {identifying : Bool}
    (h : Indicates t.mFunction t.sFactoryResetLEDs t.sIdentifyLED
      identifying) :
    Indicates (t.functionButtonReleased cfg).1.mFunction
        (t.functionButtonReleased cfg).1.sFactoryResetLEDs
        (t.functionButtonReleased cfg).1.sIdentifyLED identifying ↔
      (t.mFunction = .factoryReset → t.sIdentifyLED.isBlinking = true →
        identifying = true) := by
  obtain ⟨hfunction, hidentify, hsteady⟩ :=
    functionButtonReleased_leds t hleds hfour
  rw [hfunction, hidentify]
  cases hm : t.mFunction with
  | noneSelected =>
      have hidle : t.mFunction ≠ .factoryReset := by rw [hm]; decide
      refine iff_of_true ⟨FunctionEvent.noConfusion, fun _ => ?_,
        fun _ => h.noIdentify hidle⟩ FunctionEvent.noConfusion
      exact hsteady (Or.inl (h.noCountdown hidle))
  | factoryReset =>
      constructor
      · intro hind _
        exact hind.noIdentify FunctionEvent.noConfusion
      · intro hkeep
        exact ⟨FunctionEvent.noConfusion, fun _ => hsteady (Or.inr hm),
          fun _ => hkeep rfl⟩

theorem indicates_functionTimerExpired (hleds : cfg.stateLeds = true)
    (hfour : cfg.fourLeds = true)
    (hreset : .scheduleFactoryReset ∉ (t.functionTimerExpired cfg).2)
    (identifying : Bool) :
    Indicates (t.functionTimerExpired cfg).1.mFunction
      (t.functionTimerExpired cfg).1.sFactoryResetLEDs
      (t.functionTimerExpired cfg).1.sIdentifyLED identifying := by
  cases hm : t.mFunction with
  | noneSelected =>
      rw [AppTask.functionTimerExpired, if_pos hm]
      obtain ⟨hblink, hfunction⟩ := blinkAllLeds_leds
        { t.startTimer .function kFactoryResetCancelWindowTimeout with
          mFunction := .factoryReset } hleds hfour
      dsimp only
      rw [hfunction]
      exact ⟨fun _ => hblink, fun hne => absurd rfl hne,
        fun hne => absurd rfl hne⟩
  | factoryReset =>
      rw [AppTask.functionTimerExpired, if_neg (by rw [hm]; decide),
        if_pos hm] at hreset
      exact absurd (List.mem_singleton_self _) hreset

/-- A dispatch that resets nothing leaves LEDs that agree, exactly if it
keeps the countdown's. -/
theorem indicates_dispatch (hleds : cfg.stateLeds = true)
    (hfour : cfg.fourLeds = true) (env : Commissioning) (e : AppEvent)
    {identifying : Bool}
    (h : Indicates t.mFunction t.sFactoryResetLEDs t.sIdentifyLED identifying)
    (hreset : .scheduleFactoryReset ∉ (t.dispatchEvent cfg env e).2) :
    Indicates (t.dispatchEvent cfg env e).1.mFunction
        (t.dispatchEvent cfg env e).1.sFactoryResetLEDs
        (t.dispatchEvent cfg env e).1.sIdentifyLED
        (e.identify?.getD identifying) ↔
      KeepsLedsOn t identifying e := by
  have hkeeps : ∀ {k}, e.kind = k → k ≠ .pushed functionButton →
      k ≠ .released functionButton → KeepsLedsOn t identifying e := by
    intro k heq hp hr _
    subst heq
    exact ⟨hp, fun hk => absurd hk hr⟩
  have hnone : ∀ {k}, e.kind = k → k ≠ .other →
      e.identify?.getD identifying = identifying := by
    intro k heq hk
    subst heq
    rw [identify_of_kind hk]
    rfl
  revert hreset
  apply AppTask.dispatchEvent_cases cfg env t e (motive := fun r =>
    .scheduleFactoryReset ∉ r.2 →
      (Indicates r.1.mFunction r.1.sFactoryResetLEDs r.1.sIdentifyLED
        (e.identify?.getD identifying) ↔ KeepsLedsOn t identifying e))
  case functionPushed =>
    intro hk _
    rw [hnone hk (by simp)]
    refine (indicates_softwareUpdate h).trans ⟨fun hidle hm => ?_, ?_⟩
    · exact absurd hm hidle
    · exact fun hkeep hm => (hkeep hm).1 hk
  case functionReleased =>
    intro hk _
    rw [hnone hk (by simp)]
    refine (indicates_functionButtonReleased t hleds hfour h).trans ⟨?_, ?_⟩
    · exact fun hkeep hm => ⟨by rw [hk]; simp, fun _ => hkeep hm⟩
    · exact fun hkeep hm => (hkeep hm).2 hk
  case functionExpired =>
    intro hk hreset
    rw [hnone hk (by simp)]
    exact iff_of_true
      (indicates_functionTimerExpired t hleds hfour hreset identifying)
      (hkeeps hk (by simp) (by simp))
  case switchPushed | switchReleased | pushIgnored =>
    intro hk _ _
    rw [hnone hk (by simp)]
    exact iff_of_true h (hkeeps hk (by simp) (by simp))
  case triggerExpired | dimmerExpired =>
    intro hk _
    rw [hnone hk (by simp)]
    exact iff_of_true h (hkeeps hk (by simp) (by simp))
  case unused =>
    intro pinNo hf _ hk _
    rcases hk with hk | hk <;> rw [hnone hk (by simp)] <;>
      exact iff_of_true h (hkeeps hk (by simp [hf]) (by simp [hf]))
  case advertises =>
    intro hk _ _
    rw [hnone hk (by simp)]
    obtain ⟨q, n, hp⟩ := t.postEvent_frame
      (AppTask.startBLEAdvertisementEvent switchButton)
    rw [hp]
    exact iff_of_true h (hkeeps hk (by simp) (by simp))
  case other =>
    intro hk effects _ _
    exact iff_of_true (indicates_identify h e)
      (hkeeps hk (by simp) (by simp))

theorem chipEventHandler_leds (hleds : cfg.stateLeds = true)
    (hfour : cfg.fourLeds = true) {event : ChipDeviceEvent}
    (hevent : event ≠ .other) :
    (t.chipEventHandler cfg event).sFactoryResetLEDs = .steady false ∧
      (t.chipEventHandler cfg event).sIdentifyLED = t.sIdentifyLED ∧
      (t.chipEventHandler cfg event).mFunction = t.mFunction := by
  cases event with
  | chipoBLEAdvertisingChange n =>
      obtain ⟨-, hidentify, hfunction⟩ := updateStatusLED_leds t hleds hfour
      obtain ⟨hsteady, hidentify', hfunction'⟩ := updateStatusLED_leds
        { t.updateStatusLED cfg with sHaveBLEConnections := n != 0 } hleds
        hfour
      exact ⟨hsteady, hidentify'.trans hidentify, hfunction'.trans hfunction⟩
  | connectivityChange provisioned enabled =>
      exact updateStatusLED_leds
        { t with
          sIsNetworkProvisioned := provisioned
          sIsNetworkEnabled := enabled } hleds hfour
  | other => exact absurd rfl hevent

theorem indicates_chipEvent (hleds : cfg.stateLeds = true)
    (hfour : cfg.fourLeds = true) (event : ChipDeviceEvent)
    {identifying : Bool}
    (h : Indicates t.mFunction t.sFactoryResetLEDs t.sIdentifyLED
      identifying) :
    Indicates (t.chipEventHandler cfg event).mFunction
        (t.chipEventHandler cfg event).sFactoryResetLEDs
        (t.chipEventHandler cfg event).sIdentifyLED identifying ↔
      (t.mFunction = .factoryReset → event = .other) := by
  by_cases hevent : event = .other
  · subst hevent
    exact iff_of_true h fun _ => rfl
  · obtain ⟨hsteady, hidentify, hfunction⟩ :=
      chipEventHandler_leds t hleds hfour hevent
    rw [hsteady, hidentify, hfunction]
    constructor
    · intro hind hm
      exact absurd (hind.countdown hm) (by decide)
    · intro hkeep
      exact ⟨fun hm => absurd (hkeep hm) hevent, fun _ => rfl, h.noIdentify⟩

end Handlers

/-! ## Runs -/

theorem beforeReset_step {cfg : Config} {s : System} {i : Input}
    (h : BeforeReset (s.step cfg i)) : BeforeReset s := by
  cases i with
  | dispatch =>
      rcases AppTask.dispatch_cases cfg s with ⟨-, heq⟩ |
        ⟨e, q, t', effects, -, -, heq⟩
      · rwa [System.step, heq] at h
      · rw [System.step, heq] at h
        exact (beforeReset_concat.mp h).1
  | buttons | timerExpiry | identifyStart | identifyStop | ledStateUpdate
  | chipEvent | commissioning => exact h

theorem ledsAgree_posts {s : System} (h : LedsAgree s) (t : AppTask)
    (events : List AppEvent) (hfunction : t.mFunction = s.task.mFunction)
    (hreset : t.sFactoryResetLEDs = s.task.sFactoryResetLEDs)
    (hidentify : t.sIdentifyLED = s.task.sIdentifyLED) :
    LedsAgree { s with task := events.foldl AppTask.postEvent t } := by
  obtain ⟨q, n, hp⟩ := t.posts_frame events
  rw [LedsAgree, hp]
  dsimp only
  rw [hfunction, hreset, hidentify]
  exact h

/-- One step keeps the LEDs in agreement exactly if it meets the
condition. -/
theorem ledsAgree_step {cfg : Config} (hleds : cfg.stateLeds = true)
    (hfour : cfg.fourLeds = true) {s : System} {i : Input}
    (h : BeforeReset s → LedsAgree s) :
    (BeforeReset (s.step cfg i) → LedsAgree (s.step cfg i)) ↔
      KeepsLeds s i := by
  by_cases hbefore : BeforeReset s
  case neg =>
    exact iff_of_true (fun hb => absurd (beforeReset_step hb) hbefore)
      fun hb => absurd hb hbefore
  have hagree := h hbefore
  cases i with
  | buttons buttonState =>
      exact iff_of_true
        (fun _ => ledsAgree_posts hagree s.task _ rfl rfl rfl)
        fun _ _ => trivial
  | timerExpiry timer =>
      refine iff_of_true (fun _ => ?_) fun _ _ => trivial
      show LedsAgree { s with task := s.task.timerExpiry timer }
      rw [AppTask.timerExpiry]
      split
      next =>
        cases timer <;>
          exact ledsAgree_posts hagree (AppTask.setTimer s.task _ _) [_] rfl
            rfl rfl
      next => exact hagree
  | identifyStart | identifyStop | ledStateUpdate =>
      exact iff_of_true
        (fun _ => ledsAgree_posts hagree s.task [_] rfl rfl rfl)
        fun _ _ => trivial
  | commissioning env =>
      exact iff_of_true (fun _ => hagree) fun _ _ => trivial
  | chipEvent event =>
      have hiff := indicates_chipEvent s.task hleds hfour event hagree
      exact ⟨fun hind _ => hiff.mp (hind hbefore),
        fun hkeep _ => hiff.mpr (hkeep hbefore)⟩
  | dispatch =>
      rw [System.step]
      rcases AppTask.dispatch_cases cfg s with ⟨hmsgs, heq⟩ |
        ⟨e, q, t', effects, hmsgs, ht, heq⟩
      · rw [heq]
        refine iff_of_true (fun _ => hagree) fun _ _ e he => ?_
        rw [hmsgs] at he
        cases he
      · have hiff := indicates_dispatch { s.task with sAppEventQueue := q }
          hleds hfour s.commissioning e hagree
        rw [ht] at hiff
        rw [heq, beforeReset_concat, LedsAgree, identifying_concat]
        constructor
        · intro hind _ hm e' he'
          rw [hmsgs] at he'
          obtain rfl := Option.some.inj he'
          by_cases hreset : .scheduleFactoryReset ∈ effects
          · rw [show effects = _ from (congrArg Prod.snd ht).symm] at hreset
            rw [AppTask.kind_of_effect cfg _ _ hreset]
            exact ⟨by decide, fun hk => absurd hk (by decide)⟩
          · exact (hiff hreset).mp (hind ⟨hbefore, hreset⟩) hm
        · intro hkeep hboth
          obtain ⟨-, hreset⟩ := hboth
          refine (hiff hreset).mpr fun hm => ?_
          exact hkeep hbefore hm e (by rw [hmsgs]; rfl)

theorem ledsAgree_boot {cfg : Config} (hleds : cfg.stateLeds = true)
    (hfour : cfg.fourLeds = true) (buttonState : BitVec 32) :
    LedsAgree (System.boot cfg buttonState) := by
  obtain ⟨hreset, hidentify, hfunction⟩ :=
    updateStatusLED_leds {} hleds hfour
  rw [LedsAgree, System.boot, AppTask.init, hreset, hidentify, hfunction]
  exact ⟨nofun, fun _ => rfl, nofun⟩

/-- Up to the first reset the LEDs agree with `mFunction` in every state of a
run, exactly when each of its steps meets the condition. -/
theorem leds_agree_iff {cfg : Config} (hleds : cfg.stateLeds = true)
    (hfour : cfg.fourLeds = true) (buttonState : BitVec 32)
    (inputs : List Input) :
    (∀ pre, pre <+: inputs →
        BeforeReset (System.after cfg buttonState pre) →
        LedsAgree (System.after cfg buttonState pre)) ↔
      Along (System.step cfg) KeepsLeds (System.boot cfg buttonState)
        inputs := by
  have hboot := ledsAgree_boot hleds hfour buttonState
  have hprefixes := @along_prefixes _ _ (System.step cfg)
    (fun s => BeforeReset s → LedsAgree s) (System.boot cfg buttonState)
    inputs
  refine hprefixes.trans ?_
  rw [and_iff_right fun _ => hboot]
  exact @along_congr _ _ _ _ _ (fun s => BeforeReset s → LedsAgree s)
    (fun _ _ _ hkept => hkept)
    (fun _ _ hinv => ledsAgree_step hleds hfour hinv) _ (fun _ => hboot) _

/-- A whole countdown with an Identify going on, cancelled by the release. -/
theorem leds_agree_iff_cancelled :
    let cfg : Config := ⟨false, true, true, true⟩
    let inputs : List Input :=
      [.identifyStart, .dispatch, .buttons 1, .dispatch,
        .timerExpiry .function, .dispatch, .buttons 0, .dispatch,
        .chipEvent (.connectivityChange true true)]
    ∀ pre, pre <+: inputs → BeforeReset (System.after cfg 0 pre) →
      LedsAgree (System.after cfg 0 pre) := by
  refine (leds_agree_iff rfl rfl 0 _).mpr ?_
  refine ⟨?_, ?_, ?_, ?_, ?_, ?_, ?_, ?_, ?_, trivial⟩
  case refine_8 =>
    -- The only dispatch during the countdown is the release.
    intro _ _ e he
    obtain rfl := Option.some.inj he
    exact ⟨by decide, fun _ _ => by decide⟩
  case refine_2 | refine_4 | refine_6 | refine_9 =>
    intro _ hm
    exact absurd hm (by decide)
  all_goals exact fun _ _ => trivial

/-- The network comes up while the countdown runs. -/
theorem connectivity_change_during_countdown :
    let cfg : Config := ⟨false, true, true, true⟩
    let inputs : List Input :=
      [.buttons 1, .dispatch, .timerExpiry .function, .dispatch,
        .chipEvent (.connectivityChange true true)]
    (System.after cfg 0 inputs).task.mFunction = .factoryReset ∧
      (System.after cfg 0 inputs).task.sFactoryResetLEDs = .steady false ∧
      ¬ ∀ pre, pre <+: inputs → BeforeReset (System.after cfg 0 pre) →
        LedsAgree (System.after cfg 0 pre) := by
  refine ⟨by decide, by decide, fun h => ?_⟩
  have hagree := h _ (List.prefix_refl _) (by unfold BeforeReset; decide)
  exact absurd (hagree.countdown (by decide)) (by decide)

/-- A release cancels the countdown, and the Identify LED blinks on. -/
example :
    let s := System.after ⟨false, true, true, true⟩ 0
      [.buttons 1, .dispatch, .timerExpiry .function, .dispatch, .buttons 0,
        .dispatch]
    s.task.mFunction = .noneSelected ∧
      s.task.sIdentifyLED.isBlinking = true ∧
      identifying s.dispatched = false := by
  decide

end SmartHome.LightSwitch
