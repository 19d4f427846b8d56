import SmartHome.Proofs.Pins

/-!
# When the device can be commissioned

While the commissioning window is open, whoever is near enough can try to
take the device into a network. So it is worth knowing what opens it. In the
four-button build that is a button of its own; in the build with two it is the
release of the switch button, which first posts another event, and what the
task makes of either of them depends on the moment at which it gets there.

`windows_accounted` follows every such press from the pin to its end. The SDK
was asked once to open a window for it, or it came to the task when the device
advertised or was commissioned, or it is still in the queue, or it is one of
the posts that have failed. Nothing else has the SDK asked, and nothing does
while the device is commissioned or advertises. It may fail to open the
window, which the task logs and does no more about.
-/

namespace SmartHome.LightSwitch

open Zephyr Machine

def Commissioning.free (env : Commissioning) : Bool :=
  env.fabricCount == 0 && !env.isBLEAdvertisingEnabled

def AppEvent.isRequest (e : AppEvent) : Bool :=
  e.handler == some .startBLEAdvertisementHandler

/-- A release that posts a request if the device is free by then. -/
def AppEvent.mayRequest (cfg : Config) (e : AppEvent) : Bool :=
  cfg.twoButtons && e.edge? switchButton == some .release

def AppEvent.mayOpen (cfg : Config) (e : AppEvent) : Bool :=
  e.isRequest || e.mayRequest cfg

/-- The button that the user asks with, and the edge of it that asks. -/
def Config.asking (cfg : Config) : DkButton × Edge :=
  if cfg.twoButtons then (switchButton, .release)
  else (bleAdvertisementStartButton, .push)

def asks (cfg : Config) (buttonState : BitVec 32) (inputs : List Input) :
    Nat :=
  (changes (buttonState.getLsbD cfg.asking.1.bit)
    (levels cfg.asking.1 inputs)).count cfg.asking.2

namespace System

/-- How often the SDK was asked to open a window. -/
def windows (s : System) : Nat :=
  (s.dispatched.flatMap (·.effects)).count .openBasicCommissioningWindow

def waiting (cfg : Config) (s : System) : Nat :=
  s.task.sAppEventQueue.msgs.countP (·.mayOpen cfg)

/-- The task takes an event that would lead to a window if the device were
free. -/
def refuses (cfg : Config) (s : System) : Input → Nat
  | .dispatch =>
      match s.task.sAppEventQueue.msgs with
      | [] => 0
      | e :: _ => (e.mayOpen cfg && !s.commissioning.free).toNat
  | _ => 0

def asked (cfg : Config) (s : System) : Input → Nat
  | .buttons new =>
      (change (s.buttonState.getLsbD cfg.asking.1.bit)
        (new.getLsbD cfg.asking.1.bit)).count cfg.asking.2
  | _ => 0

end System

/-! ## One event -/

namespace AppTask

variable (cfg : Config) (env : Commissioning) (t : AppTask) {e : AppEvent}

theorem dispatchEvent_request (h : e.isRequest = true) :
    t.dispatchEvent cfg env e =
      (t, if env.free then [.openBasicCommissioningWindow] else []) := by
  have hhandler : e.handler = some .startBLEAdvertisementHandler :=
    eq_of_beq h
  simp only [dispatchEvent, hhandler, startBLEAdvertisementHandler,
    Commissioning.free]
  split
  · next hfabrics => simp [hfabrics]
  · next hfabrics =>
      split
      · next hadvertises => simp [hadvertises]
      · next hadvertises => simp [not_not.mp hfabrics, hadvertises]

theorem isRequest_of_opens
    (h : .openBasicCommissioningWindow ∈ (t.dispatchEvent cfg env e).2) :
    e.isRequest = true := by
  have hkind : e.kind = .other := kind_of_effect cfg env t h
  cases hh : e.handler with
  | none =>
      simp only [dispatchEvent, hh] at h
      cases h
  | some handler =>
      cases handler with
      | startBLEAdvertisementHandler =>
          rw [AppEvent.isRequest, hh]
          rfl
      | buttonPushHandler =>
          simp only [dispatchEvent, hh, buttonPushHandler] at h
          split at h
          · next ht hd => simp [AppEvent.kind, ht, hh, hd] at hkind
          · cases h
      | buttonReleaseHandler =>
          simp only [dispatchEvent, hh, buttonReleaseHandler] at h
          split at h
          · next ht hd => simp [AppEvent.kind, ht, hh, hd] at hkind
          · cases h
      | timerEventHandler =>
          simp only [dispatchEvent, hh, timerEventHandler] at h
          split at h
          · next ht hd => simp [AppEvent.kind, ht, hh, hd] at hkind
          · cases h
      | updateLedStateEventHandler | identifyStart | identifyStop =>
          simp only [dispatchEvent, hh] at h
          cases h

theorem count_opens :
    (t.dispatchEvent cfg env e).2.count .openBasicCommissioningWindow =
      (e.isRequest && env.free).toNat := by
  cases hrequest : e.isRequest with
  | true =>
      rw [dispatchEvent_request cfg env t hrequest]
      cases env.free <;> rfl
  | false =>
      refine List.count_eq_zero.mpr fun h => ?_
      have hopens := isRequest_of_opens cfg env t h
      rw [hrequest] at hopens
      cases hopens

theorem queue_mayOpen :
    ∃ lost, (t.dispatchEvent cfg env e).1.sAppEventQueue.msgs.countP
          (·.mayOpen cfg) + lost =
        t.sAppEventQueue.msgs.countP (·.mayOpen cfg) +
          (e.mayRequest cfg && mayAdvertise cfg env).toNat ∧
      t.failedPosts + lost = (t.dispatchEvent cfg env e).1.failedPosts := by
  have hquiet : ∀ k, e.kind = k → k ≠ .pushed switchButton →
      k ≠ .released switchButton →
        (e.mayRequest cfg && mayAdvertise cfg env).toNat = 0 := by
    intro k hk hp hr
    rw [AppEvent.mayRequest, edge_eq_none hk hp hr]
    cases cfg.twoButtons <;> rfl
  apply dispatchEvent_cases cfg env t e (motive := fun r =>
    ∃ lost, r.1.sAppEventQueue.msgs.countP (·.mayOpen cfg) + lost =
        t.sAppEventQueue.msgs.countP (·.mayOpen cfg) +
          (e.mayRequest cfg && mayAdvertise cfg env).toNat ∧
      t.failedPosts + lost = r.1.failedPosts)
  case advertises =>
    intro hk hmay
    have htwo : cfg.twoButtons = true := by
      cases h : cfg.twoButtons with
      | true => rfl
      | false => rw [mayAdvertise, h] at hmay; cases hmay
    have hedge : e.edge? switchButton = some .release := edge_release.mpr hk
    have hrequest : AppEvent.mayOpen cfg
        (startBLEAdvertisementEvent switchButton) = true := rfl
    rw [AppEvent.mayRequest, htwo, hedge, hmay]
    rcases t.postEvent_cases (startBLEAdvertisementEvent switchButton) with
      ⟨q, ht, hq⟩ | ht
    · refine ⟨0, ?_, by rw [ht]; rfl⟩
      rw [ht, hq, List.countP_append, List.countP_singleton, hrequest]
      rfl
    · exact ⟨1, by rw [ht]; rfl, by rw [ht]⟩
  case switchPushed | pushIgnored =>
    intro hk _
    refine ⟨0, ?_, rfl⟩
    rw [AppEvent.mayRequest, edge_push.mpr hk]
    cases cfg.twoButtons <;> rfl
  case switchReleased =>
    intro hk hmay
    refine ⟨0, ?_, by
      unfold switchButtonReleased
      rfl⟩
    rw [hmay, Bool.and_false]
    rfl
  case functionReleased =>
    intro hk
    obtain ⟨_, _, _, hr, -⟩ := functionButtonReleased_eq cfg t
    rw [hquiet _ hk (by decide) (by decide), hr]
    exact ⟨0, rfl, rfl⟩
  case functionExpired =>
    intro hk
    rw [hquiet _ hk (by decide) (by decide)]
    rcases functionTimerExpired_eq cfg t with ⟨-, _, _, _, hr⟩ | ⟨-, hr⟩ <;>
      rw [hr] <;> exact ⟨0, rfl, rfl⟩
  case unused =>
    intro pinNo _ hs hk
    rcases hk with hk | hk
    · rw [hquiet _ hk (by simpa using hs) (by simp)]
      exact ⟨0, rfl, rfl⟩
    · rw [hquiet _ hk (by simp) (by simpa using hs)]
      exact ⟨0, rfl, rfl⟩
  case functionPushed | triggerExpired | dimmerExpired =>
    intro hk
    rw [hquiet _ hk (by decide) (by decide)]
    exact ⟨0, rfl, rfl⟩
  case other =>
    intro hk _ _
    rw [hquiet _ hk (by decide) (by decide)]
    exact ⟨0, rfl, rfl⟩

theorem mayRequest_of_isRequest (cfg : Config) (h : e.isRequest = true) :
    e.mayRequest cfg = false := by
  have hhandler : e.handler = some .startBLEAdvertisementHandler :=
    eq_of_beq h
  have hkind : e.kind = .other := by
    simp [AppEvent.kind, hhandler]
  rw [AppEvent.mayRequest, edge_eq_none hkind (by decide) (by decide)]
  cases cfg.twoButtons <;> rfl

theorem mayAdvertise_of_mayRequest {cfg : Config}
    (h : e.mayRequest cfg = true) (env : Commissioning) :
    mayAdvertise cfg env = env.free := by
  rw [AppEvent.mayRequest, Bool.and_eq_true] at h
  rw [mayAdvertise, h.1, Commissioning.free, Bool.true_and, Bool.and_comm]

/-- An event that may open a window does, or asks for one, or comes at a time
when the device is not free; or its request is lost. -/
theorem dispatchEvent_balance :
    ∃ lost, (t.dispatchEvent cfg env e).2.count .openBasicCommissioningWindow +
          (t.dispatchEvent cfg env e).1.sAppEventQueue.msgs.countP
            (·.mayOpen cfg) +
          (e.mayOpen cfg && !env.free).toNat + lost =
        t.sAppEventQueue.msgs.countP (·.mayOpen cfg) +
          (e.mayOpen cfg).toNat ∧
      t.failedPosts + lost = (t.dispatchEvent cfg env e).1.failedPosts := by
  obtain ⟨lost, hqueue, hfailed⟩ := @queue_mayOpen cfg env t e
  refine ⟨lost, ?_, hfailed⟩
  rw [count_opens, AppEvent.mayOpen]
  cases hrequest : e.isRequest with
  | true =>
      rw [mayRequest_of_isRequest cfg hrequest] at hqueue ⊢
      rw [Bool.false_and, Bool.toNat_false] at hqueue
      cases env.free with
      | true =>
          show 1 + _ + 0 + lost = _ + 1
          omega
      | false =>
          show 0 + _ + 1 + lost = _ + 1
          omega
  | false =>
      cases hrelease : e.mayRequest cfg with
      | false =>
          rw [hrelease, Bool.false_and, Bool.toNat_false] at hqueue
          show 0 + _ + 0 + lost = _ + 0
          omega
      | true =>
          rw [hrelease, mayAdvertise_of_mayRequest hrelease,
            Bool.true_and] at hqueue
          cases hfree : env.free with
          | true =>
              rw [hfree, Bool.toNat_true] at hqueue
              show 0 + _ + 0 + lost = _ + 1
              omega
          | false =>
              rw [hfree, Bool.toNat_false] at hqueue
              show 0 + _ + 1 + lost = _ + 1
              omega

end AppTask

/-! ## One step -/

section Step

variable {cfg : Config}

theorem mayOpen_eq_false (cfg : Config) {e : AppEvent}
    (hrequest : e.isRequest = false)
    (hkind : e.kind ≠ .released switchButton) : e.mayOpen cfg = false := by
  have hedge : e.edge? switchButton ≠ some .release :=
    fun h => hkind (edge_release.mp h)
  rw [AppEvent.mayOpen, AppEvent.mayRequest, beq_false_of_ne hedge,
    Bool.and_false, hrequest]
  rfl

theorem mayOpen_pushEvent (cfg : Config) (pinNo : DkButton) :
    (AppTask.pushEvent pinNo).mayOpen cfg = false :=
  mayOpen_eq_false cfg rfl EventKind.noConfusion

theorem mayOpen_releaseEvent (cfg : Config) (pinNo : DkButton) :
    (AppTask.releaseEvent pinNo).mayOpen cfg =
      (cfg.twoButtons && pinNo == switchButton) := by
  cases pinNo <;> cases h : cfg.twoButtons <;>
    simp only [AppEvent.mayOpen, AppEvent.mayRequest, h] <;> rfl

/-- A scan posts an event that may open a window if the user asks. -/
theorem countP_buttonEvents (cfg : Config) (old new : BitVec 32) :
    (AppTask.buttonEvents cfg new (old ^^^ new)).countP (·.mayOpen cfg) =
      (change (old.getLsbD cfg.asking.1.bit)
        (new.getLsbD cfg.asking.1.bit)).count cfg.asking.2 := by
  have hedges (pinNo : DkButton) :
      (AppTask.edgeEvents pinNo new (old ^^^ new)).countP (·.mayOpen cfg) =
        if cfg.twoButtons && pinNo == switchButton then
          (change (old.getLsbD pinNo.bit) (new.getLsbD pinNo.bit)).count
            .release
        else 0 := by
    rw [AppTask.edgeEvents_xor]
    cases old.getLsbD pinNo.bit <;> cases new.getLsbD pinNo.bit <;>
      simp [change, mayOpen_pushEvent, mayOpen_releaseEvent]
  rw [AppTask.buttonEvents, List.countP_append, List.countP_append,
    hedges functionButton, hedges switchButton]
  cases htwo : cfg.twoButtons with
  | true => simp [Config.asking, htwo]
  | false =>
      have hble : bleAdvertisementStartButton.msk &&& (old ^^^ new) &&& new ≠
          0#32 ↔ old.getLsbD bleAdvertisementStartButton.bit = false ∧
            new.getLsbD bleAdvertisementStartButton.bit = true := by
        rw [BitVec.and_assoc, AppTask.msk_and_ne_zero, BitVec.getLsbD_and,
          BitVec.getLsbD_xor]
        cases old.getLsbD bleAdvertisementStartButton.bit <;>
          cases new.getLsbD bleAdvertisementStartButton.bit <;> decide
      have hrequest : AppEvent.mayOpen cfg
          (AppTask.startBLEAdvertisementEvent bleAdvertisementStartButton) =
            true := rfl
      simp only [Config.asking, htwo, hble]
      cases hold : old.getLsbD bleAdvertisementStartButton.bit <;>
        cases hnew : new.getLsbD bleAdvertisementStartButton.bit <;>
        simp [change, hrequest, hold, hnew]

theorem posts_balance (t : AppTask) (events : List AppEvent) :
    ∃ lost, (events.foldl AppTask.postEvent t).sAppEventQueue.msgs.countP
          (·.mayOpen cfg) + lost =
        t.sAppEventQueue.msgs.countP (·.mayOpen cfg) +
          events.countP (·.mayOpen cfg) ∧
      t.failedPosts + lost ≤
        (events.foldl AppTask.postEvent t).failedPosts := by
  obtain ⟨taken, hmsgs, hsub, hcount⟩ := posts_lossy t events
  obtain ⟨dropped, hperm⟩ := hsub.exists_perm_append
  have hsplit := hperm.countP_eq (·.mayOpen cfg)
  have hlength := hperm.length_eq
  have hle := dropped.countP_le_length (p := (·.mayOpen cfg))
  rw [List.countP_append] at hsplit
  rw [List.length_append] at hlength
  refine ⟨dropped.countP (·.mayOpen cfg), ?_, by omega⟩
  rw [hmsgs, List.countP_append]
  omega

theorem waiting_post {s : System} {t : AppTask} {e : AppEvent}
    (hqueue : t.sAppEventQueue = s.task.sAppEventQueue)
    (he : e.mayOpen cfg = false) :
    ({ s with task := t.postEvent e } : System).waiting cfg =
      s.waiting cfg := by
  rcases t.postEvent_cases e with ⟨q, ht, hq⟩ | ht
  · rw [System.waiting, ht, hq, List.countP_append, List.countP_singleton, he,
      hqueue]
    rfl
  · rw [System.waiting, ht, System.waiting, hqueue]

theorem step_balance (cfg : Config) (s : System) (i : Input) :
    ∃ lost, (s.step cfg i).windows + (s.step cfg i).waiting cfg +
          s.refuses cfg i + lost =
        s.windows + s.waiting cfg + s.asked cfg i ∧
      s.task.failedPosts + lost ≤ (s.step cfg i).task.failedPosts := by
  have hquiet : ∀ j, (s.step cfg j).windows = s.windows →
      (s.step cfg j).waiting cfg = s.waiting cfg →
      s.refuses cfg j = 0 → s.asked cfg j = 0 →
      ∃ lost, (s.step cfg j).windows + (s.step cfg j).waiting cfg +
            s.refuses cfg j + lost =
          s.windows + s.waiting cfg + s.asked cfg j ∧
        s.task.failedPosts + lost ≤ (s.step cfg j).task.failedPosts := by
    intro j hwindows hwaiting hrefuses hasked
    refine ⟨0, ?_, failedPosts_step cfg s j⟩
    rw [hwindows, hwaiting, hrefuses, hasked]
  cases i with
  | buttons new =>
      obtain ⟨lost, hbalance, hfailed⟩ := @posts_balance cfg s.task
        (AppTask.buttonEvents cfg new (s.buttonState ^^^ new))
      rw [countP_buttonEvents] at hbalance
      refine ⟨lost, ?_, hfailed⟩
      have hwaiting : (s.step cfg (.buttons new)).waiting cfg + lost =
          s.waiting cfg + s.asked cfg (.buttons new) := hbalance
      have hwindows : (s.step cfg (.buttons new)).windows = s.windows := rfl
      have hrefuses : s.refuses cfg (.buttons new) = 0 := rfl
      omega
  | dispatch =>
      rcases AppTask.dispatch_cases cfg s with ⟨hmsgs, hs⟩ |
        ⟨e, q, t, effects, hmsgs, hr, hs⟩
      · refine hquiet .dispatch ?_ ?_ ?_ rfl
        · rw [System.step, hs]
        · rw [System.step, hs]
        · simp only [System.refuses, hmsgs]
      · obtain ⟨lost, hbalance, hfailed⟩ := @AppTask.dispatchEvent_balance cfg
          s.commissioning { s.task with sAppEventQueue := q } e
        rw [hr] at hbalance hfailed
        have hs' : s.step cfg .dispatch = _ := hs
        have hrefuses : s.refuses cfg .dispatch =
            (e.mayOpen cfg && !s.commissioning.free).toNat := by
          simp only [System.refuses, hmsgs]
        have hwindows : (s.step cfg .dispatch).windows = s.windows +
            effects.count .openBasicCommissioningWindow := by
          rw [hs', System.windows, List.flatMap_append, List.count_append]
          simp [System.windows]
        have hwaiting : s.waiting cfg =
            q.msgs.countP (·.mayOpen cfg) + (e.mayOpen cfg).toNat := by
          rw [System.waiting, hmsgs, List.countP_cons]
          cases e.mayOpen cfg <;> rfl
        have hwaiting' : (s.step cfg .dispatch).waiting cfg =
            t.sAppEventQueue.msgs.countP (·.mayOpen cfg) := by
          rw [hs']
          rfl
        have hasked : s.asked cfg .dispatch = 0 := rfl
        refine ⟨lost, ?_, ?_⟩
        · dsimp only at hbalance
          omega
        · rw [hs']
          exact Nat.le_of_eq hfailed
  | timerExpiry timer =>
      refine hquiet (.timerExpiry timer) rfl ?_ rfl rfl
      show ({ s with task := s.task.timerExpiry timer } : System).waiting cfg =
        s.waiting cfg
      rw [AppTask.timerExpiry]
      split
      · exact waiting_post (by cases timer <;> rfl)
          (mayOpen_eq_false cfg rfl EventKind.noConfusion)
      · rfl
  | identifyStart | identifyStop | ledStateUpdate =>
      exact hquiet _ rfl
        (waiting_post rfl (mayOpen_eq_false cfg rfl EventKind.noConfusion))
        rfl rfl
  | chipEvent event =>
      obtain ⟨_, _, _, _, _, hc⟩ :=
        AppTask.chipEventHandler_eq cfg s.task event
      refine hquiet _ rfl ?_ rfl rfl
      rw [System.step, hc]
      rfl
  | commissioning env => exact hquiet _ rfl rfl rfl rfl

theorem windows_of_not_free {s : System}
    (hfree : s.commissioning.free = false) (i : Input) :
    (s.step cfg i).windows = s.windows := by
  cases i with
  | dispatch =>
      rcases AppTask.dispatch_cases cfg s with ⟨-, hs⟩ |
        ⟨e, q, t, effects, -, hr, hs⟩
      · rw [System.step, hs]
      · have hopens := @AppTask.count_opens cfg s.commissioning
          { s.task with sAppEventQueue := q } e
        rw [hr, hfree, Bool.and_false] at hopens
        rw [System.step, hs, System.windows, List.flatMap_append,
          List.count_append]
        simpa [System.windows] using hopens
  | buttons | timerExpiry | identifyStart | identifyStop | ledStateUpdate
  | chipEvent | commissioning => rfl

end Step

/-! ## The runs -/

theorem total_asked (cfg : Config) (s : System) (inputs : List Input) :
    total (System.step cfg) (System.asked cfg) s inputs =
      (changes (s.buttonState.getLsbD cfg.asking.1.bit)
        (levels cfg.asking.1 inputs)).count cfg.asking.2 := by
  induction inputs generalizing s with
  | nil => rfl
  | cons i inputs ih =>
      rw [total, ih]
      by_cases hi : ∀ new, i ≠ .buttons new
      case pos =>
        have hasked : s.asked cfg i = 0 := by
          cases i with
          | buttons new => exact absurd rfl (hi new)
          | dispatch | timerExpiry | identifyStart | identifyStop
          | ledStateUpdate | chipEvent | commissioning => rfl
        rw [hasked, buttonState_step hi, levels_cons_other _ hi, Nat.zero_add]
      case neg =>
        obtain ⟨new, rfl⟩ := not_forall_not.mp hi
        rw [levels_cons_buttons, changes, List.count_append]
        rfl

/-- Every press that asks for a window has had the SDK asked to open one, or
was refused, or waits, or is among the posts that failed; and for nothing else
is the SDK asked. -/
theorem windows_accounted (cfg : Config) (buttonState : BitVec 32)
    (inputs : List Input) :
    let start := System.boot cfg buttonState
    let s := System.after cfg buttonState inputs
    let met := s.windows +
      total (System.step cfg) (System.refuses cfg) start inputs +
        s.waiting cfg
    met ≤ asks cfg buttonState inputs ∧
      asks cfg buttonState inputs ≤ met + s.task.failedPosts ∧
      ∀ more, Along (System.step cfg)
          (fun s _ => s.commissioning.free = false) s more →
        (run (System.step cfg) s more).windows = s.windows := by
  intro start s met
  obtain ⟨status, factoryReset, hinit⟩ := AppTask.updateStatusLED_eq cfg {}
  have hstart : start.windows = 0 ∧ start.waiting cfg = 0 ∧
      start.task.failedPosts = 0 := by
    refine ⟨rfl, ?_, ?_⟩
    · rw [System.waiting, show start.task = _ from hinit]
      rfl
    · rw [show start.task = _ from hinit]
  have hasks : total (System.step cfg) (System.asked cfg) start inputs =
      asks cfg buttonState inputs := total_asked cfg start inputs
  refine ⟨?_, ?_, fun more hmore => ?_⟩
  · have hle := @run_total_le _ _ (System.step cfg)
      (fun s => s.windows + s.waiting cfg) (System.refuses cfg)
      (System.asked cfg) (fun s i => by
        obtain ⟨lost, hbalance, -⟩ := step_balance cfg s i
        omega) start inputs
    have hs : run (System.step cfg) start inputs = s := rfl
    rw [hs] at hle
    omega
  · have hle := @le_run_total _ _ (System.step cfg)
      (fun s => s.windows + s.waiting cfg + s.task.failedPosts)
      (System.refuses cfg) (System.asked cfg) (fun s i => by
        obtain ⟨lost, hbalance, hfailed⟩ := step_balance cfg s i
        omega) start inputs
    have hs : run (System.step cfg) start inputs = s := rfl
    rw [hs] at hle
    omega
  · exact @run_inv_along _ _ (System.step cfg)
      (fun s _ => s.commissioning.free = false)
      (fun s' => s'.windows = s.windows)
      (fun s' i hs' hfree => (windows_of_not_free hfree i).trans hs') s rfl
      more hmore

/-- Two buttons: the release asks, and the window opens two dispatches
later. -/
example :
    let cfg : Config := ⟨true, true, true, true⟩
    let inputs : List Input := [.buttons switchButton.msk, .dispatch,
      .buttons 0, .dispatch, .dispatch]
    asks cfg 0 inputs = 1 ∧ (System.after cfg 0 inputs).windows = 1 := by
  decide

end SmartHome.LightSwitch
