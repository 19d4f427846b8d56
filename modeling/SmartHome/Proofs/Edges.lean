import Mathlib.Data.List.Chain
import SmartHome.Machine.Run
import SmartHome.Proofs.Handlers

/-!
# The edges of one button alternate

The DK library reports button states, not edges; `ButtonEventHandler` posts
an edge for each button whose bit changed. So as long as no post fails, the
pushes and releases of a button alternate along the whole timeline, from the
first dispatched event to the last queued one, and the last of them says
whether the button is down. Everything else that is posted is no edge, and a
dispatch only moves the border between the two parts.

`EdgesInv.between` is what later files use: between a dispatched push and the
next release there is no edge at all.
-/

namespace SmartHome.LightSwitch

open Zephyr Machine

/-- The edges of a button among some events. -/
def edges (b : DkButton) (events : List AppEvent) : List Edge :=
  events.filterMap (·.edge? b)

theorem edges_append (b : DkButton) (older newer : List AppEvent) :
    edges b (older ++ newer) = edges b older ++ edges b newer :=
  List.filterMap_append

theorem edges_cons (b : DkButton) (e : AppEvent) (events : List AppEvent) :
    edges b (e :: events) = edges b [e] ++ edges b events :=
  edges_append b [e] events

theorem edges_singleton {b : DkButton} {e : AppEvent} {edge : Edge}
    (he : e.edge? b = some edge) : edges b [e] = [edge] :=
  List.filterMap_cons_some he

structure EdgesInv (b : DkButton) (s : System) : Prop where
  alternate : (edges b s.timeline).IsChain (· ≠ ·)
  pushed : lastEdge b s.timeline = some .push →
    s.buttonState.getLsbD b.bit = true
  released : lastEdge b s.timeline = some .release →
    s.buttonState.getLsbD b.bit = false

section Step

variable {cfg : Config} {b : DkButton} {s : System}

/-- No step makes up for a failed post. -/
theorem failedPosts_step (cfg : Config) (s : System) (i : Input) :
    s.task.failedPosts ≤ (s.step cfg i).task.failedPosts := by
  cases i with
  | buttons new => exact s.task.failedPosts_posts _
  | timerExpiry timer =>
      show _ ≤ (s.task.timerExpiry timer).failedPosts
      rw [AppTask.timerExpiry]
      split
      · refine Nat.le_trans ?_ (AppTask.failedPosts_posts _ [_])
        cases timer <;> exact Nat.le_refl _
      · exact Nat.le_refl _
  | dispatch =>
      rw [System.step]
      rcases AppTask.dispatch_cases cfg s with ⟨-, hs⟩ |
        ⟨e, q, t, effects, -, hr, hs⟩
      · rw [hs]
      · have hle := AppTask.failedPosts_dispatchEvent cfg s.commissioning
          { s.task with sAppEventQueue := q } e
        rw [hr] at hle
        rw [hs]
        exact hle
  | identifyStart | identifyStop | ledStateUpdate =>
      exact s.task.failedPosts_posts [_]
  | chipEvent event =>
      obtain ⟨_, _, _, _, _, hc⟩ :=
        AppTask.chipEventHandler_eq cfg s.task event
      rw [System.step, hc]
  | commissioning env => exact Nat.le_refl _

/-- An event that is no edge may be posted or dropped. -/
theorem edges_postEvent (t : AppTask) {e : AppEvent}
    (he : e.edge? b = none) :
    edges b (t.postEvent e).sAppEventQueue.msgs =
      edges b t.sAppEventQueue.msgs := by
  rcases t.postEvent_cases e with ⟨q, ht, hq⟩ | ht
  · rw [ht, hq, edges_append, show edges b [e] = [] from
      List.filterMap_cons_none he, List.append_nil]
  · rw [ht]

theorem edges_timeline (b : DkButton) (s : System) :
    edges b s.timeline = edges b (s.dispatched.map (·.event)) ++
      edges b s.task.sAppEventQueue.msgs :=
  edges_append b _ _

/-- Only the button scan adds edges. -/
theorem edges_step {i : Input} (hi : ∀ new, i ≠ .buttons new) :
    edges b (s.step cfg i).timeline = edges b s.timeline := by
  have hpost : ∀ (t : AppTask) (e : AppEvent), e.edge? b = none →
      t.sAppEventQueue = s.task.sAppEventQueue →
      edges b ({ s with task := t.postEvent e } : System).timeline =
        edges b s.timeline := by
    intro t e he ht
    rw [edges_timeline, edges_timeline]
    show _ ++ edges b (t.postEvent e).sAppEventQueue.msgs = _
    rw [edges_postEvent t he, ht]
  cases i with
  | buttons new => exact absurd rfl (hi new)
  | timerExpiry timer =>
      show edges b
        ({ s with task := s.task.timerExpiry timer } : System).timeline = _
      rw [AppTask.timerExpiry]
      split
      · exact hpost _ _ rfl (by cases timer <;> rfl)
      · rfl
  | identifyStart | identifyStop | ledStateUpdate => exact hpost _ _ rfl rfl
  | chipEvent event =>
      obtain ⟨_, _, _, _, _, hc⟩ :=
        AppTask.chipEventHandler_eq cfg s.task event
      rw [System.step, hc]
      rfl
  | commissioning env => rfl
  | dispatch =>
      rw [System.step]
      rcases AppTask.dispatch_cases cfg s with ⟨-, hs⟩ |
        ⟨e, q, t, effects, hmsgs, hr, hs⟩
      · rw [hs]
      · obtain ⟨posted, hq, hposted⟩ := AppTask.queue_dispatchEvent cfg
          s.commissioning { s.task with sAppEventQueue := q } e
        rw [hr] at hq
        have hnone : edges b posted = [] :=
          List.filterMap_eq_nil_iff.mpr fun e' he' => by
            rw [hposted e' he']
            rfl
        rw [hs, edges_timeline, edges_timeline, hmsgs]
        dsimp only at hq ⊢
        rw [hq, List.map_append, edges_append, edges_append, hnone,
          List.append_nil, List.append_assoc, ← edges_append]
        rfl

/-- What a button scan posts for one of the two buttons. -/
theorem edges_buttonEvents (hb : b = functionButton ∨ b = switchButton)
    (cfg : Config) (old new : BitVec 32) :
    edges b (AppTask.buttonEvents cfg new (old ^^^ new)) =
      match old.getLsbD b.bit, new.getLsbD b.bit with
      | false, true => [.push]
      | true, false => [.release]
      | _, _ => [] := by
  have hother : ∀ pinNo, pinNo ≠ b →
      edges b (AppTask.edgeEvents pinNo new (old ^^^ new)) = [] := by
    intro pinNo hpin
    rw [AppTask.edgeEvents_xor]
    split <;> simp [edges, AppEvent.edge?, hpin]
  have hown : edges b (AppTask.edgeEvents b new (old ^^^ new)) =
      match old.getLsbD b.bit, new.getLsbD b.bit with
      | false, true => [.push]
      | true, false => [.release]
      | _, _ => [] := by
    rw [AppTask.edgeEvents_xor]
    cases old.getLsbD b.bit <;> cases new.getLsbD b.bit <;>
      simp [edges, AppEvent.edge?]
  have hble : edges b (if cfg.twoButtons then []
      else if bleAdvertisementStartButton.msk &&& (old ^^^ new) &&& new
          ≠ 0#32 then
        [AppTask.startBLEAdvertisementEvent bleAdvertisementStartButton]
      else []) = [] := by
    split
    · rfl
    · split <;> rfl
  rw [AppTask.buttonEvents, edges_append, edges_append, hble, List.append_nil]
  rcases hb with rfl | rfl
  · rw [hown, hother switchButton (by decide), List.append_nil]
  · rw [hown, hother functionButton (by decide), List.nil_append]

theorem edges_buttons (cfg : Config) {new : BitVec 32}
    (hposts : (s.step cfg (.buttons new)).task.failedPosts = 0) :
    edges b (s.step cfg (.buttons new)).timeline =
      edges b s.timeline ++
        edges b (AppTask.buttonEvents cfg new (s.buttonState ^^^ new)) := by
  obtain ⟨q, hq, hmsgs⟩ := s.task.posts_eq hposts
  rw [System.step, AppTask.buttonEventHandler, hq, edges_timeline,
    edges_timeline]
  dsimp only
  rw [hmsgs, edges_append, List.append_assoc]

theorem buttonState_step {i : Input} (hi : ∀ new, i ≠ .buttons new) :
    (s.step cfg i).buttonState = s.buttonState := by
  cases i with
  | buttons new => exact absurd rfl (hi new)
  | dispatch =>
      rw [System.step]
      rcases AppTask.dispatch_cases cfg s with ⟨-, hs⟩ |
        ⟨e, q, t, effects, -, -, hs⟩ <;> rw [hs]
  | timerExpiry | identifyStart | identifyStop | ledStateUpdate | chipEvent
  | commissioning => rfl

theorem EdgesInv.of_edges (h : EdgesInv b s) {s' : System}
    (hedges : edges b s'.timeline = edges b s.timeline)
    (hstate : s'.buttonState.getLsbD b.bit = s.buttonState.getLsbD b.bit) :
    EdgesInv b s' := by
  have hlast : lastEdge b s'.timeline = lastEdge b s.timeline :=
    congrArg List.getLast? hedges
  refine ⟨by rw [hedges]; exact h.alternate, ?_, ?_⟩
  · rw [hlast, hstate]
    exact h.pushed
  · rw [hlast, hstate]
    exact h.released

/-- One more edge at the end, different from the last. -/
theorem EdgesInv.concat (h : EdgesInv b s) {s' : System} {edge : Edge}
    (hedges : edges b s'.timeline = edges b s.timeline ++ [edge])
    (hlast : lastEdge b s.timeline ≠ some edge)
    (hdown : s'.buttonState.getLsbD b.bit = (edge == .push)) :
    EdgesInv b s' := by
  have hlast' : lastEdge b s'.timeline = some edge := by
    show (edges b s'.timeline).getLast? = _
    rw [hedges, List.getLast?_concat]
  refine ⟨?_, fun hpush => ?_, fun hrelease => ?_⟩
  · rw [hedges]
    refine h.alternate.append (List.isChain_singleton _) ?_
    intro x hx y hy
    obtain rfl := Option.some.inj hy
    intro heq
    subst heq
    exact hlast hx
  · rw [hdown, Option.some.inj (hlast'.symm.trans hpush)]
    rfl
  · rw [hdown, Option.some.inj (hlast'.symm.trans hrelease)]
    rfl

theorem EdgesInv.buttons (hb : b = functionButton ∨ b = switchButton)
    (h : EdgesInv b s) {new : BitVec 32}
    (hposts : (s.step cfg (.buttons new)).task.failedPosts = 0) :
    EdgesInv b (s.step cfg (.buttons new)) := by
  have hedges : edges b (s.step cfg (.buttons new)).timeline = _ :=
    edges_buttons cfg hposts
  rw [edges_buttonEvents hb] at hedges
  cases hold : s.buttonState.getLsbD b.bit <;>
    cases hnew : new.getLsbD b.bit <;> rw [hold, hnew] at hedges
  case false.true =>
    refine h.concat hedges (fun hp => ?_) hnew
    exact absurd (hold.symm.trans (h.pushed hp)) (by decide)
  case true.false =>
    refine h.concat hedges (fun hr => ?_) hnew
    exact absurd (hold.symm.trans (h.released hr)) (by decide)
  all_goals
    exact h.of_edges (hedges.trans (List.append_nil _)) (hnew.trans hold.symm)

theorem EdgesInv.step (hb : b = functionButton ∨ b = switchButton)
    (h : EdgesInv b s) {i : Input}
    (hposts : (s.step cfg i).task.failedPosts = 0) :
    EdgesInv b (s.step cfg i) := by
  by_cases hi : ∀ new, i ≠ .buttons new
  case pos =>
    exact h.of_edges (edges_step hi) (congrArg (·.getLsbD b.bit)
      (buttonState_step hi))
  case neg =>
    obtain ⟨new, rfl⟩ := not_forall_not.mp hi
    exact h.buttons hb hposts

end Step

theorem edgesInv_boot (cfg : Config) (b : DkButton)
    (buttonState : BitVec 32) : EdgesInv b (System.boot cfg buttonState) := by
  obtain ⟨status, factoryReset, hinit⟩ := AppTask.updateStatusLED_eq cfg {}
  have hline : (System.boot cfg buttonState).timeline = [] := by
    rw [System.timeline, System.boot, AppTask.init, hinit]
    rfl
  refine ⟨?_, fun h => ?_, fun h => ?_⟩
  · rw [hline]
    exact List.IsChain.nil
  · rw [hline] at h
    cases h
  · rw [hline] at h
    cases h

theorem edgesInv_after {b : DkButton}
    (hb : b = functionButton ∨ b = switchButton) (cfg : Config)
    (buttonState : BitVec 32) (inputs : List Input)
    (hposts : (System.after cfg buttonState inputs).task.failedPosts = 0) :
    EdgesInv b (System.after cfg buttonState inputs) := by
  refine @run_inv _ _ (System.step cfg)
    (fun s => s.task.failedPosts = 0 → EdgesInv b s) ?_ _
    (fun _ => edgesInv_boot cfg b buttonState) inputs hposts
  intro s i h hzero
  have hle := failedPosts_step cfg s i
  exact (h (by omega)).step hb hzero

/-- The next edge to be dispatched differs from the last one that was. -/
theorem EdgesInv.next {b : DkButton} {s : System} (h : EdgesInv b s)
    {e : AppEvent} {rest : List AppEvent}
    (hmsgs : s.task.sAppEventQueue.msgs = e :: rest) {edge : Edge}
    (he : e.edge? b = some edge) :
    lastEdge b (s.dispatched.map (·.event)) ≠ some edge := by
  have hchain := h.alternate
  rw [edges_timeline, hmsgs, edges_cons, edges_singleton he,
    List.isChain_append] at hchain
  intro hlast
  exact hchain.2.2 edge hlast edge rfl rfl

/-- Between a push and the release after it there are no edges, and the
event that ends such a stretch is not another push. -/
theorem EdgesInv.between {b : DkButton} {s : System} (h : EdgesInv b s)
    {pre mid post : List Dispatch} {p d : Dispatch}
    (hd : s.dispatched = pre ++ p :: (mid ++ d :: post))
    (hp : p.event.edge? b = some .push)
    (hmid : ∀ d ∈ mid, d.event.edge? b ≠ some .release) :
    (∀ d ∈ mid, d.event.edge? b = none) ∧ d.event.edge? b ≠ some .push := by
  have hsplit : edges b s.timeline = edges b (pre.map (·.event)) ++
      .push :: (edges b (mid.map (·.event)) ++
        (edges b [d.event] ++ edges b (post.map (·.event)) ++
          edges b s.task.sAppEventQueue.msgs)) := by
    rw [edges_timeline, hd, List.map_append, List.map_cons, List.map_append,
      List.map_cons, edges_append, edges_cons b p.event, edges_append,
      edges_cons b d.event, edges_singleton hp]
    simp only [List.append_assoc, List.cons_append, List.nil_append]
  have hchain := h.alternate
  rw [hsplit] at hchain
  have hright := hchain.right_of_append
  -- An edge right after the push would have to be a release.
  have hnone : edges b (mid.map (·.event)) = [] := by
    cases hm : edges b (mid.map (·.event)) with
    | nil => rfl
    | cons x xs =>
        rw [hm] at hright
        have hx : x ≠ .push := (List.isChain_cons_cons.mp hright).1.symm
        have hmem : x ∈ edges b (mid.map (·.event)) := by
          rw [hm]
          exact List.mem_cons_self
        obtain ⟨e, he, hex⟩ := List.mem_filterMap.mp hmem
        obtain ⟨d', hd', rfl⟩ := List.mem_map.mp he
        cases x with
        | push => exact absurd rfl hx
        | release => exact absurd hex (hmid d' hd')
  refine ⟨fun d' hd' => ?_, fun hpush => ?_⟩
  · exact List.filterMap_eq_nil_iff.mp hnone _ (List.mem_map_of_mem hd')
  · rw [hnone, edges_singleton hpush] at hright
    exact (List.isChain_cons_cons.mp hright).1 rfl

end SmartHome.LightSwitch
