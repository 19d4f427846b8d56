import SmartHome.Proofs.Edges

/-!
# From the pins to the events

The DK library reports the state of all buttons at once, and the application
makes events of what has changed. This compares the two ends: the levels that
a button's pin is reported with, and the pushes and releases that have come
into the queue, dispatched or still waiting.

What is lost is lost in the queue, when it is full. So the events are always
among the changes of the pin, in their order and none of them twice, and as
many are missing at most as posts have failed (`edges_follow_pin`).
-/

namespace SmartHome.LightSwitch

open Zephyr Machine

/-! ## Pins -/

def change : Bool → Bool → List Edge
  | false, true => [.push]
  | true, false => [.release]
  | _, _ => []

/-- The edges of a pin that is at `level` and then reported with these. -/
def changes (level : Bool) : List Bool → List Edge
  | [] => []
  | next :: levels => change level next ++ changes next levels

def Input.buttons? : Input → Option (BitVec 32)
  | .buttons buttonState => some buttonState
  | _ => none

/-- What the scans report of a button. -/
def levels (b : DkButton) (inputs : List Input) : List Bool :=
  (inputs.filterMap Input.buttons?).map (·.getLsbD b.bit)

theorem levels_cons_buttons (b : DkButton) (new : BitVec 32)
    (inputs : List Input) :
    levels b (.buttons new :: inputs) =
      new.getLsbD b.bit :: levels b inputs := rfl

theorem levels_cons_other (b : DkButton) {i : Input}
    (hi : ∀ new, i ≠ .buttons new) (inputs : List Input) :
    levels b (i :: inputs) = levels b inputs := by
  cases i with
  | buttons new => exact absurd rfl (hi new)
  | timerExpiry | dispatch | identifyStart | identifyStop | ledStateUpdate
  | chipEvent | commissioning => rfl

/-! ## Posts that may fail -/

theorem posts_lossy (t : AppTask) (events : List AppEvent) :
    ∃ taken, (events.foldl AppTask.postEvent t).sAppEventQueue.msgs =
        t.sAppEventQueue.msgs ++ taken ∧
      taken.Sublist events ∧
      (events.foldl AppTask.postEvent t).failedPosts + taken.length =
        t.failedPosts + events.length := by
  induction events generalizing t with
  | nil => exact ⟨[], (List.append_nil _).symm, List.Sublist.slnil, rfl⟩
  | cons e events ih =>
      obtain ⟨taken, hmsgs, hsub, hcount⟩ := ih (t.postEvent e)
      rw [List.foldl_cons, List.length_cons, hmsgs]
      rcases t.postEvent_cases e with ⟨q, ht, hq⟩ | ht
      · rw [ht] at hcount ⊢
        refine ⟨e :: taken, ?_, hsub.cons_cons e, ?_⟩
        · rw [hq, List.append_assoc]
          rfl
        · rw [List.length_cons]
          dsimp only at hcount
          omega
      · rw [ht] at hcount ⊢
        refine ⟨taken, rfl, hsub.cons e, ?_⟩
        dsimp only at hcount
        omega

/-- Of what has a letter no more is lost than of all. -/
theorem length_filterMap_le {α β : Type _} (f : α → Option β)
    {taken all : List α} (h : taken.Sublist all) :
    (all.filterMap f).length + taken.length ≤
      (taken.filterMap f).length + all.length := by
  induction h with
  | slnil => exact Nat.le_refl _
  | cons a _ ih =>
      rw [List.filterMap_cons, List.length_cons]
      split
      · omega
      · rw [List.length_cons]
        omega
  | cons_cons a _ ih =>
      rw [List.filterMap_cons, List.filterMap_cons, List.length_cons,
        List.length_cons]
      split
      · omega
      · rw [List.length_cons, List.length_cons]
        omega

/-! ## Runs -/

section Run

variable {cfg : Config} {b : DkButton}

theorem edges_scan (hb : b = functionButton ∨ b = switchButton) (s : System)
    (new : BitVec 32) :
    ∃ taken, edges b (s.step cfg (.buttons new)).timeline =
        edges b s.timeline ++ taken ∧
      taken.Sublist
        (change (s.buttonState.getLsbD b.bit) (new.getLsbD b.bit)) ∧
      (change (s.buttonState.getLsbD b.bit) (new.getLsbD b.bit)).length +
          s.task.failedPosts ≤
        taken.length + (s.step cfg (.buttons new)).task.failedPosts := by
  have hchange : edges b (AppTask.buttonEvents cfg new
      (s.buttonState ^^^ new)) =
        change (s.buttonState.getLsbD b.bit) (new.getLsbD b.bit) := by
    rw [edges_buttonEvents hb]
    cases s.buttonState.getLsbD b.bit <;> cases new.getLsbD b.bit <;> rfl
  obtain ⟨taken, hmsgs, hsub, hcount⟩ := posts_lossy s.task
    (AppTask.buttonEvents cfg new (s.buttonState ^^^ new))
  have hlength := length_filterMap_le (·.edge? b) hsub
  rw [← hchange]
  refine ⟨edges b taken, ?_, hsub.filterMap _, ?_⟩
  · rw [edges_timeline, edges_timeline, System.step,
      AppTask.buttonEventHandler]
    dsimp only
    rw [hmsgs, edges_append, List.append_assoc]
  · rw [System.step, AppTask.buttonEventHandler]
    dsimp only [edges]
    omega

theorem edges_run (cfg : Config) (hb : b = functionButton ∨ b = switchButton)
    (inputs : List Input) (s : System) :
    let s' := run (System.step cfg) s inputs
    let pin := changes (s.buttonState.getLsbD b.bit) (levels b inputs)
    (edges b s'.timeline).Sublist (edges b s.timeline ++ pin) ∧
      (edges b s.timeline ++ pin).length + s.task.failedPosts ≤
        (edges b s'.timeline).length + s'.task.failedPosts := by
  induction inputs generalizing s with
  | nil =>
      show List.Sublist (edges b s.timeline) (edges b s.timeline ++ []) ∧
        (edges b s.timeline ++ []).length + _ ≤ _
      rw [List.append_nil]
      exact ⟨List.Sublist.refl _, Nat.le_refl _⟩
  | cons i inputs ih =>
      obtain ⟨hsub, hcount⟩ := ih (s.step cfg i)
      by_cases hi : ∀ new, i ≠ .buttons new
      case pos =>
        have hle := failedPosts_step cfg s i
        rw [edges_step hi, buttonState_step hi] at hsub hcount
        rw [run_cons, levels_cons_other b hi]
        exact ⟨hsub, by omega⟩
      case neg =>
        obtain ⟨new, rfl⟩ := not_forall_not.mp hi
        obtain ⟨taken, hedges, htaken, hlength⟩ := edges_scan hb s new
        rw [hedges] at hsub hcount
        rw [run_cons, levels_cons_buttons, changes]
        refine ⟨?_, ?_⟩
        · refine hsub.trans ?_
          rw [← List.append_assoc]
          exact ((List.Sublist.refl _).append htaken).append
            (List.Sublist.refl _)
        · simp only [List.length_append] at hcount ⊢
          dsimp only [System.step] at hcount hlength ⊢
          omega

end Run

/-- In every run the edges of a button that have come into the queue are
among the changes of its pin, in their order, and no more of them are missing
than posts have failed. -/
theorem edges_follow_pin (cfg : Config) {b : DkButton}
    (hb : b = functionButton ∨ b = switchButton) (buttonState : BitVec 32)
    (inputs : List Input) :
    let s := System.after cfg buttonState inputs
    let pin := changes (buttonState.getLsbD b.bit) (levels b inputs)
    (edges b s.timeline).Sublist pin ∧
      pin.length ≤ (edges b s.timeline).length + s.task.failedPosts := by
  intro s pin
  obtain ⟨status, factoryReset, hinit⟩ := AppTask.updateStatusLED_eq cfg {}
  have hempty : edges b (System.boot cfg buttonState).timeline = [] := by
    rw [System.timeline, System.boot, AppTask.init, hinit]
    rfl
  obtain ⟨hsub, hcount⟩ := edges_run cfg hb inputs
    (System.boot cfg buttonState)
  rw [hempty] at hsub hcount
  exact ⟨hsub, Nat.le_trans (Nat.le_add_right _ _) hcount⟩

/-- A button that bounces while the task is busy: twelve edges, and a queue
for ten. -/
theorem edges_follow_pin_overrun :
    let cfg : Config := ⟨false, true, true, true⟩
    let inputs : List Input := (List.replicate 6
      [Input.buttons switchButton.msk, Input.buttons 0]).flatten
    let s := System.after cfg 0 inputs
    (edges switchButton s.timeline).length = 10 ∧
      12 ≤ (edges switchButton s.timeline).length + s.task.failedPosts := by
  intro cfg inputs s
  have hpin := edges_follow_pin cfg (Or.inr rfl) 0 inputs
  exact ⟨by decide, hpin.2⟩

end SmartHome.LightSwitch
