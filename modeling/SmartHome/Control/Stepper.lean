/-!
# Controllers that move by a fixed step

The simplest controller there is looks at the sign of an error and moves its
output by a fixed step, or not at all. `Moves q e d` says that `d` is such a
move: nothing, or `q` in the direction of the error `e`. What two of them do
that act on the same error, each without knowing of the other, is that the
error shrinks by up to two steps at a time.

As long as the error is a multiple of the step it can then not grow, and it
shrinks while it is at least two steps off. What is left is a single step:
there two moves carry it over zero, to a single step on the other side, and
that is the only way over.

A controller that acts on the error alone, `target - e` for an output `e`,
has nobody to carry it over. `Approaches q target e e'` is what a move of it
amounts to: it stays where it is at the target, and otherwise comes one whole
step closer, without passing it.
-/

namespace SmartHome.Control

/-- `d` is a move by a step `q`, or none, towards the error `e`. -/
def Moves (q e d : Int) : Prop :=
  d = 0 ∨ (0 < e ∧ d = q) ∨ (e < 0 ∧ d = -q)

section Two

variable {q e d₁ d₂ : Int}

/-- An error that is a multiple of the step is at least one step off. -/
theorem step_le_natAbs (hdvd : q ∣ e) (he : e ≠ 0) : q ≤ e.natAbs :=
  Int.le_of_dvd (by omega) (Int.dvd_natAbs.mpr hdvd)

theorem natAbs_sub_moves_le (hdvd : q ∣ e) (h₁ : Moves q e d₁)
    (h₂ : Moves q e d₂) (hq : 0 < q) :
    (e - d₁ - d₂).natAbs ≤ e.natAbs := by
  have hstep := @step_le_natAbs q e hdvd
  unfold Moves at h₁ h₂
  omega

theorem natAbs_sub_moves_lt (h₁ : Moves q e d₁) (h₂ : Moves q e d₂)
    (hq : 0 < q) (hmove : d₁ ≠ 0) (hfar : 2 * q ≤ e.natAbs) :
    (e - d₁ - d₂).natAbs < e.natAbs := by
  unfold Moves at h₁ h₂
  omega

/-- Two moves carry an error over zero only from one step to one step. -/
theorem crosses_zero (hdvd : q ∣ e) (h₁ : Moves q e d₁) (h₂ : Moves q e d₂)
    (hq : 0 < q) :
    (0 < e ∧ e - d₁ - d₂ < 0 → e = q ∧ e - d₁ - d₂ = -q) ∧
      (e < 0 ∧ 0 < e - d₁ - d₂ → e = -q ∧ e - d₁ - d₂ = q) := by
  have hbelow := @step_le_natAbs q (e - q) (Int.dvd_sub hdvd (Int.dvd_refl q))
  have habove := @step_le_natAbs q (e + q) (Int.dvd_add hdvd (Int.dvd_refl q))
  unfold Moves at h₁ h₂
  omega

end Two

section One

variable {q target e e' : Int}

/-- `e'` is `e` if that is the target, and otherwise one step `q` closer to
it, without passing it. -/
def Approaches (q target e e' : Int) : Prop :=
  (e = target → e' = e) ∧
    (e < target → e' = e + q ∧ e' ≤ target) ∧
    (target < e → e' = e - q ∧ target ≤ e')

/-- A step by the sign of the error. Being a multiple of the step, the error
is enough for a whole one. -/
theorem approaches_of_step (hdvd : q ∣ target - e)
    (hpos : 0 < target - e → e' = e + q)
    (hneg : target - e < 0 → e' = e - q)
    (hzero : target - e = 0 → e' = e) : Approaches q target e e' := by
  have hstep := @step_le_natAbs q (target - e) hdvd
  unfold Approaches
  omega

/-- The output cannot go below zero, and the target is not below zero either:
then the error may as well be measured against a target that is. -/
theorem approaches_max_zero {level : Int} (hlevel : q ∣ level) (he : q ∣ e)
    (hnonneg : 0 ≤ e) (hq : 0 < q) (hpos : 0 < level - e → e' = e + q)
    (hneg : level - e < 0 → e' = max 0 (e - q))
    (hzero : level - e = 0 → e' = e) : Approaches q (max 0 level) e e' := by
  have hstep := @step_le_natAbs q e he
  have hmax : q ∣ max 0 level := by
    rcases Int.le_total 0 level with h | h
    · rw [Int.max_eq_right h]
      exact hlevel
    · rw [Int.max_eq_left h]
      exact Int.dvd_zero q
  apply approaches_of_step (Int.dvd_sub hmax he) <;> omega

end One

end SmartHome.Control
