import SmartHome.Machine.Run

/-!
# What a function button is for

One button, three things to do with it, told apart by how long it is held.
Let go soon, it starts a software update; held through the first of two
windows, it starts a countdown, which a release cancels; held through the
second as well, it resets the device, and letting it go after that does
nothing.

`next` and `answer` are that description. An `expiry` is the end of the
window that the hold is in. What comes of it is `outcomes_le_one`: until the
next push, and whatever the letters, there is at most one outcome. A hold
has one to give away, `left` counts it, and every letter's answer is paid
from it.
-/

namespace SmartHome.Hold

open Machine

inductive Letter where
  | push
  | release
  | expiry
deriving DecidableEq, Repr

inductive Outcome where
  | softwareUpdate
  | resetCanceled
  | factoryReset
deriving DecidableEq, Repr

inductive Phase where
  | up
  /-- In the first window. -/
  | held
  /-- In the second window. -/
  | countdown
  /-- The device was reset with the button still down. -/
  | fired
deriving DecidableEq, Repr

def next : Phase → Letter → Phase
  | _, .push => .held
  | _, .release => .up
  | .held, .expiry => .countdown
  | .countdown, .expiry => .fired
  | p, .expiry => p

def answer : Phase → Letter → Option Outcome
  | .held, .release => some .softwareUpdate
  | .countdown, .release => some .resetCanceled
  | .countdown, .expiry => some .factoryReset
  | _, _ => none

@[simp] theorem next_push (p : Phase) : next p .push = .held := by
  cases p <;> rfl

@[simp] theorem next_release (p : Phase) : next p .release = .up := by
  cases p <;> rfl

@[simp] theorem answer_push (p : Phase) : answer p .push = none := by
  cases p <;> rfl

/-- The outcomes of some letters, in order. -/
def outcomes : Phase → List Letter → List Outcome
  | _, [] => []
  | p, l :: w => (answer p l).toList ++ outcomes (next p l) w

/-- How many outcomes a hold has left. -/
def Phase.left : Phase → Nat
  | .held => 1
  | .countdown => 1
  | .up => 0
  | .fired => 0

theorem left_le_one (p : Phase) : p.left ≤ 1 := by
  cases p <;> decide

/-- An outcome uses up what the hold has left. -/
theorem answer_left (p : Phase) {l : Letter} (hl : l ≠ .push) :
    (answer p l).toList.length + (next p l).left ≤ p.left := by
  cases l with
  | push => exact absurd rfl hl
  | release | expiry => cases p <;> decide

theorem outcomes_le_left (p : Phase) {w : List Letter} (hw : .push ∉ w) :
    (outcomes p w).length ≤ p.left := by
  induction w generalizing p with
  | nil => exact Nat.zero_le _
  | cons l w ih =>
      have hl := answer_left p fun h => hw (h ▸ List.mem_cons_self)
      have hw' := ih (next p l) fun h => hw (List.mem_cons_of_mem l h)
      rw [outcomes, List.length_append]
      omega

/-- Until the next push there is at most one outcome. -/
theorem outcomes_le_one (p : Phase) {w : List Letter} (hw : .push ∉ w) :
    (outcomes p w).length ≤ 1 :=
  Nat.le_trans (outcomes_le_left p hw) (left_le_one p)

end SmartHome.Hold
