import SmartHome.Machine.Answers

/-!
# A countdown that a release cancels

A button is pushed and held, and time runs out, or it is let go of before
that. The first resets the device and the second cancels the reset. A
description with two phases: something is pending between a push and
whichever comes first.

Every hold comes to exactly one of the two ends, however often the time runs
out in it: `length_answers_hold`.
-/

namespace SmartHome.Countdown

open Machine

inductive Letter where
  | push
  | release
  | expiry
deriving DecidableEq, Repr

inductive Outcome where
  | canceled
  | reset
deriving DecidableEq, Repr

/-- A reset is pending. -/
abbrev Phase := Bool

def next (_ : Phase) : Letter → Phase
  | .push => true
  | .release | .expiry => false

def answer (pending : Phase) : Letter → List Outcome
  | .push => []
  | .release => if pending then [.canceled] else []
  | .expiry => if pending then [.reset] else []

/-- With nothing pending there is no answer before the next push. -/
theorem answers_idle {w : List Letter} (h : Letter.push ∉ w) :
    answers next answer false w = [] := by
  induction w with
  | nil => rfl
  | cons l w ih =>
      have hw : Letter.push ∉ w := fun hmem => h (List.mem_cons_of_mem l hmem)
      cases l with
      | push => exact absurd List.mem_cons_self h
      | release | expiry => exact ih hw

/-- A hold, from the push to the release, has exactly one outcome. -/
theorem length_answers_hold (p : Phase) {w : List Letter}
    (h : ∀ l ∈ w, l = .expiry) :
    (answers next answer p (.push :: (w ++ [.release]))).length = 1 := by
  cases w with
  | nil => rfl
  | cons l w =>
      obtain ⟨rfl, hw⟩ := List.forall_mem_cons.mp h
      have hidle : answers next answer false (w ++ [.release]) = [] := by
        apply answers_idle
        intro hmem
        rcases List.mem_append.mp hmem with hmem | hmem
        · exact Letter.noConfusion (hw _ hmem)
        · exact Letter.noConfusion (List.mem_singleton.mp hmem)
      show ([Outcome.reset] ++
        answers next answer false (w ++ [.release])).length = 1
      rw [hidle]
      rfl

end SmartHome.Countdown
