import Mathlib.Data.List.Induction

/-!
# What a multi-press switch is to send

A gesture is a number of presses in quick succession. The driver tells of
each press after the first, by a `repeated`, and of the end of the gesture, by
a `done`. What is to be sent for the gesture is the number of presses so far
at each repeat, and the number of presses that it had at its end: for the
gesture of `r` repeats, the numbers 2 to `r + 1` and then `r + 1` again.

`promised` is what that comes to for everything the driver has told so far,
and `promised_gestures` says so for whole gestures.
-/

namespace SmartHome.MultiPress

inductive Letter where
  | repeated
  | done
deriving DecidableEq, Repr

inductive Report where
  /-- The presses of the gesture so far. -/
  | ongoing (presses : Nat)
  | complete (presses : Nat)
deriving DecidableEq, Repr

/-- What is sent at the repeats of a gesture. -/
def ongoings (repeats : Nat) : List Report :=
  (List.range repeats).map fun j => .ongoing (j + 2)

/-- What is sent for a whole gesture. -/
def reports (repeats : Nat) : List Report :=
  ongoings repeats ++ [.complete (repeats + 1)]

/-- The gestures the driver has told of, each by its number of repeats. -/
structure Gestures where
  completed : List Nat := []
  repeats : Nat := 0
deriving DecidableEq, Repr

namespace Gestures

def read (g : Gestures) : Letter → Gestures
  | .repeated => { g with repeats := g.repeats + 1 }
  | .done => { completed := g.completed ++ [g.repeats] }

/-- All that is to be sent for them. -/
def promised (g : Gestures) : List Report :=
  g.completed.flatMap reports ++ ongoings g.repeats

theorem promised_repeated (g : Gestures) :
    (g.read .repeated).promised =
      g.promised ++ [.ongoing (g.repeats + 2)] := by
  simp [promised, read, ongoings, List.range_succ]

theorem promised_done (g : Gestures) :
    (g.read .done).promised = g.promised ++ [.complete (g.repeats + 1)] := by
  simp [promised, read, reports, ongoings]

/-- How the driver tells of a gesture. -/
def letters (repeats : Nat) : List Letter :=
  List.replicate repeats .repeated ++ [.done]

theorem read_letters (g : Gestures) (hidle : g.repeats = 0) (repeats : Nat) :
    (letters repeats).foldl read g =
      { completed := g.completed ++ [repeats] } := by
  have hrepeats (n : Nat) : (List.replicate n Letter.repeated).foldl read g =
      { g with repeats := n } := by
    induction n with
    | zero =>
        obtain ⟨completed, r⟩ := g
        rw [show r = 0 from hidle]
        rfl
    | succ n ih =>
        rw [List.replicate_succ', List.foldl_append, ih]
        rfl
  rw [letters, List.foldl_append, hrepeats]
  rfl

/-- What is promised for gestures that the driver has told of in full. -/
theorem promised_gestures (gestures : List Nat) :
    ((gestures.flatMap letters).foldl read {}).promised =
      gestures.flatMap reports := by
  have hread : (gestures.flatMap letters).foldl read {} =
      { completed := gestures } := by
    induction gestures using List.reverseRecOn with
    | nil => rfl
    | append_singleton gestures repeats ih =>
        rw [List.flatMap_append, List.foldl_append, ih, List.flatMap_singleton,
          read_letters _ rfl]
  rw [hread, promised]
  simp [ongoings]

end Gestures

end SmartHome.MultiPress
