import Mathlib.Data.List.Basic
import SmartHome.Machine.Run

/-!
# A latch that should trip only once

The usual way to do something once and then wait for the all-clear: a flag
that is set when the thing is done, keeps it from being done again while it
is set, and is cleared by a signal of success. How often the thing is done
then depends on the order of the signals alone, and `trips_le_one` says how:
it is done more than once exactly when a trip, a later reset and a still
later trip occur among the signals, however far apart and whatever is in
between. The two results before it are its halves, from a latch that is
closed and from one that is open.
-/

namespace SmartHome.Machine

open scoped List

inductive Signal where
  | trip
  | reset
  | idle
deriving DecidableEq, Repr

structure Latch where
  closed : Bool := false
  trips : Nat := 0
deriving DecidableEq, Repr

namespace Latch

def step (l : Latch) : Signal → Latch
  | .trip => if l.closed then l else ⟨true, l.trips + 1⟩
  | .reset => { l with closed := false }
  | .idle => l

/-- Signals only ever add to the count. -/
theorem trips_le_step (l : Latch) (i : Signal) :
    l.trips ≤ (step l i).trips := by
  cases i with
  | trip =>
      rw [step]
      split
      · exact Nat.le_refl _
      · exact Nat.le_succ _
  | reset | idle => exact Nat.le_refl _

theorem trips_le_run (l : Latch) (w : List Signal) :
    l.trips ≤ (run step l w).trips :=
  @run_inv _ _ step (l.trips ≤ ·.trips)
    (fun l' i h => Nat.le_trans h (trips_le_step l' i)) l (Nat.le_refl _) w

/-- An open latch stays untripped as long as nothing trips it. -/
theorem trips_open {n : Nat} {w : List Signal} :
    (run step ⟨false, n⟩ w).trips = n ↔ ¬ [.trip] <+ w := by
  rw [List.singleton_sublist]
  induction w with
  | nil => simp
  | cons i w ih =>
      rw [run_cons]
      cases i with
      | trip =>
          have hle := trips_le_run ⟨true, n + 1⟩ w
          constructor
          · intro h
            rw [show step ⟨false, n⟩ .trip = ⟨true, n + 1⟩ from rfl] at h
            rw [h] at hle
            exact absurd hle (Nat.not_succ_le_self n)
          · exact fun h => absurd List.mem_cons_self h
      | reset | idle => simpa [step] using ih

/-- A closed latch has to be reset before it can trip. -/
theorem trips_closed {n : Nat} {w : List Signal} :
    (run step ⟨true, n⟩ w).trips = n ↔ ¬ [.reset, .trip] <+ w := by
  induction w with
  | nil => simp
  | cons i w ih =>
      rw [run_cons, List.cons_sublist_cons']
      cases i with
      | trip | idle => simpa [step] using ih
      | reset =>
          have hsub : [Signal.reset, .trip] <+ w → [Signal.trip] <+ w :=
            (List.sublist_cons_self _ _).trans
          rw [show step ⟨true, n⟩ .reset = ⟨false, n⟩ from rfl, trips_open]
          simp only [true_and]
          exact not_congr ⟨Or.inr, fun h => h.elim hsub id⟩

/-- A latch trips more than once exactly when it is tripped, reset and
tripped again. -/
theorem trips_le_one {n : Nat} {w : List Signal} :
    (run step ⟨false, n⟩ w).trips ≤ n + 1 ↔
      ¬ [.trip, .reset, .trip] <+ w := by
  induction w with
  | nil => simp
  | cons i w ih =>
      rw [run_cons, List.cons_sublist_cons']
      cases i with
      | trip =>
          have hsub : [Signal.trip, .reset, .trip] <+ w →
              [Signal.reset, .trip] <+ w :=
            (List.sublist_cons_self _ _).trans
          have hle := trips_le_run ⟨true, n + 1⟩ w
          rw [show step ⟨false, n⟩ .trip = ⟨true, n + 1⟩ from rfl]
          simp only [true_and]
          calc (run step ⟨true, n + 1⟩ w).trips ≤ n + 1
              ↔ (run step ⟨true, n + 1⟩ w).trips = n + 1 :=
                ⟨fun h => Nat.le_antisymm h hle, Nat.le_of_eq⟩
            _ ↔ ¬ [.reset, .trip] <+ w := trips_closed
            _ ↔ _ := not_congr ⟨Or.inr, fun h => h.elim hsub id⟩
      | reset | idle => simpa [step] using ih

end Latch

end SmartHome.Machine
