import Mathlib.Logic.Function.Iterate
import SmartHome.Machine.Run

/-!
# A machine that comes to rest

A machine left to itself takes the same step again and again. If every step
lowers a rank for as long as it is above zero, and does not raise it again
from there, then after as many steps as the rank was at the start it is zero
and stays so: `settles`. What a rank of zero means is the reader's business;
often it is that nothing changes any more. The rank need not be a function of
the state: `counts_down` is about any relation that says of a state how many
steps are left.

A system may settle in stages, the next of which only begins when the one
before is over. `settles_then` puts two stages together, and the bounds on
them add up.
-/

namespace SmartHome.Machine

variable {σ ι : Type _} {step : σ → σ}

/-- What a step preserves, any number of steps preserves. -/
theorem iterate_inv {Inv : σ → Prop} (hinv : ∀ s, Inv s → Inv (step s))
    {s : σ} (hs : Inv s) (n : Nat) : Inv (step^[n] s) := by
  induction n generalizing s with
  | zero => exact hs
  | succ n ih => exact ih (hinv s hs)

/-- A count of the steps that are left, at most: each step is one less. -/
theorem counts_down {Left : σ → Nat → Prop}
    (hdown : ∀ s n, Left s n → Left (step s) (n - 1)) {s : σ} {n : Nat}
    (hs : Left s n) (k : Nat) : Left (step^[k] s) (n - k) := by
  induction k generalizing s n with
  | zero => exact hs
  | succ k ih =>
      have hrest := ih (hdown s n hs)
      rwa [Nat.sub_sub, Nat.add_comm] at hrest

/-- The rank runs down to zero and stays there. -/
theorem settles {Inv : σ → Prop} {rank : σ → Nat}
    (hinv : ∀ s, Inv s → Inv (step s))
    (hdown : ∀ s, Inv s → rank (step s) ≤ rank s - 1) {s : σ} (hs : Inv s)
    {n : Nat} (hn : rank s ≤ n) : rank (step^[n] s) = 0 := by
  have hcount := @counts_down _ step (fun s n => Inv s ∧ rank s ≤ n) ?_ s n
    ⟨hs, hn⟩ n
  · have hzero := hcount.2
    omega
  · intro s n h
    have hstep := hdown s h.1
    exact ⟨hinv s h.1, by omega⟩

/-- One stage after the other. -/
theorem settles_then {P Q : σ → Prop} {n m : Nat}
    (hfirst : ∀ s, P s → ∀ k, n ≤ k → Q (step^[k] s))
    {R : σ → Prop} (hsecond : ∀ s, Q s → ∀ k, m ≤ k → R (step^[k] s))
    {s : σ} (hs : P s) {k : Nat} (hk : n + m ≤ k) : R (step^[k] s) := by
  have hsplit : k = (k - n) + n := by omega
  rw [hsplit, Function.iterate_add_apply]
  exact hsecond _ (hfirst s hs n (Nat.le_refl n)) _ (by omega)

/-- The same input over and over. -/
theorem run_replicate (step : σ → ι → σ) (s : σ) (i : ι) (n : Nat) :
    run step s (List.replicate n i) = (fun s => step s i)^[n] s := by
  induction n generalizing s with
  | zero => rfl
  | succ n ih => exact ih (step s i)

end SmartHome.Machine
