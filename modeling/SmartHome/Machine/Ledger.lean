import Mathlib.Algebra.Group.Basic
import Mathlib.Algebra.BigOperators.Group.List.Basic

/-!
# An account that is closed now and then

Amounts are posted to a running account. From time to time the account is
closed: what it holds is written down and it starts again at zero. Beside it
a grand total is kept, which is never reset. When the account is closed, and
how often, is nobody's business here; whatever the order, what was written
down and what is still running add up to the total, and the total to what
was posted.

`Accounts` is that statement. `Accounts.post` and `Accounts.close` are its
two steps, and `Accounts.closed` reads it off an account that was closed
last.
-/

namespace SmartHome.Machine

structure Ledger (M : Type _) where
  written : List M
  running : M
  total : M

namespace Ledger

variable {M : Type _} [AddMonoid M]

def opened : Ledger M := ⟨[], 0, 0⟩

def post (l : Ledger M) (m : M) : Ledger M :=
  { l with running := l.running + m, total := l.total + m }

def close (l : Ledger M) : Ledger M :=
  { l with written := l.written ++ [l.running], running := 0 }

/-- The account is in order with regard to what was posted. -/
structure Accounts (l : Ledger M) (postings : List M) : Prop where
  balance : l.written.sum + l.running = l.total
  total : l.total = postings.sum

theorem accounts_opened : (opened : Ledger M).Accounts [] :=
  ⟨add_zero _, rfl⟩

theorem Accounts.post {l : Ledger M} {postings : List M}
    (h : l.Accounts postings) (m : M) :
    (l.post m).Accounts (postings ++ [m]) := by
  refine ⟨?_, ?_⟩
  · show l.written.sum + (l.running + m) = l.total + m
    rw [← add_assoc, h.balance]
  · show l.total + m = (postings ++ [m]).sum
    rw [h.total, List.sum_append, List.sum_singleton]

theorem Accounts.close {l : Ledger M} {postings : List M}
    (h : l.Accounts postings) : l.close.Accounts postings := by
  refine ⟨?_, h.total⟩
  show (l.written ++ [l.running]).sum + 0 = l.total
  rw [List.sum_append, List.sum_singleton, add_zero, h.balance]

/-- Right after a closing everything posted is written down. -/
theorem Accounts.closed {l : Ledger M} {postings : List M}
    (h : l.Accounts postings) : l.close.written.sum = l.total :=
  calc l.close.written.sum
      = l.close.written.sum + l.close.running := (add_zero _).symm
    _ = l.total := h.close.balance

end Ledger

end SmartHome.Machine
