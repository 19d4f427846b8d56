import Mathlib.Data.List.Perm.Basic

/-!
# A buffer that things leave in any order

What is put into a buffer stays there until it is taken out, and nothing
says which of the things in it will be the next. All that can be said of two
states of it is then an account up to order: what went and what is still
there are what was there and what came. `Transfers` is that account, and the
lemmas are how it is kept: over the two ways a buffer changes, over several
changes (`trans`), and through a reading of the things in it
(`filterMap`). `Transfers.closes` carries an account over a whole history.
-/

namespace SmartHome.Machine

open scoped List

variable {α β : Type _}

/-- Between two states of a buffer `went` was taken out of it and `came` was
put into it. -/
def Transfers (buffer buffer' went came : List α) : Prop :=
  went ++ buffer' ~ buffer ++ came

namespace Transfers

variable {buffer buffer' buffer'' went went' came came' : List α}

theorem refl (buffer : List α) : Transfers buffer buffer [] [] := by
  rw [Transfers, List.append_nil]
  rfl

theorem put (buffer came : List α) :
    Transfers buffer (buffer ++ came) [] came := List.Perm.refl _

theorem take {a : α} {position : Nat} (h : buffer[position]? = some a) :
    Transfers buffer (buffer.eraseIdx position) [a] [] := by
  obtain ⟨hlt, rfl⟩ := List.getElem?_eq_some_iff.mp h
  rw [Transfers, List.append_nil]
  exact List.getElem_cons_eraseIdx_perm hlt

theorem trans (h : Transfers buffer buffer' went came)
    (h' : Transfers buffer' buffer'' went' came') :
    Transfers buffer buffer'' (went ++ went') (came ++ came') := by
  rw [Transfers, List.append_assoc, ← List.append_assoc buffer]
  calc went ++ (went' ++ buffer'')
      ~ went ++ (buffer' ++ came') := h'.append_left went
    _ = went ++ buffer' ++ came' := (List.append_assoc _ _ _).symm
    _ ~ buffer ++ came ++ came' := List.Perm.append_right came' h

theorem filterMap (f : α → Option β)
    (h : Transfers buffer buffer' went came) :
    Transfers (buffer.filterMap f) (buffer'.filterMap f) (went.filterMap f)
      (came.filterMap f) := by
  rw [Transfers, ← List.filterMap_append, ← List.filterMap_append]
  exact List.Perm.filterMap f h

theorem countP (p : α → Bool) (h : Transfers buffer buffer' went came) :
    went.countP p + buffer'.countP p = buffer.countP p + came.countP p := by
  rw [← List.countP_append, ← List.countP_append]
  exact List.Perm.countP_eq p h

/-- An account of all that ever went and came stays in order. -/
theorem closes (h : Transfers buffer buffer' went came) {out all : List α}
    (ho : out ++ buffer ~ all) : out ++ went ++ buffer' ~ all ++ came := by
  calc out ++ went ++ buffer'
      = out ++ (went ++ buffer') := List.append_assoc _ _ _
    _ ~ out ++ (buffer ++ came) := List.Perm.append_left out h
    _ = out ++ buffer ++ came := (List.append_assoc _ _ _).symm
    _ ~ all ++ came := ho.append_right came

end Transfers

end SmartHome.Machine
