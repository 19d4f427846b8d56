import Mathlib.Algebra.BigOperators.Group.List.Basic
import Mathlib.Data.List.Dedup
import Mathlib.Data.List.Destutter
import Mathlib.Data.List.Sort

/-!
# Batches by key

Elements come one after another, each with a key and an amount, and are
added up in batches: as long as the key stays the same the batch stays open,
and when another key comes the batch is closed and the next one opened. The
element that brings the new key belongs to the new batch, and `batches` puts
it there. `lateBatches` notices the new key only when the element has been
added, and so leaves it in the old batch.

The two close equally often and under the same keys, and `late_eq_iff` says
how little it takes to tell them apart: they agree exactly if the elements
that open a batch carry nothing. Where the keys never go back the batches are
the sums by key, `batches_eq_sumsByKey`; and late batches that are the sums by
key give away that they do not, `keys_of_late_eq`.
-/

namespace SmartHome.Machine

variable {α K M : Type _} (key : α → K) (amount : α → M)

section Batches

variable [DecidableEq K] [AddMonoid M]

/-- The batches that are closed from now on, the open one having the key `k`
and the amount `m`. -/
def batches (k : K) (m : M) : List α → List (K × M)
  | [] => [(k, m)]
  | a :: as =>
    if k ≠ key a then (k, m) :: batches (key a) (amount a) as
    else batches k (m + amount a) as

/-- The same, the element that brings the new key closing the old batch. -/
def lateBatches (k : K) (m : M) : List α → List (K × M)
  | [] => [(k, m)]
  | a :: as =>
    if k ≠ key a then (k, m + amount a) :: lateBatches (key a) 0 as
    else lateBatches k (m + amount a) as

/-- Two elements in a row: the second carries nothing if it opens a batch. -/
def OpensEmpty (a b : α) : Prop := key a ≠ key b → amount b = 0

variable {key amount}

theorem batches_keys (k : K) (m : M) (as : List α) :
    (batches key amount k m as).map Prod.fst =
      (as.map key).destutter' (· ≠ ·) k := by
  induction as generalizing k m with
  | nil => rfl
  | cons a as ih =>
      rw [batches, List.map_cons, List.destutter'_cons]
      split
      next hnew => rw [List.map_cons, ih]
      next hsame => exact ih k _

theorem lateBatches_keys (k : K) (m : M) (as : List α) :
    (lateBatches key amount k m as).map Prod.fst =
      (as.map key).destutter' (· ≠ ·) k := by
  induction as generalizing k m with
  | nil => rfl
  | cons a as ih =>
      rw [lateBatches, List.map_cons, List.destutter'_cons]
      split
      next hnew => rw [List.map_cons, ih]
      next hsame => exact ih k _

theorem mem_keys_iff {k : K} {keys : List K} {d : K} :
    d ∈ keys.destutter' (· ≠ ·) k ↔ d = k ∨ d ∈ keys := by
  induction keys generalizing k with
  | nil => simp
  | cons b keys ih =>
      rw [List.destutter'_cons, List.mem_cons]
      split
      next hnew => rw [List.mem_cons, ih]
      next hsame =>
        rw [ih, not_not.mp hsame]
        exact or_self_left.symm

end Batches

/-! ## Late and in time -/

section Late

variable [DecidableEq K] [AddGroup M] {key amount}

/-- The induction is on the elements to come; what the open batch holds is
the same on both sides, and only the next opening can tell them apart. -/
theorem late_eq_iff (a : α) (m : M) (as : List α) :
    lateBatches key amount (key a) m as = batches key amount (key a) m as ↔
      (a :: as).IsChain (OpensEmpty key amount) := by
  induction as generalizing a m with
  | nil => exact iff_of_true rfl (List.isChain_singleton a)
  | cons b bs ih =>
      rw [lateBatches, batches, List.isChain_cons_cons]
      split
      next hnew =>
        rw [List.cons.injEq, Prod.mk.injEq, add_eq_left]
        refine ⟨?_, ?_⟩
        · rintro ⟨⟨-, hnothing⟩, hrest⟩
          rw [hnothing] at hrest
          exact ⟨fun _ => hnothing, (ih b 0).mp hrest⟩
        · rintro ⟨hopens, hrest⟩
          have hnothing := hopens hnew
          rw [hnothing]
          exact ⟨⟨rfl, rfl⟩, (ih b 0).mpr hrest⟩
      next hsame =>
        rw [not_not.mp hsame, ih b]
        exact ⟨fun h => ⟨fun hnew => absurd (not_not.mp hsame) hnew, h⟩,
          And.right⟩

end Late

/-! ## The sums by key -/

section Sums

variable [LinearOrder K] [AddCommMonoid M]

/-- What the elements with the key `d` carry. -/
def sumOf (as : List α) (d : K) : M :=
  ((as.filter (key · = d)).map amount).sum

/-- The keys in their order, each with what its elements carry. -/
def sumsByKey (as : List α) : List (K × M) :=
  ((as.map key).dedup.insertionSort (· ≤ ·)).map fun d =>
    (d, sumOf key amount as d)

variable {key amount}

theorem head?_destutter' (k : K) (keys : List K) :
    (keys.destutter' (· ≠ ·) k).head? = some k := by
  induction keys generalizing k with
  | nil => rfl
  | cons b keys ih =>
      rw [List.destutter'_cons]
      split
      next hnew => rfl
      next hsame => exact ih k

theorem keys_increase_iff (k : K) (keys : List K) :
    (keys.destutter' (· ≠ ·) k).Pairwise (· < ·) ↔
      (k :: keys).Pairwise (· ≤ ·) := by
  rw [← List.isChain_iff_pairwise, ← List.isChain_iff_pairwise]
  induction keys generalizing k with
  | nil =>
      exact iff_of_true (List.isChain_singleton k) (List.isChain_singleton k)
  | cons b keys ih =>
      rw [List.destutter'_cons, List.isChain_cons_cons]
      split
      next hnew =>
        rw [List.isChain_cons, head?_destutter', ih]
        refine and_congr_left fun _ => ?_
        simp only [Option.mem_some_iff, forall_eq']
        exact ⟨le_of_lt, fun hle => lt_of_le_of_ne hle hnew⟩
      next hsame =>
        have heq : k = b := not_not.mp hsame
        rw [ih, heq]
        exact (and_iff_right le_rfl).symm

theorem sumOf_cons (a : α) (as : List α) (d : K) :
    sumOf key amount (a :: as) d =
      (if key a = d then amount a else 0) + sumOf key amount as d := by
  rw [sumOf]
  split
  next hd => rw [List.filter_cons_of_pos (by simpa using hd)]; rfl
  next hd =>
    rw [List.filter_cons_of_neg (by simpa using hd), zero_add]
    rfl

theorem sumOf_eq_zero {as : List α} {d : K} (hd : ∀ a ∈ as, key a ≠ d) :
    sumOf key amount as d = 0 := by
  rw [sumOf, List.filter_eq_nil_iff.mpr (by simpa using hd)]
  rfl

theorem batches_amounts {k : K} {m : M} {as : List α}
    (hsorted : (k :: as.map key).Pairwise (· ≤ ·)) {p : K × M}
    (hp : p ∈ batches key amount k m as) :
    p.2 = (if p.1 = k then m else 0) + sumOf key amount as p.1 := by
  induction as generalizing k m with
  | nil =>
      rw [batches, List.mem_singleton] at hp
      rw [hp, if_pos rfl, sumOf_eq_zero (by simp), add_zero]
  | cons a as ih =>
      rw [List.map_cons, List.pairwise_cons] at hsorted
      obtain ⟨hle, hrest⟩ := hsorted
      rw [sumOf_cons]
      rw [batches] at hp
      split at hp
      next hnew =>
        have hlt : ∀ d ∈ key a :: as.map key, k < d := by
          intro d hd
          have hka := lt_of_le_of_ne (hle _ List.mem_cons_self) hnew
          rcases List.mem_cons.mp hd with rfl | hd
          · exact hka
          · exact lt_of_lt_of_le hka (List.rel_of_pairwise_cons hrest hd)
        rcases List.mem_cons.mp hp with rfl | hp
        · have hnone : ∀ b ∈ as, key b ≠ k := fun b hb =>
            (hlt _ (List.mem_cons_of_mem _ (List.mem_map_of_mem hb))).ne'
          rw [if_pos rfl, if_neg (Ne.symm hnew), sumOf_eq_zero hnone,
            add_zero, add_zero]
        · have hmem : p.1 ∈ key a :: as.map key := by
            rw [List.mem_cons, ← mem_keys_iff,
              ← batches_keys (key a) (amount a) as]
            exact List.mem_map_of_mem hp
          rw [ih hrest hp, if_neg (hlt _ hmem).ne', zero_add]
          simp only [eq_comm]
      next hsame =>
        have heq : k = key a := not_not.mp hsame
        rw [ih (heq ▸ hrest) hp, heq, ← add_assoc]
        congr 1
        by_cases hd : p.1 = key a
        · rw [if_pos hd, if_pos hd, if_pos hd.symm]
        · rw [if_neg hd, if_neg hd, if_neg (Ne.symm hd), add_zero]

variable (key amount) in
theorem sumsByKey_keys (as : List α) :
    (sumsByKey key amount as).map Prod.fst =
      (as.map key).dedup.insertionSort (· ≤ ·) := by
  rw [sumsByKey, List.map_map]
  exact List.map_id _

theorem sumsByKey_increase (as : List α) :
    ((sumsByKey key amount as).map Prod.fst).Pairwise (· < ·) := by
  rw [sumsByKey_keys]
  have hsorted := List.pairwise_insertionSort (· ≤ ·) (as.map key).dedup
  have hnodup : ((as.map key).dedup.insertionSort (· ≤ ·)).Nodup :=
    (List.perm_insertionSort _ _).nodup_iff.mpr (List.nodup_dedup _)
  exact (hsorted.and hnodup).imp fun h => lt_of_le_of_ne h.1 h.2

variable (key amount) in
theorem mem_sumsByKey_keys {as : List α} {d : K} :
    d ∈ (sumsByKey key amount as).map Prod.fst ↔ d ∈ as.map key := by
  rw [sumsByKey_keys, List.mem_insertionSort, List.mem_dedup]

/-- In the order of the keys the batches are the sums by key. -/
theorem batches_eq_sumsByKey {a : α} {as : List α}
    (hsorted : ((a :: as).map key).Pairwise (· ≤ ·)) :
    batches key amount (key a) (amount a) as =
      sumsByKey key amount (a :: as) := by
  have hkeys : (batches key amount (key a) (amount a) as).map Prod.fst =
      ((a :: as).map key).dedup.insertionSort (· ≤ ·) := by
    rw [← sumsByKey_keys key amount]
    refine List.Pairwise.eq_of_mem_iff ?_ (sumsByKey_increase _) ?_
    · rw [batches_keys]
      exact (keys_increase_iff _ _).mpr hsorted
    · intro d
      rw [mem_sumsByKey_keys, batches_keys, mem_keys_iff, List.map_cons,
        List.mem_cons]
  rw [sumsByKey, ← hkeys, List.map_map]
  refine (List.map_id _).symm.trans (List.map_congr_left ?_)
  intro p hp
  refine Prod.ext rfl ((batches_amounts hsorted hp).trans ?_)
  rw [Function.comp_apply, sumOf_cons]
  simp only [eq_comm]

end Sums

section LateSums

variable [LinearOrder K] [AddCommGroup M] {key amount}

/-- The keys alone tell where to start, and in which order. -/
theorem keys_of_late_eq {k : K} {m : M} {a : α} {as : List α}
    (hlate : lateBatches key amount k m (a :: as) =
      sumsByKey key amount (a :: as)) :
    key a = k ∧ ((a :: as).map key).Pairwise (· ≤ ·) := by
  have hkeys := congrArg (List.map Prod.fst) hlate
  rw [lateBatches_keys] at hkeys
  have hsorted : (k :: (a :: as).map key).Pairwise (· ≤ ·) := by
    rw [← keys_increase_iff, hkeys]
    exact sumsByKey_increase _
  have hk : k ∈ (a :: as).map key := by
    refine (mem_sumsByKey_keys key amount).mp ?_
    rw [← hkeys, mem_keys_iff]
    exact Or.inl rfl
  obtain ⟨hle, hrest⟩ := List.pairwise_cons.mp hsorted
  refine ⟨le_antisymm ?_ (hle _ List.mem_cons_self), hrest⟩
  rcases List.mem_cons.mp hk with hk | hk
  · exact hk.ge
  · exact List.rel_of_pairwise_cons hrest hk

/-- The late batches are the sums by key exactly if the first element has the
key they start with, the keys never go back, and what opens a batch carries
nothing. -/
theorem late_eq_sumsByKey_iff {k : K} (as : List α) :
    lateBatches key amount k 0 as = sumsByKey key amount as ↔
      as.head?.map key = some k ∧ (as.map key).Pairwise (· ≤ ·) ∧
        as.IsChain (OpensEmpty key amount) := by
  cases as with
  | nil => exact iff_of_false (by simp [lateBatches, sumsByKey]) (by simp)
  | cons a as =>
      have hfirst : lateBatches key amount (key a) 0 (a :: as) =
          lateBatches key amount (key a) (amount a) as := by
        rw [lateBatches, if_neg (not_not.mpr rfl), zero_add]
      rw [← late_eq_iff a (amount a) as]
      refine ⟨?_, ?_⟩
      · intro hlate
        obtain ⟨hk, hsorted⟩ := keys_of_late_eq hlate
        rw [← hk, hfirst, ← batches_eq_sumsByKey hsorted] at hlate
        exact ⟨congrArg some hk, hsorted, hlate⟩
      · rintro ⟨hk, hsorted, hopens⟩
        rw [List.head?_cons, Option.map_some, Option.some.injEq] at hk
        rw [← hk, hfirst, hopens]
        exact batches_eq_sumsByKey hsorted

end LateSums

end SmartHome.Machine
