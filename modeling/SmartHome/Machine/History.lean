import Mathlib.Data.List.Induction

/-!
# Facts about each entry of a record

A record is a list, oldest entry first. Most of what one wants to say about
a record relates an entry to what came before it: a reply follows a request,
no message is sent after an acknowledgement. `EachAfter P` says that `P`
holds of every entry and the entries ahead of it. Records grow at the far
end, so the lemma that carries the proofs is `eachAfter_concat`: a new entry
has to be checked against the whole record, and nothing else changes.
-/

namespace SmartHome.Machine

variable {α β : Type _}

/-- `P` relates every entry to the entries before it. -/
def EachAfter (P : List α → α → Prop) (record : List α) : Prop :=
  ∀ pre a post, record = pre ++ a :: post → P pre a

theorem eachAfter_nil (P : List α → α → Prop) : EachAfter P [] := by
  intro pre a post h
  cases pre <;> cases h

/-- A split of a record that just grew either names the new entry or splits
the record it grew from. -/
theorem split_concat {pre post record : List α} {a b : α}
    (h : record ++ [b] = pre ++ a :: post) :
    (record = pre ∧ b = a ∧ post = []) ∨
      ∃ post', post = post' ++ [b] ∧ record = pre ++ a :: post' := by
  rcases List.eq_nil_or_concat post with rfl | ⟨post', c, rfl⟩
  · left
    obtain ⟨h1, h2⟩ := List.append_inj' h rfl
    injection h2 with h2
    exact ⟨h1, h2, rfl⟩
  · right
    have h' : record ++ [b] = (pre ++ a :: post') ++ [c] := by
      rw [h, List.append_assoc, List.cons_append, List.concat_eq_append]
    obtain ⟨h1, h2⟩ := List.append_inj' h' rfl
    injection h2 with h2
    exact ⟨post', by rw [h2, List.concat_eq_append], h1⟩

theorem eachAfter_concat {P : List α → α → Prop} {record : List α} {a : α} :
    EachAfter P (record ++ [a]) ↔ EachAfter P record ∧ P record a := by
  constructor
  · intro h
    refine ⟨fun pre b post heq => ?_, h record a [] rfl⟩
    exact h pre b (post ++ [a])
      (by rw [heq, List.append_assoc, List.cons_append])
  · intro hboth pre b post heq
    obtain ⟨h, ha⟩ := hboth
    rcases split_concat heq with ⟨rfl, rfl, -⟩ | ⟨post', -, hrec⟩
    · exact ha
    · exact h pre b post' hrec

/-- The same seen from the oldest entry, which leaves a queue first. -/
theorem eachAfter_cons {P : List α → α → Prop} {record : List α} {a : α} :
    EachAfter P (a :: record) ↔
      P [] a ∧ EachAfter (fun pre => P (a :: pre)) record := by
  constructor
  · intro h
    refine ⟨h [] a record rfl, fun pre b post heq => ?_⟩
    exact h (a :: pre) b post (by rw [heq, List.cons_append])
  · intro hboth pre b post heq
    obtain ⟨ha, h⟩ := hboth
    cases pre with
    | nil =>
        obtain ⟨rfl, -⟩ := List.cons.inj heq
        exact ha
    | cons c pre =>
        obtain ⟨rfl, hrest⟩ := List.cons.inj heq
        exact h pre b post hrest

/-- What holds of each entry of a record holds of each entry of an earlier
state of it. -/
theorem EachAfter.of_append {P : List α → α → Prop} {older newer : List α}
    (h : EachAfter P (older ++ newer)) : EachAfter P older := by
  intro pre a post heq
  exact h pre a (post ++ newer)
    (by rw [heq, List.append_assoc, List.cons_append])

/-- Entries that may stand anywhere may be added to any record. -/
theorem EachAfter.append {P : List α → α → Prop} {older newer : List α}
    (h : EachAfter P older) (hnew : ∀ a ∈ newer, ∀ pre, P pre a) :
    EachAfter P (older ++ newer) := by
  induction newer generalizing older with
  | nil => rwa [List.append_nil]
  | cons a newer ih =>
      rw [List.append_cons]
      refine ih ?_ fun b hb => hnew b (List.mem_cons_of_mem a hb)
      exact eachAfter_concat.mpr ⟨h, hnew a List.mem_cons_self older⟩

/-- The entries of a mapped record, read back. -/
theorem EachAfter.of_map {f : α → β} {P : List β → β → Prop}
    {record : List α} (h : EachAfter P (record.map f)) :
    EachAfter (fun pre a => P (pre.map f) (f a)) record := by
  intro pre a post heq
  subst heq
  exact h (pre.map f) (f a) (post.map f)
    (by rw [List.map_append, List.map_cons])

/-! ## The word of a record

A reading of the entries, in which some have no letter, makes a word of a
record. It grows with the record, by a letter or not at all. -/

theorem word_concat_none {f : α → Option β} {record : List α} {a : α}
    (h : f a = none) :
    (record ++ [a]).filterMap f = record.filterMap f := by
  rw [List.filterMap_append, List.filterMap_cons_none h, List.filterMap_nil,
    List.append_nil]

theorem word_concat_some {f : α → Option β} {record : List α} {a : α} {b : β}
    (h : f a = some b) :
    (record ++ [a]).filterMap f = record.filterMap f ++ [b] := by
  rw [List.filterMap_append, List.filterMap_cons_some h, List.filterMap_nil]

theorem word_cons (f : α → Option β) (a : α) (record : List α) :
    (a :: record).filterMap f = (f a).toList ++ record.filterMap f := by
  cases h : f a with
  | none => rw [List.filterMap_cons_none h]; rfl
  | some b => rw [List.filterMap_cons_some h]; rfl

theorem lastLetter_concat (f : α → Option β) (record : List α) (a : α) :
    ((record ++ [a]).filterMap f).getLast? =
      (f a).or (record.filterMap f).getLast? := by
  cases h : f a with
  | none => rw [word_concat_none h, Option.none_or]
  | some b => rw [word_concat_some h, List.getLast?_concat, Option.some_or]

/-! ## The stretches of a record

`splitOnP` cuts a record at the entries of some kind. What is added to the
record lengthens the last stretch, or starts a new one. -/

theorem splitOnP_append (p : α → Bool) (record : List α) :
    ∃ earlier current, ∀ more, (∀ a ∈ more, p a = false) →
      (record ++ more).splitOnP p = earlier ++ [current ++ more] := by
  induction record using List.reverseRecOn with
  | nil =>
      exact ⟨[], [], fun more hmore => List.splitOnP_eq_singleton hmore⟩
  | append_singleton record b ih =>
      obtain ⟨earlier, current, h⟩ := ih
      cases hb : p b with
      | true =>
          refine ⟨record.splitOnP p, [], fun more hmore => ?_⟩
          rw [List.append_assoc, List.singleton_append,
            List.splitOnP_append_cons _ _ hb,
            List.splitOnP_eq_singleton hmore]
          rfl
      | false =>
          refine ⟨earlier, current ++ [b], fun more hmore => ?_⟩
          rw [List.append_assoc, List.append_assoc]
          refine h ([b] ++ more) fun a ha => ?_
          rcases List.mem_append.mp ha with ha | ha
          · rw [List.mem_singleton.mp ha]
            exact hb
          · exact hmore a ha

theorem splitOnP_concat {p : α → Bool} {record current : List α}
    {earlier : List (List α)} {a : α}
    (h : record.splitOnP p = earlier ++ [current]) (ha : p a = false) :
    (record ++ [a]).splitOnP p = earlier ++ [current ++ [a]] := by
  obtain ⟨earlier', current', hmore⟩ := splitOnP_append p record
  have hsame := hmore [] fun _ hb => absurd hb List.not_mem_nil
  rw [List.append_nil, List.append_nil, h] at hsame
  obtain ⟨hearlier, hcurrent⟩ := List.append_inj' hsame rfl
  rw [hearlier, List.singleton_inj.mp hcurrent]
  refine hmore [a] fun b hb => ?_
  rw [List.mem_singleton.mp hb]
  exact ha

theorem splitOnP_concat_cut {p : α → Bool} (record : List α) {a : α}
    (ha : p a = true) :
    (record ++ [a]).splitOnP p = record.splitOnP p ++ [[]] :=
  List.splitOnP_append_cons record [] ha

end SmartHome.Machine
