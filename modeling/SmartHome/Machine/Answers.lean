import SmartHome.Machine.Run

/-!
# A description that answers

What a component is for is often said by a machine with answers: a phase, the
letters that move it on, and what is to be said to each letter in each phase.
`answers` is what such a description says to a whole word.

A program keeps to it if what each entry of its record put out is the answer
to the entry's letter, in the phase that the record ahead of it leads to.
That is a fact about single entries, `Answered`, and can be kept step by
step; `Answered.segment` turns it into one about any stretch of the record.
-/

namespace SmartHome.Machine

variable {φ κ ω α : Type _} (next : φ → κ → φ) (answer : φ → κ → List ω)

/-- The answers to a word, begun in some phase. -/
def answers : φ → List κ → List ω
  | _, [] => []
  | p, k :: w => answer p k ++ answers (next p k) w

variable (letter : α → Option κ) (out : α → List ω) (p : φ)

/-- Each entry put out the answer to its letter, or nothing if it has none. -/
def Answered (record : List α) : Prop :=
  EachAfter (fun earlier a => out a =
    ((letter a).map (answer (run next p (earlier.filterMap letter)))).getD [])
    record

variable {next answer letter out p}

/-- A stretch of the record put out the answers to its own word. -/
theorem Answered.segment {pre mid post : List α}
    (h : Answered next answer letter out p (pre ++ mid ++ post)) :
    mid.flatMap out =
      answers next answer (run next p (pre.filterMap letter))
        (mid.filterMap letter) := by
  replace h : Answered next answer letter out p (pre ++ mid) := h.of_append
  induction mid generalizing pre with
  | nil => rfl
  | cons a mid ih =>
      have ha := h pre a mid rfl
      rw [List.append_cons] at h
      have hrest := ih h
      rw [List.flatMap_cons, ha, hrest]
      cases hk : letter a with
      | none =>
          rw [word_concat_none hk, List.filterMap_cons_none hk]
          rfl
      | some k =>
          rw [word_concat_some hk, List.filterMap_cons_some hk, run_concat]
          rfl

end SmartHome.Machine
