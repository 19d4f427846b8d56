import SmartHome.Machine.History

/-!
# Runs of a machine

A machine is a step function over states and inputs, and a run is the fold
of it over a list of inputs. Every input is total: one the state does not
enable leaves it alone, so a run never has to be refused and a prefix of a
run is a run.

What is proved here is what every later argument over runs rests on.
`run_inv` packages the induction: what one step preserves, a run preserves,
and `run_rounds` the other one: what can be done once more can be done any
number of times.
`run_inv_along` is the same induction for an invariant that only survives
steps meeting a side condition; `Along` says that a whole run met it, each
input judged in the state that reads it, and `run_rel_along` carries a
relation to a second machine along such a run. `along_congr` says that two
conditions come to the same over a run if they do in each state that is
reached while the first of them is kept. `along_iff` is the bridge to the
other way of saying so, by splitting the inputs at the step in question.
`total` adds up what the steps of a run come to, and `run_total_le` and
`le_run_total` balance two such totals against a measure of the state.
-/

namespace SmartHome.Machine

section Run

variable {σ ι : Type _} (step : σ → ι → σ)

/-- The state a machine started in `s` is left in by the inputs. -/
def run (s : σ) (inputs : List ι) : σ := inputs.foldl step s

@[simp] theorem run_nil (s : σ) : run step s [] = s := rfl

@[simp] theorem run_cons (s : σ) (i : ι) (is : List ι) :
    run step s (i :: is) = run step (step s i) is := rfl

theorem run_append (s : σ) (is js : List ι) :
    run step s (is ++ js) = run step (run step s is) js :=
  List.foldl_append

theorem run_concat (s : σ) (is : List ι) (i : ι) :
    run step s (is ++ [i]) = step (run step s is) i := by
  rw [run_append]
  rfl

variable {step}

/-- What every step preserves, every run preserves. -/
theorem run_inv {Inv : σ → Prop} (hstep : ∀ s i, Inv s → Inv (step s i))
    {s : σ} (hs : Inv s) (inputs : List ι) : Inv (run step s inputs) := by
  induction inputs generalizing s with
  | nil => exact hs
  | cons i is ih => exact ih (hstep s i hs)

/-- What a round of inputs can always do once more can be done any number of
times. -/
theorem run_rounds {Inv : Nat → σ → Prop}
    (hround : ∀ n s, Inv n s → ∃ inputs, Inv (n + 1) (run step s inputs))
    {s : σ} (hs : Inv 0 s) (n : Nat) : ∃ inputs, Inv n (run step s inputs) := by
  induction n with
  | zero => exact ⟨[], hs⟩
  | succ n ih =>
      obtain ⟨is, his⟩ := ih
      obtain ⟨js, hjs⟩ := hround n _ his
      exact ⟨is ++ js, by rwa [run_append]⟩

end Run

section Along

variable {σ ι : Type _} (step : σ → ι → σ)

/-- Every input of the run meets `P` in the state that reads it. -/
def Along (P : σ → ι → Prop) : σ → List ι → Prop
  | _, [] => True
  | s, i :: is => P s i ∧ Along P (step s i) is

@[simp] theorem along_nil (P : σ → ι → Prop) (s : σ) : Along step P s [] :=
  trivial

@[simp] theorem along_cons (P : σ → ι → Prop) (s : σ) (i : ι) (is : List ι) :
    Along step P s (i :: is) ↔ P s i ∧ Along step P (step s i) is :=
  Iff.rfl

instance decidableAlong (P : σ → ι → Prop) [∀ s i, Decidable (P s i)] :
    ∀ (s : σ) (is : List ι), Decidable (Along step P s is)
  | _, [] => isTrue trivial
  | s, i :: is =>
      @instDecidableAnd _ _ (inferInstance : Decidable (P s i))
        (decidableAlong P (step s i) is)

variable {step}

theorem along_append {P : σ → ι → Prop} {s : σ} {is js : List ι} :
    Along step P s (is ++ js) ↔
      Along step P s is ∧ Along step P (run step s is) js := by
  induction is generalizing s with
  | nil => simp
  | cons i is ih =>
      rw [List.cons_append, along_cons, along_cons, ih, run_cons, and_assoc]

theorem Along.and {P Q : σ → ι → Prop} {s : σ} {inputs : List ι}
    (hP : Along step P s inputs) (hQ : Along step Q s inputs) :
    Along step (fun s i => P s i ∧ Q s i) s inputs := by
  induction inputs generalizing s with
  | nil => exact trivial
  | cons i is ih => exact ⟨⟨hP.1, hQ.1⟩, ih hP.2 hQ.2⟩

theorem Along.of_forall {P : σ → ι → Prop} {inputs : List ι}
    (h : ∀ i ∈ inputs, ∀ s, P s i) (s : σ) : Along step P s inputs := by
  induction inputs generalizing s with
  | nil => exact trivial
  | cons i is ih =>
      exact ⟨h i List.mem_cons_self s,
        ih (fun j hj => h j (List.mem_cons_of_mem i hj)) _⟩

/-- A condition holds along a run exactly when it holds of each input after
the inputs before it. -/
theorem along_iff {P : σ → ι → Prop} {s : σ} {inputs : List ι} :
    Along step P s inputs ↔
      EachAfter (fun pre i => P (run step s pre) i) inputs := by
  constructor
  · intro h pre i post heq
    subst heq
    exact (along_append.mp h).2.1
  · intro h
    induction inputs generalizing s with
    | nil => exact trivial
    | cons i is ih =>
        refine ⟨h [] i is rfl, ih fun pre j post heq => ?_⟩
        exact h (i :: pre) j post (by rw [heq, List.cons_append])

/-- What holds in every state of a run holds at its start and after each of
its steps. -/
theorem along_prefixes {Q : σ → Prop} {s : σ} {inputs : List ι} :
    (∀ pre, pre <+: inputs → Q (run step s pre)) ↔
      Q s ∧ Along step (fun s i => Q (step s i)) s inputs := by
  induction inputs generalizing s with
  | nil => simp [List.prefix_nil]
  | cons i is ih =>
      rw [along_cons, ← ih]
      constructor
      · intro h
        exact ⟨h [] List.nil_prefix, fun pre hpre =>
          h (i :: pre) (List.cons_prefix_cons.mpr ⟨rfl, hpre⟩)⟩
      · intro hboth pre hpre
        obtain ⟨hs, h⟩ := hboth
        cases pre with
        | nil => exact hs
        | cons j pre =>
            obtain ⟨rfl, hrest⟩ := List.cons_prefix_cons.mp hpre
            exact h pre hrest

/-- An invariant that survives the steps meeting `P` survives every run
that meets `P` all along. -/
theorem run_inv_along {P : σ → ι → Prop} {Inv : σ → Prop}
    (hstep : ∀ s i, Inv s → P s i → Inv (step s i)) {s : σ} (hs : Inv s)
    {inputs : List ι} (h : Along step P s inputs) :
    Inv (run step s inputs) := by
  induction inputs generalizing s with
  | nil => exact hs
  | cons i is ih => exact ih (hstep s i hs h.1) h.2

/-- What each step does in a state that meets the invariant and under a
condition that keeps it, is done all along a run that meets the condition. -/
theorem Along.of_inv {P Q : σ → ι → Prop} {Inv : σ → Prop}
    (hstep : ∀ s i, Inv s → P s i → Inv (step s i))
    (h : ∀ s i, Inv s → P s i → Q s i) {s : σ} (hs : Inv s)
    {inputs : List ι} (hP : Along step P s inputs) :
    Along step Q s inputs := by
  induction inputs generalizing s with
  | nil => exact trivial
  | cons i is ih => exact ⟨h s i hs hP.1, ih (hstep s i hs hP.1) hP.2⟩

/-- A count that no step lowers and that ends at zero was zero all along. -/
theorem along_of_run_eq_zero {f : σ → Nat}
    (hmono : ∀ s i, f s ≤ f (step s i)) {s : σ} {inputs : List ι}
    (h : f (run step s inputs) = 0) :
    Along step (fun s i => f (step s i) = 0) s inputs := by
  induction inputs generalizing s with
  | nil => exact trivial
  | cons i is ih =>
      have hle : f (step s i) ≤ f (run step (step s i) is) :=
        @run_inv _ _ step (fun s' => f (step s i) ≤ f s')
          (fun s' j hs' => Nat.le_trans hs' (hmono s' j)) _ (Nat.le_refl _) is
      rw [run_cons] at h
      exact ⟨Nat.le_zero.mp (h ▸ hle), ih h⟩

/-- Two conditions on a run that agree step by step, as far as an invariant
reaches which may need the first of them, agree over the run. -/
theorem along_congr {P Q : σ → ι → Prop} {Inv : σ → Prop}
    (hstep : ∀ s i, Inv s → P s i → Inv (step s i))
    (h : ∀ s i, Inv s → (P s i ↔ Q s i)) {s : σ} (hs : Inv s)
    (inputs : List ι) : Along step P s inputs ↔ Along step Q s inputs := by
  induction inputs generalizing s with
  | nil => exact Iff.rfl
  | cons i is ih =>
      rw [along_cons, along_cons, ← h s i hs]
      exact and_congr_right fun hp => ih (hstep s i hs hp)

/-- Two machines in step: a relation between their states that survives the
steps meeting `P`, the second machine reading its own version of the input,
survives the runs that meet `P` all along. -/
theorem run_rel_along {τ κ : Type _} {step' : τ → κ → τ} {f : ι → κ}
    {P : σ → ι → Prop} {R : σ → τ → Prop}
    (hstep : ∀ s t i, R s t → P s i → R (step s i) (step' t (f i)))
    {s : σ} {t : τ} (hs : R s t) {inputs : List ι}
    (h : Along step P s inputs) :
    R (run step s inputs) (run step' t (inputs.map f)) := by
  induction inputs generalizing s t with
  | nil => exact hs
  | cons i is ih => exact ih (hstep s t i hs h.1) h.2

end Along

section Total

variable {σ ι : Type _} (step : σ → ι → σ)

/-- What the steps of a run come to, each in the state that reads its
input. -/
def total (f : σ → ι → Nat) : σ → List ι → Nat
  | _, [] => 0
  | s, i :: is => f s i + total f (step s i) is

variable {step} {measure : σ → Nat} {spent gained : σ → ι → Nat}

theorem run_total_le
    (hstep : ∀ s i,
      measure (step s i) + spent s i ≤ measure s + gained s i)
    (s : σ) (inputs : List ι) :
    measure (run step s inputs) + total step spent s inputs ≤
      measure s + total step gained s inputs := by
  induction inputs generalizing s with
  | nil => exact Nat.le_refl _
  | cons i is ih =>
      have hone := hstep s i
      have hrest := ih (step s i)
      rw [run_cons, total, total]
      omega

theorem le_run_total
    (hstep : ∀ s i,
      measure s + gained s i ≤ measure (step s i) + spent s i)
    (s : σ) (inputs : List ι) :
    measure s + total step gained s inputs ≤
      measure (run step s inputs) + total step spent s inputs := by
  induction inputs generalizing s with
  | nil => exact Nat.le_refl _
  | cons i is ih =>
      have hone := hstep s i
      have hrest := ih (step s i)
      rw [run_cons, total, total]
      omega

end Total

end SmartHome.Machine
