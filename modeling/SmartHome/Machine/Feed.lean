import SmartHome.Machine.Run

/-!
# A machine that drives another

Two machines, of which the first now and then calls the second and never
looks back. A step of the first puts out a word of inputs for the second,
which takes them in before anything else happens; the second has inputs of
its own besides. `feed` is the two together.

Neither has to be looked at twice. The first runs as it would alone
(`run_feed_fst`), so that what is known of its runs, conditions along them
included (`along_feed`), is known of the pair. The second runs alone on the
word it is fed (`run_feed_snd`), so that its invariants are the pair's. What
ties them together is `run_feed_rel`: a relation between the two states that
each of the three kinds of step keeps.
-/

namespace SmartHome.Machine

variable {σ ι τ κ ω : Type _}

section Feed

variable (step : σ → ι → σ) (out : σ → ι → List κ) (step' : τ → κ → τ)
  (own : ω → κ)

def feed (x : σ × τ) : ι ⊕ ω → σ × τ
  | .inl i => (step x.1 i, run step' x.2 (out x.1 i))
  | .inr e => (x.1, step' x.2 (own e))

/-- The inputs of the first machine. -/
def driven (inputs : List (ι ⊕ ω)) : List ι := inputs.filterMap Sum.getLeft?

/-- All that the second machine takes in. -/
def fed : σ → List (ι ⊕ ω) → List κ
  | _, [] => []
  | s, .inl i :: is => out s i ++ fed (step s i) is
  | s, .inr e :: is => own e :: fed s is

end Feed

section Runs

variable {step : σ → ι → σ} {out : σ → ι → List κ} {step' : τ → κ → τ}
  {own : ω → κ}

theorem driven_inl (i : ι) (is : List (ι ⊕ ω)) :
    driven (.inl i :: is) = i :: driven is := rfl

theorem driven_inr (e : ω) (is : List (ι ⊕ ω)) :
    driven (.inr e :: is) = (driven is : List ι) := rfl

theorem run_feed_fst (x : σ × τ) (inputs : List (ι ⊕ ω)) :
    (run (feed step out step' own) x inputs).1 =
      run step x.1 (driven inputs) := by
  induction inputs generalizing x with
  | nil => rfl
  | cons i is ih =>
      rw [run_cons, ih]
      cases i with
      | inl i => rw [driven_inl, run_cons, feed]
      | inr e => rw [driven_inr, feed]

theorem run_feed_snd (x : σ × τ) (inputs : List (ι ⊕ ω)) :
    (run (feed step out step' own) x inputs).2 =
      run step' x.2 (fed step out own x.1 inputs) := by
  induction inputs generalizing x with
  | nil => rfl
  | cons i is ih =>
      rw [run_cons, ih]
      cases i with
      | inl i => rw [fed, run_append, feed]
      | inr e => rw [fed, run_cons, feed]

/-- What is asked of every input of the pair, as far as it is one of the
first machine's. -/
def OnDriven (P : σ → ι → Prop) (x : σ × τ) : ι ⊕ ω → Prop
  | .inl i => P x.1 i
  | .inr _ => True

theorem along_feed {P : σ → ι → Prop} {x : σ × τ} {inputs : List (ι ⊕ ω)} :
    Along (feed step out step' own) (OnDriven P) x inputs ↔
      Along step P x.1 (driven inputs) := by
  induction inputs generalizing x with
  | nil => exact Iff.rfl
  | cons i is ih =>
      rw [along_cons, ih]
      cases i with
      | inl i => exact Iff.rfl
      | inr e => exact and_iff_right trivial

/-- What every step of the second machine preserves, the pair does. -/
theorem run_feed_inv {Inv : τ → Prop} (hstep : ∀ t k, Inv t → Inv (step' t k))
    {x : σ × τ} (hx : Inv x.2) (inputs : List (ι ⊕ ω)) :
    Inv (run (feed step out step' own) x inputs).2 := by
  rw [run_feed_snd]
  exact run_inv hstep hx _

/-- A relation between the two states survives a run if the second machine
keeps up with what each step of the first puts out, and its own inputs do
not disturb it. -/
theorem run_feed_rel {P : σ → ι → Prop} {R : σ → τ → Prop}
    (hfirst : ∀ s t i, R s t → P s i →
      R (step s i) (run step' t (out s i)))
    (hown : ∀ s t e, R s t → R s (step' t (own e))) {x : σ × τ}
    (hx : R x.1 x.2) {inputs : List (ι ⊕ ω)}
    (h : Along step P x.1 (driven inputs)) :
    R (run (feed step out step' own) x inputs).1
      (run (feed step out step' own) x inputs).2 := by
  have hstep (y : σ × τ) (i : ι ⊕ ω) (hy : R y.1 y.2) (hi : OnDriven P y i) :
      R (feed step out step' own y i).1 (feed step out step' own y i).2 := by
    cases i with
    | inl i => exact hfirst y.1 y.2 i hy hi
    | inr e => exact hown y.1 y.2 e hy
  exact @run_inv_along _ _ _ _ (fun y => R y.1 y.2) hstep x hx inputs
    (along_feed.mpr h)

end Runs

end SmartHome.Machine
