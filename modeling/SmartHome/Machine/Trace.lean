import SmartHome.Machine.Run

/-!
# Two runs, seen through observations

An observer reads a value off the state after some of the steps; `trace` is
the list of what it reads over a run. Two theorems compare the traces of two
runs.

`trace_eq_of_simulation` runs two machines on the same inputs and carries a
relation between their states: if related states step to related states and
show the observer the same value, the observer cannot tell the runs apart.

`trace_eq_of_view` is the unwinding argument for non-interference. Some
inputs are hidden; a view of the state is left alone by hidden inputs,
determines the view after a visible one, and determines what is observed.
Then runs from states with the same view, over inputs that agree once the
hidden ones are erased, have the same trace.
-/

namespace SmartHome.Machine

variable {σ τ ι ω : Type _}

/-- What an observer reads over a run: `obs` is asked after every step, in
the state the step led to, and may decline. -/
def trace (step : σ → ι → σ) (obs : σ → ι → Option ω) : σ → List ι → List ω
  | _, [] => []
  | s, i :: is => (obs (step s i) i).toList ++ trace step obs (step s i) is

section Simulation

variable {step₁ : σ → ι → σ} {step₂ : τ → ι → τ}

theorem trace_eq_of_simulation {R : σ → τ → Prop} {obs₁ : σ → ι → Option ω}
    {obs₂ : τ → ι → Option ω}
    (hstep : ∀ s t i, R s t → R (step₁ s i) (step₂ t i))
    (hobs : ∀ s t i, R s t → obs₁ (step₁ s i) i = obs₂ (step₂ t i) i)
    {s : σ} {t : τ} (h : R s t) (inputs : List ι) :
    trace step₁ obs₁ s inputs = trace step₂ obs₂ t inputs := by
  induction inputs generalizing s t with
  | nil => rfl
  | cons i is ih => rw [trace, trace, hobs s t i h, ih (hstep s t i h)]

end Simulation

section View

variable {step : σ → ι → σ} {obs : σ → ι → Option ω} {visible : ι → Bool}
  {ν : Type _} {view : σ → ν}

/-- Erasing the hidden inputs of one of two runs changes nothing an observer
of the view can see. -/
theorem trace_filter_of_view
    (hhidden : ∀ s i, visible i = false →
      view (step s i) = view s ∧ obs (step s i) i = none)
    (hvisible : ∀ s t i, visible i = true → view s = view t →
      view (step s i) = view (step t i) ∧
        obs (step s i) i = obs (step t i) i)
    {s t : σ} (h : view s = view t) (inputs : List ι) :
    trace step obs s inputs = trace step obs t (inputs.filter visible) := by
  induction inputs generalizing s t with
  | nil => rfl
  | cons i is ih =>
      cases hi : visible i with
      | true =>
          obtain ⟨hv, ho⟩ := hvisible s t i hi h
          rw [List.filter_cons_of_pos hi, trace, trace, ho, ih hv]
      | false =>
          obtain ⟨hv, ho⟩ := hhidden s i hi
          rw [List.filter_cons_of_neg (by rw [hi]; decide), trace, ho,
            ih (hv.trans h)]
          rfl

/-- Unwinding: hidden inputs do not interfere with what the view shows. -/
theorem trace_eq_of_view
    (hhidden : ∀ s i, visible i = false →
      view (step s i) = view s ∧ obs (step s i) i = none)
    (hvisible : ∀ s t i, visible i = true → view s = view t →
      view (step s i) = view (step t i) ∧
        obs (step s i) i = obs (step t i) i)
    {s t : σ} (h : view s = view t) {is js : List ι}
    (hfilter : is.filter visible = js.filter visible) :
    trace step obs s is = trace step obs t js := by
  rw [trace_filter_of_view hhidden hvisible h is, hfilter,
    ← trace_filter_of_view hhidden hvisible rfl js]

end View

end SmartHome.Machine
