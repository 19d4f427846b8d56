import SmartHome.Machine.Run

/-!
# A machine that is watched

Some promises are about what a step meant when it was taken, which the state
no longer tells: whether the request that is answered now was a valid one
then. `watch` keeps a note beside the machine, updated from the state and the
input at each step and read by nobody. The machine underneath runs as it
would alone, and whatever is known of its own steps is known of the watched
ones.
-/

namespace SmartHome.Machine

variable {σ ι ν : Type _} (step : σ → ι → σ) (note : ν → σ → ι → ν)

def watch (x : σ × ν) (i : ι) : σ × ν := (step x.1 i, note x.2 x.1 i)

/-- The machine underneath does not notice. -/
theorem along_watch_fst {P : σ → ι → Prop} {x : σ × ν} {inputs : List ι} :
    Along (watch step note) (fun y i => P y.1 i) x inputs ↔
      Along step P x.1 inputs := by
  induction inputs generalizing x with
  | nil => exact Iff.rfl
  | cons i is ih => exact and_congr_right fun _ => @ih (watch step note x i)

end SmartHome.Machine
