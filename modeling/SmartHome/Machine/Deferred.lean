import SmartHome.Machine.Run

/-!
# Callbacks that leave their work for later

A driver's callbacks run in the driver's own context. What such a callback
has to do to the rest of the program it therefore packs up and schedules, and
the event loop does it later, the oldest piece first. `callback` is what the
callback does at once, together with what it schedules, and `work` is what a
piece of work does to the state when its turn comes. In between there may be
any number of further callbacks.

Where the callbacks do nothing at once, and what they schedule does not hang
on what work has been done, none of that can be told from the result:
`settle_run` says that the state once all work is done is the same in every
interleaving, namely that of doing the work in the order it was scheduled.
Where a callback does something at once, it matters very much.
-/

namespace SmartHome.Machine

structure Deferred (σ κ : Type _) where
  state : σ
  /-- What is scheduled and not done, oldest first. -/
  pending : List κ := []

namespace Deferred

inductive Input (ι : Type _) where
  | callback (i : ι)
  /-- The event loop takes up the oldest piece of work, if there is one. -/
  | work
deriving DecidableEq, Repr

variable {σ ι κ : Type _}

section Machine

variable (callback : σ → ι → σ × List κ) (work : σ → κ → σ)

def step (d : Deferred σ κ) : Input ι → Deferred σ κ
  | .callback i =>
      { state := (callback d.state i).1
        pending := d.pending ++ (callback d.state i).2 }
  | .work =>
      match d.pending with
      | [] => d
      | k :: ks => { state := work d.state k, pending := ks }

/-- The state once all that is pending is done. -/
def settle (d : Deferred σ κ) : σ := d.pending.foldl work d.state

end Machine

def Input.callback? : Input ι → Option ι
  | .callback i => some i
  | .work => none

/-- The callbacks among the inputs. -/
def callbacks (inputs : List (Input ι)) : List ι :=
  inputs.filterMap Input.callback?

theorem callbacks_callback (i : ι) (inputs : List (Input ι)) :
    callbacks (.callback i :: inputs) = i :: callbacks inputs := rfl

theorem callbacks_work (inputs : List (Input ι)) :
    callbacks (.work :: inputs) = callbacks inputs := rfl

variable {callback : σ → ι → σ × List κ} {work : σ → κ → σ}
  {jobs : ι → List κ}

/-- Doing a piece of work is what settling would have done next. -/
theorem settle_work (d : Deferred σ κ) :
    (step callback work d .work).settle work = d.settle work := by
  rw [step]
  cases hpending : d.pending with
  | nil => rfl
  | cons k ks =>
      rw [settle, settle, hpending]
      rfl

theorem settle_callback {d : Deferred σ κ} {i : ι}
    (h : callback d.state i = (d.state, jobs i)) :
    (step callback work d (.callback i)).settle work =
      (jobs i).foldl work (d.settle work) := by
  rw [step, settle, h, List.foldl_append]
  rfl

/-- What every piece of work preserves, taking one up does. -/
theorem inv_work {Inv : σ → Prop} (hwork : ∀ s k, Inv s → Inv (work s k))
    {d : Deferred σ κ} (hd : Inv d.state) :
    Inv (step callback work d .work).state := by
  rw [step]
  cases d.pending with
  | nil => exact hd
  | cons k ks => exact hwork d.state k hd

/-- Callbacks that only schedule, and the same whatever has been done so
far, may be delayed as one likes. -/
theorem settle_run {Inv : σ → Prop}
    (hcallback : ∀ s i, Inv s → callback s i = (s, jobs i))
    (hwork : ∀ s k, Inv s → Inv (work s k)) {d : Deferred σ κ}
    (hd : Inv d.state) (inputs : List (Input ι)) :
    (run (step callback work) d inputs).settle work =
      ((callbacks inputs).flatMap jobs).foldl work (d.settle work) := by
  induction inputs generalizing d with
  | nil => rfl
  | cons input inputs ih =>
      rw [run_cons]
      cases input with
      | work =>
          rw [ih (inv_work hwork hd), settle_work, callbacks_work]
      | callback i =>
          have hi := hcallback d.state i hd
          have hstate :
              (step callback work d (.callback i)).state = d.state := by
            rw [step, hi]
          rw [ih (hstate ▸ hd), settle_callback hi, callbacks_callback,
            List.flatMap_cons, List.foldl_append]

/-! ## An account of the work -/

section Account

variable {ω : Type _} {Inv : σ → Prop} {Ok : κ → Prop} {done : σ → List ω}
  {out : κ → ω} {wanted : ι → List ω}

/-- The work that was done and the work that is pending are what the
callbacks scheduled, in their order. `Ok` is what is known of a piece of work
that a callback schedules. -/
theorem account
    (hcallback : ∀ s i, Inv s →
      Inv (callback s i).1 ∧ done (callback s i).1 = done s ∧
        (∀ k ∈ (callback s i).2, Ok k) ∧ (callback s i).2.map out = wanted i)
    (hwork : ∀ s k, Inv s → Ok k →
      Inv (work s k) ∧ done (work s k) = done s ++ [out k])
    {d : Deferred σ κ} (hinv : Inv d.state) (hok : ∀ k ∈ d.pending, Ok k)
    (inputs : List (Input ι)) :
    let d' := run (step callback work) d inputs
    Inv d'.state ∧ (∀ k ∈ d'.pending, Ok k) ∧
      done d'.state ++ d'.pending.map out =
        done d.state ++ d.pending.map out ++
          (callbacks inputs).flatMap wanted := by
  induction inputs generalizing d with
  | nil => exact ⟨hinv, hok, (List.append_nil _).symm⟩
  | cons input inputs ih =>
      rw [run_cons]
      cases input with
      | callback i =>
          obtain ⟨hinv', hdone, hks, hwanted⟩ := hcallback d.state i hinv
          have hpending : ∀ k ∈ (step callback work d (.callback i)).pending,
              Ok k := by
            intro k hk
            exact (List.mem_append.mp hk).elim (hok k) (hks k)
          obtain ⟨hinv'', hok', haccount⟩ := ih hinv' hpending
          refine ⟨hinv'', hok', haccount.trans ?_⟩
          simp only [step, hdone, List.map_append, hwanted,
            callbacks_callback, List.flatMap_cons, List.append_assoc]
      | work =>
          rw [callbacks_work]
          cases hpending : d.pending with
          | nil =>
              have hidle : step callback work d .work = d := by
                rw [step, hpending]
              rw [hidle, ← hpending]
              exact ih hinv hok
          | cons k ks =>
              rw [hpending] at hok
              obtain ⟨hk, hks⟩ := List.forall_mem_cons.mp hok
              obtain ⟨hinv', hdone⟩ := hwork d.state k hinv hk
              have hstep : step callback work d .work =
                  { state := work d.state k, pending := ks } := by
                rw [step, hpending]
              rw [hstep]
              obtain ⟨hinv'', hok', haccount⟩ :=
                ih (d := { state := work d.state k, pending := ks }) hinv' hks
              refine ⟨hinv'', hok', haccount.trans ?_⟩
              rw [hdone, List.map_cons, List.append_assoc (done d.state)]
              rfl

end Account

end Deferred

end SmartHome.Machine
