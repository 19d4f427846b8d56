import Mathlib.Data.List.Forall2

/-!
# Programs that may stop half-way

A program in `EStateM ε σ` changes a state as it goes along and may throw an
`ε` on the way, and what it has changed by then stays changed. So there are
two things to say about a run of it: whether it got to its end, which is
`Completes`, and what it left behind either way, which is `left`.

The loop over a list is where the two meet. An element that stops the body
stops the loop, and the elements after it are never looked at:
`completes_forM` says so for a body of which it is known, from the element
alone, whether it stops. `mapUntil` is that loop without a state, and
`run_forM_mapUntil` says when a loop comes to the same. `Yields` is for a
program that only looks something up, as far as anybody cares, and `Keeps` for
what no part of a program touches, however it ends.
-/

namespace SmartHome.Machine

section Program

variable {ε σ α β : Type _}

/-- Run from `s`, the program gets to its end. -/
def Completes (p : EStateM ε σ α) (s : σ) : Prop :=
  ∃ a s', p.run s = .ok a s'

/-- What the program leaves behind, whether or not it gets to its end. -/
def left (p : EStateM ε σ α) (s : σ) : σ :=
  match p.run s with
  | .ok _ s' | .error _ s' => s'

theorem completes_of_ok {p : EStateM ε σ α} {s s' : σ} {a : α}
    (h : p.run s = .ok a s') : Completes p s := ⟨a, s', h⟩

theorem not_completes_of_error {p : EStateM ε σ α} {s s' : σ} {e : ε}
    (h : p.run s = .error e s') : ¬ Completes p s := by
  intro hcompletes
  obtain ⟨a, t, hok⟩ := hcompletes
  rw [h] at hok
  cases hok

theorem left_of_ok {p : EStateM ε σ α} {s s' : σ} {a : α}
    (h : p.run s = .ok a s') : left p s = s' := by
  rw [left, h]

theorem left_of_error {p : EStateM ε σ α} {s s' : σ} {e : ε}
    (h : p.run s = .error e s') : left p s = s' := by
  rw [left, h]

@[simp] theorem completes_pure (a : α) (s : σ) :
    Completes (pure a : EStateM ε σ α) s := completes_of_ok rfl

@[simp] theorem completes_modify (g : σ → σ) (s : σ) :
    Completes (modify g : EStateM ε σ PUnit) s := completes_of_ok rfl

section Bind

variable {p : EStateM ε σ α} {f : α → EStateM ε σ β} {s s' : σ} {a : α}

theorem run_bind_of_ok (h : p.run s = .ok a s') :
    (p >>= f).run s = (f a).run s' := by
  rw [EStateM.run_bind, h]

theorem run_bind_of_error {e : ε} (h : p.run s = .error e s') :
    (p >>= f).run s = .error e s' := by
  rw [EStateM.run_bind, h]

theorem left_bind_of_ok (h : p.run s = .ok a s') :
    left (p >>= f) s = left (f a) s' := by
  rw [left, left, run_bind_of_ok h]

/-- Once the first part is known to complete, the rest decides. -/
theorem completes_bind_of_ok (h : p.run s = .ok a s') :
    Completes (p >>= f) s ↔ Completes (f a) s' := by
  rw [Completes, Completes, run_bind_of_ok h]

/-- A first part that completes decides nothing, if the rest does not look
at what it has done. -/
theorem completes_bind_iff {Q : Prop} (hp : Completes p s)
    (hf : ∀ a s', Completes (f a) s' ↔ Q) : Completes (p >>= f) s ↔ Q := by
  obtain ⟨a, s', h⟩ := hp
  rw [completes_bind_of_ok h, hf]

/-- Nor does a second part that always completes. -/
theorem completes_bind_of_forall (h : ∀ a s, Completes (f a) s) :
    Completes (p >>= f) s ↔ Completes p s := by
  cases hp : p.run s with
  | ok a s' =>
      rw [completes_bind_of_ok hp]
      exact iff_of_true (h a s') (completes_of_ok hp)
  | error e s' =>
      exact iff_of_false (not_completes_of_error (run_bind_of_error hp))
        (not_completes_of_error hp)

end Bind

theorem ok_bind (a : α) (f : α → Except ε β) :
    (Except.ok a >>= f) = f a := rfl

/-- Two fallible steps in a row have both come off. -/
theorem ok_of_bind_ok {r : Except ε α} {f : α → Except ε β} {b : β}
    (h : (r >>= f) = .ok b) : ∃ a, r = .ok a ∧ f a = .ok b := by
  cases r with
  | error e => cases h
  | ok a => exact ⟨a, rfl, h⟩

theorem isOk_iff {r : Except ε α} : r.isOk = true ↔ ∃ a, r = .ok a := by
  cases r with
  | error e => exact iff_of_false Bool.false_ne_true fun h => nomatch h
  | ok a => exact iff_of_true rfl ⟨a, rfl⟩

theorem isOk_bind {r : Except ε α} {f : α → Except ε β} :
    (r >>= f).isOk = true ↔ ∃ a, r = .ok a ∧ (f a).isOk = true := by
  cases r with
  | error e => exact iff_of_false Bool.false_ne_true fun h => nomatch h
  | ok a => exact ⟨fun h => ⟨a, rfl, h⟩, fun ⟨_, rfl, h⟩ => h⟩

theorem isOk_ite {b : Bool} {r : Except ε α} {a : α} :
    (if b = true then r else pure a).isOk = true ↔
      (b = true → r.isOk = true) := by
  cases b with
  | false => exact iff_of_true rfl fun h => absurd h Bool.false_ne_true
  | true => exact ⟨fun h _ => h, fun h => h rfl⟩

/-! ## Loops -/

section Loop

variable {f : α → EStateM ε σ PUnit}

/-- A loop completes if its body does on every element. -/
theorem completes_forM {Good : α → Prop}
    (hbody : ∀ a s, Completes (f a) s ↔ Good a) (as : List α) (s : σ) :
    Completes (forM as f) s ↔ ∀ a ∈ as, Good a := by
  induction as generalizing s with
  | nil => exact iff_of_true (completes_of_ok rfl) (by simp)
  | cons a as ih =>
      rw [List.forM_cons, List.forall_mem_cons, ← hbody a s]
      cases ha : (f a).run s with
      | ok u s' =>
          rw [completes_bind_of_ok ha, ih s']
          exact (and_iff_right (completes_of_ok ha)).symm
      | error e s' =>
          have hstop := not_completes_of_error ha
          exact iff_of_false (not_completes_of_error (run_bind_of_error ha))
            (fun h => hstop h.1)

/-- The results for the elements ahead of the first one that fails, and how
that one does. -/
def mapUntil (g : α → Except ε β) : List α → List β × Option ε
  | [] => ([], none)
  | a :: as =>
      match g a with
      | .ok b => (b :: (mapUntil g as).1, (mapUntil g as).2)
      | .error e => ([], some e)

/-- The program threw nothing, or this. -/
def stopped (r : EStateM.Result ε σ α) : Option ε :=
  match r with
  | .ok _ _ => none
  | .error e _ => some e

/-- If it is known of each element whether it fails, and what it comes to. -/
theorem mapUntil_eq_takeWhile {g : α → Except ε β} {good : α → Bool}
    {h : α → β} {as : List α}
    (hgood : ∀ a ∈ as, good a = true → g a = .ok (h a))
    (hbad : ∀ a ∈ as, good a = false → ∃ e, g a = .error e) :
    (mapUntil g as).1 = (as.takeWhile good).map h := by
  induction as with
  | nil => rfl
  | cons a as ih =>
      obtain ⟨hgood, hgoods⟩ := List.forall_mem_cons.mp hgood
      obtain ⟨hbad, hbads⟩ := List.forall_mem_cons.mp hbad
      rw [mapUntil, List.takeWhile_cons]
      cases ha : good a with
      | true =>
          rw [hgood ha, if_pos rfl, List.map_cons]
          dsimp only
          rw [ih hgoods hbads]
      | false =>
          obtain ⟨e, he⟩ := hbad ha
          rw [he, if_neg Bool.false_ne_true]
          rfl

/-- A loop whose body does no more, as far as `view` shows the state, than to
add a result, or to throw and add none. -/
theorem run_forM_mapUntil {view : σ → List β} {g : α → Except ε β}
    (hok : ∀ a s b, g a = .ok b →
      ∃ s', (f a).run s = .ok ⟨⟩ s' ∧ view s' = view s ++ [b])
    (herror : ∀ a s e, g a = .error e →
      ∃ s', (f a).run s = .error e s' ∧ view s' = view s)
    (as : List α) (s : σ) :
    view (left (forM as f) s) = view s ++ (mapUntil g as).1 ∧
      stopped ((forM as f).run s) = (mapUntil g as).2 := by
  induction as generalizing s with
  | nil => exact ⟨(List.append_nil _).symm, rfl⟩
  | cons a as ih =>
      rw [List.forM_cons, mapUntil]
      cases ha : g a with
      | ok b =>
          obtain ⟨s', hrun, hview⟩ := hok a s b ha
          obtain ⟨hleft, hstopped⟩ := ih s'
          rw [left_bind_of_ok hrun, run_bind_of_ok hrun, hleft, hview]
          exact ⟨List.append_assoc _ _ _, hstopped⟩
      | error e =>
          obtain ⟨s', hrun, hview⟩ := herror a s e ha
          rw [left_of_error (run_bind_of_error hrun), run_bind_of_error hrun,
            hview]
          exact ⟨(List.append_nil _).symm, rfl⟩

end Loop

/-! ## What a program comes to -/

section Yields

variable {τ : Type _} {view : σ → τ}

/-- The program comes to this result, or throws it, and leaves what `view`
shows of the state as it is. -/
def Yields (view : σ → τ) (p : EStateM ε σ α) (r : Except ε α) : Prop :=
  ∀ s, ∃ s', view s' = view s ∧
    p.run s =
      match r with
      | .ok a => .ok a s'
      | .error e => .error e s'

theorem yields_pure (a : α) :
    Yields view (pure a : EStateM ε σ α) (.ok a) :=
  fun s => ⟨s, rfl, rfl⟩

theorem Yields.bind {p : EStateM ε σ α} {r : Except ε α}
    {f : α → EStateM ε σ β} {g : α → Except ε β} (hp : Yields view p r)
    (hf : ∀ a, Yields view (f a) (g a)) : Yields view (p >>= f) (r >>= g) := by
  intro s
  obtain ⟨s', hview, hrun⟩ := hp s
  cases r with
  | error e => exact ⟨s', hview, run_bind_of_error hrun⟩
  | ok a =>
      obtain ⟨s'', hview', hrun'⟩ := hf a s'
      refine ⟨s'', hview'.trans hview, ?_⟩
      rw [run_bind_of_ok hrun, hrun']
      rfl

theorem yields_foldlM {f : β → α → EStateM ε σ β} {g : β → α → Except ε β}
    (hf : ∀ b a, Yields view (f b a) (g b a)) (as : List α) (b : β) :
    Yields view (as.foldlM f b) (as.foldlM g b) := by
  induction as generalizing b with
  | nil => exact yields_pure b
  | cons a as ih =>
      rw [List.foldlM_cons, List.foldlM_cons]
      exact (hf b a).bind fun b' => ih b'

end Yields

/-! ## Folds that may fail -/

section FoldlM

variable {g : β → α → Except ε β}

/-- A fold comes off if every step does, where the elements decide that. -/
theorem isOk_foldlM {Good : α → Prop}
    (hg : ∀ b a, (g b a).isOk = true ↔ Good a) (as : List α) (b : β) :
    (as.foldlM g b).isOk = true ↔ ∀ a ∈ as, Good a := by
  induction as generalizing b with
  | nil => exact iff_of_true rfl fun a ha => absurd ha List.not_mem_nil
  | cons a as ih =>
      rw [List.foldlM_cons, List.forall_mem_cons, ← hg b a]
      cases ha : g b a with
      | error e => exact iff_of_false Bool.false_ne_true fun h => nomatch h.1
      | ok b' => exact (ih b').trans (and_iff_right rfl).symm

/-- What each step keeps, seen beside a fold that cannot fail. -/
theorem foldlM_rel {γ δ : Type _} {R : β → γ → Prop} {S : α → δ → Prop}
    {h : γ → δ → γ}
    (hstep : ∀ {b c a d b'}, R b c → S a d → g b a = .ok b' → R b' (h c d))
    {as : List α} {ds : List δ} (hS : List.Forall₂ S as ds) {b b' : β} {c : γ}
    (hR : R b c) (hok : as.foldlM g b = .ok b') : R b' (ds.foldl h c) := by
  induction hS generalizing b c with
  | nil =>
      cases hok
      exact hR
  | cons hhead _ ih =>
      rw [List.foldlM_cons] at hok
      obtain ⟨b₁, hb₁, hok⟩ := ok_of_bind_ok hok
      exact ih (hstep hR hhead hb₁) hok

end FoldlM

/-! ## What a program keeps -/

/-- However it ends, the program leaves `P` as it is. -/
def Keeps (P : σ → Prop) (p : EStateM ε σ α) : Prop :=
  ∀ s, P s → P (left p s)

section Keeps

variable {P : σ → Prop}

theorem keeps_pure (a : α) : Keeps P (pure a : EStateM ε σ α) :=
  fun _ h => h

theorem keeps_throw (e : ε) : Keeps P (throw e : EStateM ε σ α) :=
  fun _ h => h

theorem keeps_modify {g : σ → σ} (h : ∀ s, P s → P (g s)) :
    Keeps P (modify g : EStateM ε σ PUnit) := h

theorem Keeps.bind {p : EStateM ε σ α} {f : α → EStateM ε σ β} (hp : Keeps P p)
    (hf : ∀ a, Keeps P (f a)) : Keeps P (p >>= f) := by
  intro s hs
  have hleft := hp s hs
  cases h : p.run s with
  | ok a s' =>
      rw [left_of_ok h] at hleft
      rw [left_bind_of_ok h]
      exact hf a s' hleft
  | error e s' =>
      rw [left_of_error h] at hleft
      rw [left_of_error (run_bind_of_error h)]
      exact hleft

theorem keeps_forM {f : α → EStateM ε σ PUnit} (hf : ∀ a, Keeps P (f a))
    (as : List α) : Keeps P (forM as f) := by
  induction as with
  | nil => exact keeps_pure _
  | cons a as ih =>
      rw [List.forM_cons]
      exact (hf a).bind fun _ => ih

theorem keeps_foldlM {f : β → α → EStateM ε σ β} (hf : ∀ b a, Keeps P (f b a))
    (as : List α) (b : β) : Keeps P (as.foldlM f b) := by
  induction as generalizing b with
  | nil => exact keeps_pure b
  | cons a as ih =>
      rw [List.foldlM_cons]
      exact (hf b a).bind fun b' => ih b'

end Keeps

end Program

end SmartHome.Machine
