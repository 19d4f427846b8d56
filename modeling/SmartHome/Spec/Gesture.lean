import Mathlib.Data.List.Induction
import SmartHome.Machine.History

/-!
# What a switch button is for

A press of the button is either short, and toggles the light, or long: after
a while the light is switched on, and from then on its level is stepped for
as long as the button is held. `step` is that description as a machine that
answers each letter with the commands it calls for, and refuses a letter
that has no business in the phase it is in. Nothing here knows about queues
or timers: a `trigger` is the moment a press becomes long, a `tick` is a
level step that is due.

`gesture_commands` and `commands_in_gesture` are what the description
amounts to: over any accepted sequence of letters, the commands between a
push and its release are one toggle, or one switching-on followed by level
steps, and there are no commands anywhere else.
-/

namespace SmartHome.Gesture

open Machine

inductive Letter where
  | push
  | release
  | trigger
  | tick
deriving DecidableEq, Repr

inductive Command where
  | toggle
  | on
  | off
  | moveToLevel
deriving DecidableEq, Repr

inductive Phase where
  | idle
  | pressed
  | dimming
deriving DecidableEq, Repr

def step : Phase → Letter → Option (Phase × List Command)
  | .idle, .push => some (.pressed, [])
  | .pressed, .trigger => some (.dimming, [.on])
  | .pressed, .release => some (.idle, [.toggle])
  | .dimming, .tick => some (.dimming, [.moveToLevel])
  | .dimming, .release => some (.idle, [])
  | _, _ => none

/-- The machine reads the letters from `p` to `q`, answering each with the
commands written beside it. -/
def Accepts : Phase → List (Letter × List Command) → Phase → Prop
  | p, [], q => p = q
  | p, (l, out) :: w, q => ∃ p', step p l = some (p', out) ∧ Accepts p' w q

theorem accepts_append {p q : Phase} {v w : List (Letter × List Command)} :
    Accepts p (v ++ w) q ↔ ∃ m, Accepts p v m ∧ Accepts m w q := by
  induction v generalizing p with
  | nil => exact ⟨fun h => ⟨p, rfl, h⟩, by rintro ⟨m, rfl, h⟩; exact h⟩
  | cons x v ih =>
      constructor
      · intro hsome
        obtain ⟨p', hs, h⟩ := hsome
        obtain ⟨m, hv, hw⟩ := ih.mp h
        exact ⟨m, ⟨p', hs, hv⟩, hw⟩
      · intro hsome
        obtain ⟨m, ⟨p', hs, hv⟩, hw⟩ := hsome
        exact ⟨p', hs, ih.mpr ⟨m, hv, hw⟩⟩

theorem accepts_concat {p q : Phase} {w : List (Letter × List Command)}
    {l : Letter} {out : List Command} :
    Accepts p (w ++ [(l, out)]) q ↔
      ∃ m, Accepts p w m ∧ step m l = some (q, out) := by
  rw [accepts_append]
  constructor
  · intro hsome
    obtain ⟨m, hw, q', hs, rfl⟩ := hsome
    exact ⟨m, hw, hs⟩
  · intro hsome
    obtain ⟨m, hw, hs⟩ := hsome
    exact ⟨m, hw, q, hs, rfl⟩

/-! ## Edges -/

def Letter.isEdge : Letter → Bool
  | .push => true
  | .release => true
  | .trigger => false
  | .tick => false

/-- The last push or release of a sequence. -/
def lastEdge (w : List (Letter × List Command)) : Option Letter :=
  ((w.map (·.1)).filter Letter.isEdge).getLast?

theorem lastEdge_concat (w : List (Letter × List Command)) (l : Letter)
    (out : List Command) :
    lastEdge (w ++ [(l, out)]) = if l.isEdge then some l else lastEdge w := by
  unfold lastEdge
  rw [List.map_append, List.filter_append, List.map_singleton]
  split
  · next h => rw [List.filter_cons_of_pos h, List.filter_nil,
      List.getLast?_append]; rfl
  · next h => rw [List.filter_cons_of_neg h, List.filter_nil, List.append_nil]

/-- The machine is out of its idle phase exactly between a push and the
release after it. -/
theorem phase_lastEdge {w : List (Letter × List Command)} {q : Phase}
    (h : Accepts .idle w q) : q ≠ .idle ↔ lastEdge w = some .push := by
  induction w using List.reverseRecOn generalizing q with
  | nil =>
      rw [← show Phase.idle = q from h]
      simp [lastEdge]
  | append_singleton w x ih =>
      obtain ⟨l, out⟩ := x
      obtain ⟨m, hw, hs⟩ := accepts_concat.mp h
      have hm := ih hw
      rw [lastEdge_concat]
      cases m with
      | idle => cases l <;> cases hs; simp [Letter.isEdge]
      | pressed | dimming =>
          have hpush := hm.mp (by decide)
          cases l <;> cases hs <;> simp [Letter.isEdge, hpush]

/-! ## The commands of a gesture -/

/-- The commands beside a sequence of letters, in order. -/
def commands (w : List (Letter × List Command)) : List Command :=
  w.flatMap (·.2)

theorem commands_append (v w : List (Letter × List Command)) :
    commands (v ++ w) = commands v ++ commands w := List.flatMap_append

/-- One gesture's commands: a short press toggles; a long press switches on
and then steps the level any number of times. -/
def IsGesture (cs : List Command) : Prop :=
  cs = [.toggle] ∨ ∃ n, cs = .on :: List.replicate n .moveToLevel

/-- Inside a gesture the commands so far are none, or those of a long press
so far. -/
theorem commands_held {w : List (Letter × List Command)} {q : Phase}
    (h : Accepts .pressed w q) (hedge : ∀ x ∈ w, x.1.isEdge = false) :
    (q = .pressed ∧ commands w = []) ∨
      (q = .dimming ∧
        ∃ n, commands w = .on :: List.replicate n .moveToLevel) := by
  induction w using List.reverseRecOn generalizing q with
  | nil => exact Or.inl ⟨h.symm, rfl⟩
  | append_singleton w x ih =>
      obtain ⟨l, out⟩ := x
      obtain ⟨m, hw, hs⟩ := accepts_concat.mp h
      have hl : l.isEdge = false := hedge (l, out) (by simp)
      have hcmd : commands (w ++ [(l, out)]) = commands w ++ out := by
        rw [commands_append]
        simp [commands]
      rcases ih hw fun x hx => hedge x (by simp [hx]) with
        ⟨rfl, hc⟩ | ⟨rfl, n, hc⟩
      · cases l <;> cases hs <;> cases hl
        exact Or.inr ⟨rfl, 0, by rw [hcmd, hc]; rfl⟩
      · cases l <;> cases hs <;> cases hl
        refine Or.inr ⟨rfl, n + 1, ?_⟩
        rw [hcmd, hc, List.replicate_succ', List.cons_append]

/-- Every push and the release that follows it enclose one gesture. -/
theorem gesture_commands {pre mid post : List (Letter × List Command)}
    {c₁ c₂ : List Command} {q : Phase}
    (h : Accepts .idle
      (pre ++ (.push, c₁) :: (mid ++ (.release, c₂) :: post)) q)
    (hedge : ∀ x ∈ mid, x.1.isEdge = false) :
    IsGesture (c₁ ++ commands mid ++ c₂) := by
  obtain ⟨m₁, -, m₂, hpush, hrest⟩ := accepts_append.mp h
  obtain ⟨m₃, hmid, m₄, hrelease, -⟩ := accepts_append.mp hrest
  cases m₁ <;> cases hpush
  rcases commands_held hmid hedge with ⟨rfl, hc⟩ | ⟨rfl, n, hc⟩
  · cases hrelease
    exact Or.inl (by rw [hc]; rfl)
  · cases hrelease
    exact Or.inr ⟨n, by rw [hc, List.nil_append, List.append_nil]⟩

/-- A letter is only answered with a command between a push and its
release. -/
theorem commands_in_gesture {w : List (Letter × List Command)} {q : Phase}
    (h : Accepts .idle w q) :
    EachAfter (fun pre x => x.2 ≠ [] → lastEdge pre = some .push) w := by
  intro pre x post heq hout
  obtain ⟨l, out⟩ := x
  subst heq
  obtain ⟨m, hpre, p', hs, -⟩ := accepts_append.mp h
  refine (phase_lastEdge hpre).mp ?_
  intro heq
  subst heq
  cases l <;> cases hs
  exact hout rfl

/-! ## The button

Pushes and releases of one button alternate. `alternates down es` follows
them from a button that is down or up, and fails on an edge that cannot
come next. -/

def alternates : Bool → List Letter → Option Bool
  | down, [] => some down
  | false, .push :: es => alternates true es
  | true, .release :: es => alternates false es
  | down, .trigger :: es => alternates down es
  | down, .tick :: es => alternates down es
  | _, _ => none

theorem alternates_append {down : Bool} {v w : List Letter} :
    alternates down (v ++ w) =
      (alternates down v).bind fun d => alternates d w := by
  induction v generalizing down with
  | nil => cases down <;> rfl
  | cons l v ih =>
      cases l <;> cases down <;>
        simp only [List.cons_append, alternates, ih, Option.bind_none]

end SmartHome.Gesture
