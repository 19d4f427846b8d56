import SmartHome.Proofs.Ownership

/-!
# How many timers a page has

`owned_iff` says when the page keeps hold of its timer. This file says what
it has otherwise. A slider that is moved while the page is stopped starts a
timer, and moving it again replaces that timer; the next GO starts another
one, and the handle of the first is gone. So there is one timer for each GO
that came after the slider was moved, at the rate the slider had then, and it
is there for good: nothing but its handle could clear it, and no handle is
given out twice. `LeakyClock` is the clock that the page really is, and
`leaks_for_good` says so for every sequence of clicks and moves.
-/

namespace SmartHome.Inverter

open Browser Machine Spec

/-- A clock that loses the timer which a move of the slider has started while
it was stopped. -/
structure LeakyClock extends Clock where
  /-- The slider was moved since the clock was stopped. -/
  slid : Bool := false
  leaked : List Nat := []

namespace LeakyClock

def current (c : LeakyClock) : List Nat :=
  if c.going || c.slid then [c.rate] else []

def step (c : LeakyClock) : ClockInput → LeakyClock
  | .button =>
      if c.going then { c with going := false, slid := false }
      else
        { c with going := true, slid := false
                 leaked := c.leaked ++ c.current }
  | .slider rate => { c with rate, slid := c.slid || !c.going }

def timers (c : LeakyClock) : List Nat := c.leaked ++ c.current

end LeakyClock

/-- The live timers are those that the handle does not name, which are the
leaked ones, and after them the one that it names, if there is one. -/
structure Leaks (t : Ticker) (c : LeakyClock) : Prop where
  going : t.isRunning = c.going
  rate : t.speed = c.rate
  timers : ∃ lost held, t.timers.live = lost ++ held ∧
    (∀ i ∈ lost, some i.id ≠ t.interval) ∧
    (∀ i ∈ held, some i.id = t.interval) ∧
    lost.map (·.delay) = c.leaked ∧ held.map (·.delay) = c.current

section Step

variable {t : Ticker} {c : LeakyClock}

theorem live_clear_held {lost held : List Interval}
    (hlive : t.timers.live = lost ++ held)
    (hlost : ∀ i ∈ lost, some i.id ≠ t.interval)
    (hheld : ∀ i ∈ held, some i.id = t.interval) :
    t.clearInterval.timers.live = lost := by
  rw [Ticker.clearInterval, Intervals.live_clear, hlive, List.filter_append,
    List.filter_eq_self.mpr (by simpa using hlost),
    List.filter_eq_nil_iff.mpr (by simpa using hheld), List.append_nil]

theorem leaks_setInterval (hgoing : t.isRunning = c.going)
    (hrate : t.speed = c.rate)
    (hlost : t.timers.live.map (·.delay) = c.leaked)
    (hcurrent : c.current = [t.speed]) : Leaks (t.setInterval t.speed) c := by
  refine ⟨hgoing, hrate, t.timers.live, [⟨(t.timers.set t.speed).1, t.speed⟩],
    rfl, ?_, ?_, hlost, hcurrent.symm⟩
  · intro i hi heq
    have hfresh := t.timers.fresh i hi
    injection heq with hid
    exact absurd hid (Nat.ne_of_lt hfresh)
  · intro i hi
    rw [List.mem_singleton.mp hi]
    rfl

theorem Leaks.step (h : Leaks t c) (i : TickerInput) :
    Leaks (t.step i) (c.step i.toClock) := by
  obtain ⟨hgoing, hrate, lost, held, hlive, hlost, hheld, hleaked, hcurrent⟩ :=
    h
  have hclear := live_clear_held hlive hlost hheld
  cases i with
  | toggleRunning =>
      rw [Ticker.step, Ticker.toggleRunning, TickerInput.toClock,
        LeakyClock.step, hgoing]
      split
      next hrun =>
        refine ⟨rfl, hrate, lost, [], ?_, hlost, by simp, hleaked, rfl⟩
        rw [List.append_nil]
        exact hclear
      next hrun =>
        refine @leaks_setInterval { t with isRunning := true } _ rfl hrate ?_ ?_
        · dsimp only
          rw [hlive, List.map_append, hleaked, hcurrent]
        · rw [hrate]
          rfl
  | speed newValue =>
      refine @leaks_setInterval { t.clearInterval with speed := newValue } _
        hgoing rfl ?_ ?_
      · dsimp only
        rw [hclear]
        exact hleaked
      · rw [TickerInput.toClock, LeakyClock.step, LeakyClock.current]
        cases c.going <;> cases c.slid <;> rfl

/-- A timer that the handle does not name stays as it is. -/
theorem lost_step {timer : Interval} (h : timer ∈ t.timers.live)
    (hlost : some timer.id ≠ t.interval) (i : TickerInput) :
    timer ∈ (t.step i).timers.live ∧
      some timer.id ≠ (t.step i).interval := by
  have hkept : timer ∈ t.clearInterval.timers.live := by
    rw [Ticker.clearInterval, Intervals.live_clear]
    exact List.mem_filter.mpr ⟨h, by simpa using hlost⟩
  have hset (u : Ticker) (hu : timer ∈ u.timers.live) (delay : Nat) :
      timer ∈ (u.setInterval delay).timers.live ∧
        some timer.id ≠ (u.setInterval delay).interval := by
    refine ⟨List.mem_append_left _ hu, fun heq => ?_⟩
    injection heq with hid
    exact absurd hid (Nat.ne_of_lt (u.timers.fresh timer hu))
  cases i with
  | toggleRunning =>
      rw [Ticker.step, Ticker.toggleRunning]
      split
      next hrun => exact ⟨hkept, hlost⟩
      next hrun => exact hset { t with isRunning := true } h _
  | speed newValue =>
      exact hset { t.clearInterval with speed := newValue } hkept _

end Step

/-! ## The runs -/

/-- Whatever is clicked and moved, the page has the timers of the leaky
clock, and a timer that the handle no longer names is there for good. -/
theorem leaks_for_good (inputs : List TickerInput) :
    let t := Ticker.after inputs
    let c := run LeakyClock.step {} (inputs.map TickerInput.toClock)
    t.isRunning = c.going ∧ t.speed = c.rate ∧
      t.timers.live.map (·.delay) = c.timers ∧
      ∀ timer ∈ t.timers.live, some timer.id ≠ t.interval →
        ∀ more, timer ∈ (Ticker.after (inputs ++ more)).timers.live := by
  intro t c
  have hmounted : Leaks Ticker.mounted {} :=
    leaks_setInterval rfl rfl rfl rfl
  have hleaks : Leaks t c := run_rel_along
    (fun _ _ i h (_ : True) => h.step i) hmounted
    (Along.of_forall (fun _ _ _ => trivial) _)
  obtain ⟨hgoing, hrate, lost, held, hlive, -, -, hleaked, hcurrent⟩ := hleaks
  refine ⟨hgoing, hrate, ?_, fun timer htimer hlost more => ?_⟩
  · rw [hlive, List.map_append, hleaked, hcurrent]
    rfl
  · have hmore := @run_inv _ _ Ticker.step
      (fun s => timer ∈ s.timers.live ∧ some timer.id ≠ s.interval)
      (fun s i h => lost_step h.1 h.2 i) t ⟨htimer, hlost⟩ more
    rw [Ticker.after, run_append]
    exact hmore.1

end SmartHome.Inverter
