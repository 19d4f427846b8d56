import SmartHome.Inverter.Ticker
import SmartHome.Machine.Run
import SmartHome.Spec.Clock

/-!
# Who owns the timer

The watcher of the speed slider replaces the timer without asking whether
there is one to replace. While the page runs that is right. While it is
stopped it starts a timer that nothing stops: the next GO overwrites the
handle, and from then on the page ticks at two timers' rates
(`slider_while_stopped`).

`owned_iff` says that this is all that can go wrong. If the slider is only
moved while the page runs, then the live timers are the one the handle names
or none, and `refines_clock` adds that they go at the rate the user asked
for.
-/

namespace SmartHome.Inverter

open Browser Machine Spec

/-- While the page runs, the handle names the one live timer; while it is
stopped there is none. -/
structure Ticker.Owned (t : Ticker) : Prop where
  running : t.isRunning = true →
    ∃ id, t.interval = some id ∧ t.timers.live.map (·.id) = [id]
  stopped : t.isRunning = false → t.timers.live = []

def SlidesWhileRunning (t : Ticker) (i : TickerInput) : Prop :=
  ∀ newValue, i = .speed newValue → t.isRunning = true

/-! ## One step -/

structure Ticks (t : Ticker) (c : Clock) : Prop where
  owned : t.Owned
  going : t.isRunning = c.going
  rate : t.speed = c.rate
  timers : t.timers.live.map (·.delay) = c.timers

def TickerInput.toClock : TickerInput → ClockInput
  | .toggleRunning => .button
  | .speed newValue => .slider newValue

theorem live_setInterval {t : Ticker} (h : t.timers.live = [])
    (delay : Nat) : ∃ id, (t.setInterval delay).interval = some id ∧
      (t.setInterval delay).timers.live = [⟨id, delay⟩] := by
  refine ⟨_, rfl, ?_⟩
  rw [Ticker.setInterval, Intervals.live_set, h]
  rfl

theorem live_clearInterval {t : Ticker} (h : t.Owned) :
    t.clearInterval.timers.live = [] := by
  cases hrun : t.isRunning with
  | true =>
      obtain ⟨id, hid, hlive⟩ := h.running hrun
      obtain ⟨interval, hone, rfl⟩ := List.map_eq_singleton_iff.mp hlive
      rw [Ticker.clearInterval, hid]
      exact Intervals.live_clear_self hone
  | false =>
      rw [Ticker.clearInterval, Intervals.live_clear, h.stopped hrun]
      rfl

theorem ticks_setInterval {t : Ticker} {c : Clock}
    (hlive : t.timers.live = []) (hrun : t.isRunning = true)
    (hgoing : c.going = true) (hrate : t.speed = c.rate) :
    Ticks (t.setInterval t.speed) c := by
  obtain ⟨id, hid, hone⟩ := live_setInterval hlive t.speed
  refine ⟨⟨fun _ => ⟨id, hid, by rw [hone]; rfl⟩, fun hstop => ?_⟩,
    hrun.trans hgoing.symm, hrate, ?_⟩
  · exact absurd (hrun.symm.trans hstop) Bool.noConfusion
  · rw [hone, Clock.timers, if_pos hgoing, ← hrate]
    rfl

theorem Ticks.step {t : Ticker} {c : Clock} (h : Ticks t c) {i : TickerInput}
    (hi : SlidesWhileRunning t i) : Ticks (t.step i) (c.step i.toClock) := by
  have hclear := live_clearInterval h.owned
  cases i with
  | toggleRunning =>
      rw [Ticker.step, Ticker.toggleRunning]
      split
      next hrun =>
        have hgoing : (!c.going) = false := by rw [← h.going, hrun]; rfl
        refine ⟨⟨Bool.noConfusion, fun _ => hclear⟩, hgoing.symm, h.rate, ?_⟩
        rw [TickerInput.toClock, Clock.step, Clock.timers, hgoing, hclear]
        rfl
      next hrun =>
        have hstop : t.isRunning = false := eq_false_of_ne_true hrun
        have hgoing : (!c.going) = true := by rw [← h.going, hstop]; rfl
        exact @ticks_setInterval { t with isRunning := true } _
          (h.owned.stopped hstop) rfl hgoing h.rate
  | speed newValue =>
      have hrun := hi newValue rfl
      exact @ticks_setInterval { t.clearInterval with speed := newValue }
        { c with rate := newValue } hclear hrun (h.going ▸ hrun) rfl

/-- Moving the slider of a stopped page leaves a timer running. -/
theorem not_owned_of_slide {t : Ticker} (hstop : t.isRunning = false)
    (newValue : Nat) : ¬ (t.step (.speed newValue)).Owned := by
  intro h
  have hlive := h.stopped hstop
  rw [Ticker.step, Ticker.watchSpeed, Ticker.setInterval, Intervals.live_set]
    at hlive
  exact absurd hlive (by simp)

/-! ## The runs -/

theorem ticks_mounted : Ticks Ticker.mounted {} :=
  ticks_setInterval rfl rfl rfl rfl

/-- As long as the slider is only moved while the page runs, the page has
the timers of the clock it is meant to be. -/
theorem refines_clock {inputs : List TickerInput}
    (h : Along Ticker.step SlidesWhileRunning Ticker.mounted inputs) :
    Ticks (Ticker.after inputs)
      (run Clock.step {} (inputs.map TickerInput.toClock)) :=
  run_rel_along (fun _ _ _ ht hi => ht.step hi) ticks_mounted h

/-- In every state the page passes through the live timers are the one under
the handle or none, exactly when the slider is never moved while the page is
stopped. -/
theorem owned_iff (inputs : List TickerInput) :
    (∀ pre, pre <+: inputs → (Ticker.after pre).Owned) ↔
      Along Ticker.step SlidesWhileRunning Ticker.mounted inputs := by
  constructor
  · intro h
    refine along_iff.mpr ?_
    intro pre i post heq newValue heq'
    subst heq
    subst heq'
    refine eq_true_of_ne_false fun hstop => ?_
    have howned := h (pre ++ [.speed newValue]) ⟨post, by
      rw [List.append_assoc, List.singleton_append]⟩
    rw [Ticker.after, run_concat] at howned
    exact not_owned_of_slide hstop newValue howned
  · intro h pre hpre
    obtain ⟨post, rfl⟩ := hpre
    exact (refines_clock (along_append.mp h).1).owned

/-- STOP, a move of the slider, GO: two timers are alive, and the page has
the handle of one. -/
theorem slider_while_stopped :
    ¬ (Ticker.after [.toggleRunning, .speed 50]).Owned ∧
      (Ticker.after [.toggleRunning, .speed 50, .toggleRunning]).timers.live =
        [⟨1, 50⟩, ⟨2, 50⟩] ∧
      (Ticker.after [.toggleRunning, .speed 50, .toggleRunning]).interval =
        some 2 := by
  refine ⟨fun h => ?_, by decide, by decide⟩
  exact absurd (h.stopped rfl) (by decide)

end SmartHome.Inverter
