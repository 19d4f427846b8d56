import SmartHome.Machine.Run

/-!
# What the GO/STOP button and the speed slider are for

A clock that is going or stopped, and a rate. The button starts and stops
it, the slider sets the rate, and neither touches what the other does: a
rate set while the clock is stopped is the rate it will go at. `timers` is
how many timers should be alive, and how fast: one at the clock's rate while
it goes, none while it is stopped.
-/

namespace SmartHome.Spec

structure Clock where
  going : Bool := true
  rate : Nat := 100
deriving DecidableEq, Repr

inductive ClockInput where
  | button
  | slider (rate : Nat)
deriving DecidableEq, Repr

namespace Clock

def step (c : Clock) : ClockInput → Clock
  | .button => { c with going := !c.going }
  | .slider rate => { c with rate }

def timers (c : Clock) : List Nat := if c.going then [c.rate] else []

end Clock

end SmartHome.Spec
