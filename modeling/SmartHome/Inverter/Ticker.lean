import SmartHome.Browser.Intervals
import SmartHome.Machine.Run

/-!
# Inverter simulators: what makes them tick

The part of the two pages that owns the interval timer: `mounted`, the
GO/STOP button and the watcher of the speed slider. Both pages have the same
three functions. The handle is `this.interval`, which `data()` does not
declare; it is assigned when the page is mounted.
-/

namespace SmartHome.Inverter

open Browser

structure Ticker where
  isRunning : Bool := true
  speed : Nat := 100
  interval : Option Nat := none
  timers : Intervals := .empty

inductive TickerInput where
  | toggleRunning
  /-- The slider is moved, and the watcher runs on the new value. -/
  | speed (newValue : Nat)
deriving DecidableEq, Repr

namespace Ticker

/-- `this.interval = setInterval(this.calculatePowerFlow, delay)`. -/
def setInterval (t : Ticker) (delay : Nat) : Ticker :=
  { t with
    interval := some (t.timers.set delay).1
    timers := (t.timers.set delay).2 }

/-- `clearInterval(this.interval)`. -/
def clearInterval (t : Ticker) : Ticker :=
  { t with timers := t.timers.clear t.interval }

def mounted : Ticker :=
  let t : Ticker := {}
  t.setInterval t.speed

def toggleRunning (t : Ticker) : Ticker :=
  if t.isRunning then { t.clearInterval with isRunning := false }
  else setInterval { t with isRunning := true } t.speed

def watchSpeed (t : Ticker) (newValue : Nat) : Ticker :=
  t.clearInterval.setInterval newValue

def step (t : Ticker) : TickerInput → Ticker
  | .toggleRunning => t.toggleRunning
  | .speed newValue => watchSpeed { t with speed := newValue } newValue

/-- The page after it was mounted and the user did all this. -/
def after (inputs : List TickerInput) : Ticker :=
  Machine.run step mounted inputs

end Ticker

end SmartHome.Inverter
