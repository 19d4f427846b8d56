/-!
# Inverter simulators: what the two pages share

`standard.html` and `henley.html` have the same data, up to the equipment
flags and one default, the same buttons, and the same lines for the battery.
They differ in what is wired to what, which their own files show. Powers are
in watts, and every number a page computes with is an integer: the slider
hands out multiples of ten, and all that is ever done to a number is to add,
subtract and replace it. The type of `cloudCover` says what the slider
hands out.
-/

namespace SmartHome.Inverter

def chargeRate : Int := 1
def housePowerConsumption : Int := 500
def evFastPowerConsumption : Int := 7000

/-- A position of `<input type="range" step="10" max="100" min="0">`. -/
structure CloudCover where
  value : Int
  nonneg : 0 ≤ value
  le_hundred : value ≤ 100
  step : 10 ∣ value
deriving DecidableEq, Repr

instance : OfNat CloudCover 0 := ⟨⟨0, by decide, by decide, by decide⟩⟩

/-- The slider `n` notches up from its left end. -/
def CloudCover.notch (n : Fin 11) : CloudCover :=
  ⟨10 * (n : Nat), by omega, by omega, Int.dvd_mul_right 10 _⟩

/-! ## The battery -/

@[ext] structure Battery where
  batteryPower : Int := 0
  batteryPercentage : Int := 100
deriving DecidableEq, Repr

namespace Battery

/-- A tick of charging or discharging. -/
def charge (b : Battery) : Battery :=
  if b.batteryPower > 0 then
    { b with batteryPercentage := b.batteryPercentage + chargeRate }
  else if b.batteryPower < 0 then
    { b with batteryPercentage := b.batteryPercentage - chargeRate }
  else b

/-- "Cannot charge any more!" and "Cannot discharge any more!". -/
def limit (b : Battery) : Battery :=
  if b.batteryPercentage > 100 then
    { batteryPower := 0, batteryPercentage := 100 }
  else if b.batteryPercentage < 0 then
    { batteryPower := 0, batteryPercentage := 0 }
  else b

/-- The new setting, from the power that was last measured. -/
def follow (measured : Int) (b : Battery) : Battery :=
  if measured > 0 then
    if b.batteryPercentage < 100 then
      { b with batteryPower := b.batteryPower + 10 }
    else { b with batteryPower := 0 }
  else if measured < 0 then
    if b.batteryPercentage > 0 then
      { b with batteryPower := b.batteryPower - 10 }
    else { b with batteryPower := 0 }
  else b

/-- The battery's part of a tick. -/
def regulate (measured : Int) (b : Battery) : Battery :=
  b.charge.limit.follow measured

end Battery

/-! ## The data and the buttons -/

structure Page extends Battery where
  isHouseTurnedOn : Bool
  isChargerTurnedOn : Bool := false
  isChargerEcoModeTurnedOn : Bool := false
  housePower : Int := 0
  evPower : Int := 0
  gridPower : Int := 0
  pvPower : Int := 0
  solarSystemPower : Int := 0
  cloudCover : CloudCover := 0
deriving DecidableEq, Repr

namespace Page

def toggleHouseConsumption (p : Page) : Page :=
  { p with isHouseTurnedOn := !p.isHouseTurnedOn }

def toggleChargerOnOff (p : Page) : Page :=
  { p with isChargerTurnedOn := !p.isChargerTurnedOn }

def toggleChargerMode (p : Page) : Page :=
  { p with isChargerEcoModeTurnedOn := !p.isChargerEcoModeTurnedOn }

end Page

/-- What happens on both pages whatever is fitted. -/
inductive Scene where
  | cloudCover (position : CloudCover)
  | toggleHouseConsumption
  /-- The interval timer calls `calculatePowerFlow`. -/
  | tick
deriving DecidableEq, Repr

end SmartHome.Inverter
