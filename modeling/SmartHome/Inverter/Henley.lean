import SmartHome.Inverter.Page
import SmartHome.Machine.Run

/-!
# Inverter simulators: `henley.html`

Everything is fitted, and the wiring is different: the inverter's clamp
measures the house alone, and the charger hangs on the grid side of it. On
this page a power is positive when it flows towards the grid, so the charger
draws a negative one, and `housePower` is what the solar system and the
house together leave.
-/

namespace SmartHome.Inverter

structure Henley extends Page where
  isHouseTurnedOn := false
deriving DecidableEq, Repr

inductive HenleyInput where
  | scene (i : Scene)
  | toggleChargerOnOff
  | toggleChargerMode
deriving DecidableEq, Repr

namespace Henley

/-! ## `calculatePowerFlow` -/

/-- The panels and the battery. -/
def solarSystem (s : Henley) : Henley :=
  let s := { s with pvPower := 10 * s.cloudCover.value }
  -- What the inverter's clamp measured last is the house.
  let b := s.toBattery.regulate s.housePower
  { s with
    batteryPower := b.batteryPower
    batteryPercentage := b.batteryPercentage
    solarSystemPower := s.pvPower - b.batteryPower }

def house (s : Henley) : Henley :=
  { s with
    housePower :=
      if s.isHouseTurnedOn then s.solarSystemPower - housePowerConsumption
      else s.solarSystemPower }

/-- The charger goes by the grid power of the tick before. -/
def charger (s : Henley) : Henley :=
  if s.isChargerTurnedOn then
    if s.isChargerEcoModeTurnedOn then
      if s.gridPower > 0 then { s with evPower := s.evPower - 10 }
      else if s.gridPower < 0 then
        let s := { s with evPower := s.evPower + 10 }
        if s.evPower > 0 then { s with evPower := 0 } else s
      else s
    else { s with evPower := -evFastPowerConsumption }
  else { s with evPower := 0 }

def meter (s : Henley) : Henley :=
  { s with gridPower := s.housePower + s.evPower }

def calculatePowerFlow (s : Henley) : Henley :=
  s.solarSystem.house.charger.meter

/-! ## The page -/

def step (s : Henley) : HenleyInput → Henley
  | .scene (.cloudCover position) => { s with cloudCover := position }
  | .scene .toggleHouseConsumption =>
      { s with toPage := s.toPage.toggleHouseConsumption }
  | .scene .tick => s.calculatePowerFlow
  | .toggleChargerOnOff => { s with toPage := s.toPage.toggleChargerOnOff }
  | .toggleChargerMode => { s with toPage := s.toPage.toggleChargerMode }

/-- The page after it was loaded and all this happened. -/
def after (inputs : List HenleyInput) : Henley :=
  Machine.run step {} inputs

end Henley

end SmartHome.Inverter
