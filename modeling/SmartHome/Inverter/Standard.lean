import SmartHome.Inverter.Page
import SmartHome.Machine.Run

/-!
# Inverter simulators: `standard.html`

Both the inverter and the charger have their clamp on the meter tails, so
each sees what the other does. What is fitted is up to the checkboxes.
`calculatePowerFlow` is cut where the source has its comments: the solar
system, the meter, the charger.
-/

namespace SmartHome.Inverter

structure Standard extends Page where
  isHouseTurnedOn := true
  showInverter : Bool := false
  showBattery : Bool := false
  showCharger : Bool := false
  showChargerClamp : Bool := false
  showInverterClamp : Bool := false
deriving DecidableEq, Repr

inductive StandardInput where
  | scene (i : Scene)
  | toggleChargerOnOff
  | toggleChargerMode
  /-- The checkboxes. The first one is watched. -/
  | toggleInverter
  | toggleBattery
  | toggleInverterClamp
  | toggleEVCharger
  | toggleChargerClamp
deriving DecidableEq, Repr

namespace Standard

/-- The watcher; `showSun`, which it also sets, is not a property of the
page. -/
def watchShowInverter (s : Standard) (newValue : Bool) : Standard :=
  if newValue then s else { s with showBattery := false, cloudCover := 0 }

def toggleInverter (s : Standard) : Standard :=
  watchShowInverter { s with showInverter := !s.showInverter } !s.showInverter

/-! ## `calculatePowerFlow` -/

/-- The panels and, where all of it is fitted, the battery. -/
def solarSystem (s : Standard) : Standard :=
  if s.showInverter then
    let s := { s with pvPower := 10 * s.cloudCover.value }
    if s.showBattery && s.showInverterClamp then
      -- The previous grid power is what the inverter's clamp has measured.
      let b := s.toBattery.regulate s.gridPower
      { s with
        batteryPower := b.batteryPower
        batteryPercentage := b.batteryPercentage
        solarSystemPower := s.pvPower - b.batteryPower }
    else { s with batteryPower := 0, solarSystemPower := s.pvPower }
  else { s with pvPower := 0, solarSystemPower := 0 }

/-- The house, and what is left at the meter. -/
def meter (s : Standard) : Standard :=
  let housePower := if s.isHouseTurnedOn then housePowerConsumption else 0
  { s with
    housePower
    gridPower := s.solarSystemPower - housePower - s.evPower }

def charger (s : Standard) : Standard :=
  if s.isChargerTurnedOn then
    if s.isChargerEcoModeTurnedOn then
      if s.showChargerClamp then
        if s.gridPower > 0 then { s with evPower := s.evPower + 10 }
        else if s.gridPower < 0 then
          let s := { s with evPower := s.evPower - 10 }
          if s.evPower < 0 then { s with evPower := 0 } else s
        else s
      else { s with evPower := 0 }
    else { s with evPower := evFastPowerConsumption }
  else { s with evPower := 0 }

def calculatePowerFlow (s : Standard) : Standard :=
  s.solarSystem.meter.charger

/-! ## The page -/

def step (s : Standard) : StandardInput → Standard
  | .scene (.cloudCover position) => { s with cloudCover := position }
  | .scene .toggleHouseConsumption =>
      { s with toPage := s.toPage.toggleHouseConsumption }
  | .scene .tick => s.calculatePowerFlow
  | .toggleChargerOnOff => { s with toPage := s.toPage.toggleChargerOnOff }
  | .toggleChargerMode => { s with toPage := s.toPage.toggleChargerMode }
  | .toggleInverter => s.toggleInverter
  | .toggleBattery => { s with showBattery := !s.showBattery }
  | .toggleInverterClamp =>
      { s with showInverterClamp := !s.showInverterClamp }
  | .toggleEVCharger => { s with showCharger := !s.showCharger }
  | .toggleChargerClamp => { s with showChargerClamp := !s.showChargerClamp }

/-- The page shows this control: the `v-if` around it holds. -/
def offers (s : Standard) : StandardInput → Bool
  | .toggleBattery | .toggleInverterClamp => s.showInverter
  | .toggleChargerOnOff | .toggleChargerMode => s.showCharger
  | _ => true

/-- The user only does what the page offers. -/
def Offered (s : Standard) (i : StandardInput) : Prop := s.offers i = true

instance : DecidableRel Offered := fun _ _ =>
  inferInstanceAs (Decidable (_ = true))

/-- The page after it was loaded and all this happened. -/
def after (inputs : List StandardInput) : Standard :=
  Machine.run step {} inputs

end Standard

end SmartHome.Inverter
