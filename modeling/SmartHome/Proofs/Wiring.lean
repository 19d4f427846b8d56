import SmartHome.Machine.Trace
import SmartHome.Proofs.Tick

/-!
# What the wiring of the Henley page buys

On `henley.html` the inverter's clamp does not see the charger. So the
charger can be switched in any way at all and the panels, the battery and
the house show the same: its buttons are hidden inputs, and `solarView`, the
part of the state that they cannot reach, is enough to compute what is
shown. `charger_does_not_interfere` is that, for two runs.

Where no car is charging the two pages are the same page. Standard's meter
then measures what Henley's inverter clamp does, and with that the two ticks
compute the same numbers; `Matched` is the relation, and
`pages_agree_without_charging` runs them side by side.
-/

namespace SmartHome.Inverter

open Machine

/-! ## The charger and the battery of `henley.html` -/

namespace Henley

structure SolarView where
  cloudCover : CloudCover
  isHouseTurnedOn : Bool
  battery : Battery
  housePower : Int

/-- What the charger's buttons cannot reach. -/
def solarView (s : Henley) : SolarView where
  cloudCover := s.cloudCover
  isHouseTurnedOn := s.isHouseTurnedOn
  battery := s.toBattery
  housePower := s.housePower

structure Shown where
  pvPower : Int
  batteryPower : Int
  batteryPercentage : Int
  solarSystemPower : Int
  housePower : Int
deriving DecidableEq, Repr

/-- What the page shows after a tick. -/
def shown (s : Henley) : HenleyInput → Option Shown
  | .scene .tick => some
      { pvPower := s.pvPower
        batteryPower := s.batteryPower
        batteryPercentage := s.batteryPercentage
        solarSystemPower := s.solarSystemPower
        housePower := s.housePower }
  | _ => none

end Henley

def HenleyInput.isScene : HenleyInput → Bool
  | .scene _ => true
  | _ => false

namespace Henley

theorem step_hidden (s : Henley) {i : HenleyInput} (h : i.isScene = false) :
    (s.step i).solarView = s.solarView ∧ (s.step i).shown i = none := by
  cases i with
  | scene i => cases h
  | toggleChargerOnOff | toggleChargerMode => exact ⟨rfl, rfl⟩

theorem step_visible {s t : Henley} (h : s.solarView = t.solarView)
    {i : HenleyInput} (hi : i.isScene = true) :
    (s.step i).solarView = (t.step i).solarView ∧
      (s.step i).shown i = (t.step i).shown i := by
  injection h with hcloud hhouse hbattery hpower
  cases i with
  | toggleChargerOnOff | toggleChargerMode => cases hi
  | scene i =>
      cases i with
      | cloudCover position =>
          refine ⟨?_, rfl⟩
          show SolarView.mk position s.isHouseTurnedOn s.toBattery s.housePower
            = SolarView.mk position t.isHouseTurnedOn t.toBattery t.housePower
          rw [hhouse, hbattery, hpower]
      | toggleHouseConsumption =>
          refine ⟨?_, rfl⟩
          show SolarView.mk s.cloudCover (!s.isHouseTurnedOn) s.toBattery
              s.housePower = SolarView.mk t.cloudCover (!t.isHouseTurnedOn)
                t.toBattery t.housePower
          rw [hcloud, hhouse, hbattery, hpower]
      | tick =>
          have hb : s.nextBattery = t.nextBattery := by
            rw [nextBattery, hbattery, hpower, nextBattery]
          have hpv : s.nextPv = t.nextPv := by
            rw [nextPv, hcloud, nextPv]
          have hsolar : s.nextSolar = t.nextSolar := by
            rw [nextSolar, hpv, hb, nextSolar]
          have hnext : s.nextHouse = t.nextHouse := by
            rw [nextHouse, hhouse, hsolar, nextHouse]
          rw [step, step, calculatePowerFlow_eq, calculatePowerFlow_eq]
          simp only [solarView, shown, hcloud, hhouse, hb, hpv, hsolar, hnext,
            and_self]

/-- Two runs that differ in what is done to the charger, and in the state it
starts in, show the same panels, battery and house after every tick. -/
theorem charger_does_not_interfere (s t : Henley)
    (hcloud : s.cloudCover = t.cloudCover)
    (hhouse : s.isHouseTurnedOn = t.isHouseTurnedOn)
    (hbattery : s.batteryPower = t.batteryPower)
    (hpercentage : s.batteryPercentage = t.batteryPercentage)
    (hpower : s.housePower = t.housePower) (is js : List HenleyInput)
    (hsame : is.filter HenleyInput.isScene =
      js.filter HenleyInput.isScene) :
    trace step shown s is = trace step shown t js := by
  have hview : s.solarView = t.solarView := by
    have hsame : s.toBattery = t.toBattery := Battery.ext hbattery hpercentage
    rw [solarView, hcloud, hhouse, hsame, hpower, solarView]
  exact @trace_eq_of_view _ _ _ step shown HenleyInput.isScene _ solarView
    (fun s i => s.step_hidden) (fun s t i hi hv => step_visible hv hi) s t
    hview is js hsame

/-- One run charges the car flat out and the other does not charge it. -/
theorem charger_does_not_interfere_full :
    let s : Henley := {}
    let t : Henley :=
      { evPower := -7000, gridPower := -7000, isChargerTurnedOn := true }
    trace step shown s [.scene (.cloudCover (.notch 9)), .scene .tick,
        .toggleChargerMode, .scene .tick] =
      trace step shown t [.toggleChargerMode,
        .scene (.cloudCover (.notch 9)), .scene .tick, .scene .tick] :=
  charger_does_not_interfere _ _ rfl rfl rfl rfl rfl _ _ rfl

end Henley

/-! ## The two pages without a car -/

structure Readings where
  pvPower : Int
  batteryPower : Int
  batteryPercentage : Int
  solarSystemPower : Int
  gridPower : Int
  /-- What the inverter's clamp measures. -/
  inverterClamp : Int
deriving DecidableEq, Repr

namespace Standard

def sceneStep (s : Standard) (i : Scene) : Standard := s.step (.scene i)

def readings (s : Standard) : Scene → Option Readings
  | .tick => some
      { pvPower := s.pvPower
        batteryPower := s.batteryPower
        batteryPercentage := s.batteryPercentage
        solarSystemPower := s.solarSystemPower
        gridPower := s.gridPower
        inverterClamp := s.gridPower }
  | _ => none

end Standard

namespace Henley

def sceneStep (s : Henley) (i : Scene) : Henley := s.step (.scene i)

def readings (s : Henley) : Scene → Option Readings
  | .tick => some
      { pvPower := s.pvPower
        batteryPower := s.batteryPower
        batteryPercentage := s.batteryPercentage
        solarSystemPower := s.solarSystemPower
        gridPower := s.gridPower
        inverterClamp := s.housePower }
  | _ => none

end Henley

/-- The same scene on both pages: everything is fitted on the standard one,
and neither charges a car. -/
structure Matched (s : Standard) (t : Henley) : Prop where
  inverter : s.showInverter = true
  battery : s.showBattery = true
  inverterClamp : s.showInverterClamp = true
  charger : s.isChargerTurnedOn = false
  charger' : t.isChargerTurnedOn = false
  cloudCover : s.cloudCover = t.cloudCover
  house : s.isHouseTurnedOn = t.isHouseTurnedOn
  batteryPower : s.batteryPower = t.batteryPower
  batteryPercentage : s.batteryPercentage = t.batteryPercentage
  measured : s.gridPower = t.housePower
  ev : s.evPower = 0
  ev' : t.evPower = 0

namespace Matched

variable {s : Standard} {t : Henley}

theorem nextBattery (h : Matched s t) : s.nextBattery = t.nextBattery := by
  have hb : s.toBattery = t.toBattery :=
    Battery.ext h.batteryPower h.batteryPercentage
  rw [Standard.nextBattery, h.inverter, h.battery, h.inverterClamp, hb,
    h.measured]
  rfl

theorem nextPv (h : Matched s t) : s.nextPv = t.nextPv := by
  rw [Standard.nextPv, if_pos h.inverter, h.cloudCover, Henley.nextPv]

theorem nextSolar (h : Matched s t) : s.nextSolar = t.nextSolar := by
  rw [Standard.nextSolar, if_pos h.inverter, h.nextPv, h.nextBattery,
    Henley.nextSolar]

/-- Standard's meter shows what Henley's inverter clamp does. -/
theorem surplus (h : Matched s t) : s.surplus - s.evPower = t.nextHouse := by
  rw [Standard.surplus, h.nextSolar, Standard.nextHouse, h.house, h.ev,
    Henley.nextHouse]
  split <;> omega

theorem nextEv (h : Matched s t) (gridPower : Int) :
    s.nextEv gridPower = 0 := by
  rw [Standard.nextEv, if_neg (ne_true_of_eq_false h.charger)]

theorem nextEv' (h : Matched s t) : t.nextEv = 0 := by
  rw [Henley.nextEv, if_neg (ne_true_of_eq_false h.charger')]

theorem step (h : Matched s t) (i : Scene) :
    Matched (s.sceneStep i) (t.sceneStep i) := by
  cases i with
  | cloudCover position => exact { h with cloudCover := rfl }
  | toggleHouseConsumption =>
      exact { h with house := congrArg (!·) h.house }
  | tick =>
      rw [Standard.sceneStep, Standard.step, Standard.calculatePowerFlow_eq,
        Henley.sceneStep, Henley.step, Henley.calculatePowerFlow_eq]
      exact { h with
        batteryPower := congrArg (·.batteryPower) h.nextBattery
        batteryPercentage := congrArg (·.batteryPercentage) h.nextBattery
        measured := h.surplus
        ev := h.nextEv _
        ev' := h.nextEv' }

theorem readings (h : Matched s t) (i : Scene) :
    (s.sceneStep i).readings i = (t.sceneStep i).readings i := by
  cases i with
  | cloudCover | toggleHouseConsumption => rfl
  | tick =>
      rw [Standard.sceneStep, Standard.step, Standard.calculatePowerFlow_eq,
        Henley.sceneStep, Henley.step, Henley.calculatePowerFlow_eq]
      simp only [Standard.readings, Henley.readings, h.nextBattery, h.nextPv,
        h.nextSolar, h.surplus, h.nextEv', Int.add_zero]

end Matched

/-- On matched pages every sequence of cloud moves, house toggles and ticks
shows the same readings after every tick, and what Standard's meter measures
stays what Henley's inverter clamp does. -/
theorem pages_agree_without_charging {s : Standard} {t : Henley}
    (h : Matched s t) (inputs : List Scene) :
    trace Standard.sceneStep Standard.readings s inputs =
      trace Henley.sceneStep Henley.readings t inputs :=
  trace_eq_of_simulation (fun _ _ i h => h.step i)
    (fun _ _ i h => h.readings i) h inputs

/-- Both pages from a house that is on, through a cloud. -/
theorem pages_agree_without_charging_cloudy :
    let s : Standard :=
      { showInverter := true, showBattery := true, showInverterClamp := true }
    let t : Henley := { isHouseTurnedOn := true }
    let inputs : List Scene := [.tick, .cloudCover (.notch 8), .tick, .tick,
      .toggleHouseConsumption, .tick]
    trace Standard.sceneStep Standard.readings s inputs =
      trace Henley.sceneStep Henley.readings t inputs :=
  pages_agree_without_charging
    ⟨rfl, rfl, rfl, rfl, rfl, rfl, rfl, rfl, rfl, rfl, rfl, rfl⟩ _

end SmartHome.Inverter
