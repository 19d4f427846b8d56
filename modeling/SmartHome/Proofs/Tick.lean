import SmartHome.Inverter.Henley
import SmartHome.Inverter.Standard

/-!
# What a tick does

`calculatePowerFlow` assigns six of the page's numbers, and every one of them
is a function of the state it found. These are the functions, and
`calculatePowerFlow_eq` says for either page that they are all there is to a
tick: the proofs about the pages start from there and not from the branches
of the source. What a tick makes of the battery depends on the battery and on
the measured power alone; `regulate_power` and `regulate_percentage` are the
closed form of it.
-/

namespace SmartHome.Inverter

namespace Battery

/-- The percentage that the power flowing now leads to. It may be one past
either end. -/
def level (b : Battery) : Int := b.batteryPercentage + b.batteryPower.sign

/-- The power flowing now, unless the battery has run past an end with it. -/
def carried (b : Battery) : Int :=
  if 0 ≤ b.level ∧ b.level ≤ 100 then b.batteryPower else 0

/-- What the battery takes next: ten more or ten less, whichever way the
measured power points, and nothing once it is at that end. -/
def demand (measured : Int) (b : Battery) : Int :=
  if measured > 0 then if b.level < 100 then b.carried + 10 else 0
  else if measured < 0 then if b.level > 0 then b.carried - 10 else 0
  else b.carried

theorem level_cases (b : Battery) :
    (0 < b.batteryPower ∧ b.level = b.batteryPercentage + 1) ∨
      (b.batteryPower < 0 ∧ b.level = b.batteryPercentage - 1) ∨
      (b.batteryPower = 0 ∧ b.level = b.batteryPercentage) := by
  unfold level
  rcases Int.lt_trichotomy b.batteryPower 0 with h | h | h
  · rw [Int.sign_eq_neg_one_of_neg h]
    exact Or.inr (Or.inl ⟨h, rfl⟩)
  · rw [h]
    exact Or.inr (Or.inr ⟨rfl, Int.add_zero _⟩)
  · rw [Int.sign_eq_one_of_pos h]
    exact Or.inl ⟨h, rfl⟩

theorem carried_or_zero (b : Battery) :
    b.carried = b.batteryPower ∨ b.carried = 0 := by
  unfold carried
  split
  · exact Or.inl rfl
  · exact Or.inr rfl

theorem charge_eq (b : Battery) :
    b.charge = { b with batteryPercentage := b.level } := by
  unfold charge level chargeRate
  split
  next h => rw [Int.sign_eq_one_of_pos h]
  next hpos =>
    split
    next h =>
      rw [Int.sign_eq_neg_one_of_neg h]
      rfl
    next hneg =>
      have hzero : b.batteryPower.sign = 0 :=
        Int.sign_eq_zero_iff_zero.mpr (by omega)
      rw [hzero, Int.add_zero]

theorem charge_limit (b : Battery) : b.charge.limit =
    { batteryPower := b.carried
      batteryPercentage := max 0 (min 100 b.level) } := by
  rw [charge_eq, limit, carried]
  dsimp only
  split
  next h =>
    rw [if_neg (by omega), Int.min_eq_left (by omega)]
    rfl
  next hle =>
    rw [Int.min_eq_right (by omega)]
    split
    next h => rw [if_neg (by omega), Int.max_eq_left (by omega)]
    next hge => rw [if_pos ⟨by omega, by omega⟩, Int.max_eq_right (by omega)]

theorem regulate_percentage (measured : Int) (b : Battery) :
    (b.regulate measured).batteryPercentage = max 0 (min 100 b.level) := by
  rw [regulate, charge_limit, follow]
  split
  · split <;> rfl
  · split
    · split <;> rfl
    · rfl

theorem regulate_power (measured : Int) (b : Battery) :
    (b.regulate measured).batteryPower = b.demand measured := by
  have hfull : max 0 (min 100 b.level) < 100 ↔ b.level < 100 := by omega
  have hempty : max 0 (min 100 b.level) > 0 ↔ b.level > 0 := by omega
  rw [regulate, charge_limit, follow, demand]
  simp only [hfull, hempty]
  split
  · split <;> rfl
  · split
    · split <;> rfl
    · rfl

end Battery

namespace Standard

/-- The battery as the tick leaves it. -/
def nextBattery (s : Standard) : Battery :=
  if s.showInverter then
    if s.showBattery && s.showInverterClamp then
      s.toBattery.regulate s.gridPower
    else { s.toBattery with batteryPower := 0 }
  else s.toBattery

def nextPv (s : Standard) : Int :=
  if s.showInverter then 10 * s.cloudCover.value else 0

/-- What the solar system gives: the panels, less what goes into the
battery. -/
def nextSolar (s : Standard) : Int :=
  if s.showInverter then s.nextPv - s.nextBattery.batteryPower else 0

def nextHouse (s : Standard) : Int :=
  if s.isHouseTurnedOn then housePowerConsumption else 0

/-- What the solar system and the house leave for the charger. -/
def surplus (s : Standard) : Int := s.nextSolar - s.nextHouse

/-- What the charger draws once the meter shows `gridPower`. -/
def nextEv (s : Standard) (gridPower : Int) : Int :=
  if s.isChargerTurnedOn then
    if s.isChargerEcoModeTurnedOn then
      if s.showChargerClamp then
        if gridPower > 0 then s.evPower + 10
        else if gridPower < 0 then max 0 (s.evPower - 10)
        else s.evPower
      else 0
    else evFastPowerConsumption
  else 0

theorem nextBattery_of_no_inverter {s : Standard}
    (h : s.showInverter = false) : s.nextBattery = s.toBattery := by
  rw [nextBattery, if_neg (ne_true_of_eq_false h)]

theorem solarSystem_eq (s : Standard) : s.solarSystem =
    { s with
      toBattery := s.nextBattery
      pvPower := s.nextPv
      solarSystemPower := s.nextSolar } := by
  unfold solarSystem nextSolar nextPv nextBattery
  split
  · dsimp only
    split
    · rfl
    · rw [Int.sub_zero]
  · rfl

theorem charger_eq (s : Standard) :
    s.charger = { s with evPower := s.nextEv s.gridPower } := by
  unfold charger nextEv
  split
  · split
    · split
      · split
        · rfl
        · split
          · dsimp only
            split
            next h => rw [Int.max_eq_left (Int.le_of_lt h)]
            next h => rw [Int.max_eq_right (Int.not_lt.mp h)]
          · rfl
      · rfl
    · rfl
  · rfl

theorem calculatePowerFlow_eq (s : Standard) : s.calculatePowerFlow =
    { s with
      toBattery := s.nextBattery
      pvPower := s.nextPv
      solarSystemPower := s.nextSolar
      housePower := s.nextHouse
      gridPower := s.surplus - s.evPower
      evPower := s.nextEv (s.surplus - s.evPower) } := by
  rw [calculatePowerFlow, charger_eq, solarSystem_eq]
  rfl

/-! The tick, field by field: what it sets, and the settings, which it only
reads. -/

section Fields

variable (s : Standard)

theorem toBattery_tick :
    s.calculatePowerFlow.toBattery = s.nextBattery := by
  rw [calculatePowerFlow_eq]

theorem gridPower_tick :
    s.calculatePowerFlow.gridPower = s.surplus - s.evPower := by
  rw [calculatePowerFlow_eq]

theorem evPower_tick : s.calculatePowerFlow.evPower =
    s.nextEv s.calculatePowerFlow.gridPower := by
  rw [calculatePowerFlow_eq]

@[simp] theorem isHouseTurnedOn_tick :
    s.calculatePowerFlow.isHouseTurnedOn = s.isHouseTurnedOn := by
  rw [calculatePowerFlow_eq]

@[simp] theorem isChargerTurnedOn_tick :
    s.calculatePowerFlow.isChargerTurnedOn = s.isChargerTurnedOn := by
  rw [calculatePowerFlow_eq]

@[simp] theorem isChargerEcoModeTurnedOn_tick :
    s.calculatePowerFlow.isChargerEcoModeTurnedOn =
      s.isChargerEcoModeTurnedOn := by
  rw [calculatePowerFlow_eq]

@[simp] theorem showInverter_tick :
    s.calculatePowerFlow.showInverter = s.showInverter := by
  rw [calculatePowerFlow_eq]

@[simp] theorem showBattery_tick :
    s.calculatePowerFlow.showBattery = s.showBattery := by
  rw [calculatePowerFlow_eq]

@[simp] theorem showInverterClamp_tick :
    s.calculatePowerFlow.showInverterClamp = s.showInverterClamp := by
  rw [calculatePowerFlow_eq]

@[simp] theorem showCharger_tick :
    s.calculatePowerFlow.showCharger = s.showCharger := by
  rw [calculatePowerFlow_eq]

@[simp] theorem showChargerClamp_tick :
    s.calculatePowerFlow.showChargerClamp = s.showChargerClamp := by
  rw [calculatePowerFlow_eq]

@[simp] theorem cloudCover_tick :
    s.calculatePowerFlow.cloudCover = s.cloudCover := by
  rw [calculatePowerFlow_eq]

end Fields

theorem after_tick (pre : List StandardInput) :
    after (pre ++ [.scene .tick]) = (after pre).calculatePowerFlow := by
  rw [after, Machine.run_concat]
  rfl

end Standard

namespace Henley

def nextBattery (s : Henley) : Battery :=
  s.toBattery.regulate s.housePower

def nextPv (s : Henley) : Int := 10 * s.cloudCover.value

def nextSolar (s : Henley) : Int := s.nextPv - s.nextBattery.batteryPower

/-- What the solar system and the house leave together. -/
def nextHouse (s : Henley) : Int :=
  if s.isHouseTurnedOn then s.nextSolar - housePowerConsumption
  else s.nextSolar

def nextEv (s : Henley) : Int :=
  if s.isChargerTurnedOn then
    if s.isChargerEcoModeTurnedOn then
      if s.gridPower > 0 then s.evPower - 10
      else if s.gridPower < 0 then min 0 (s.evPower + 10)
      else s.evPower
    else -evFastPowerConsumption
  else 0

theorem charger_eq (s : Henley) :
    s.charger = { s with evPower := s.nextEv } := by
  unfold charger nextEv
  split
  · split
    · split
      · rfl
      · split
        · dsimp only
          split
          next h => rw [Int.min_eq_left (Int.le_of_lt h)]
          next h => rw [Int.min_eq_right (Int.not_lt.mp h)]
        · rfl
    · rfl
  · rfl

theorem calculatePowerFlow_eq (s : Henley) : s.calculatePowerFlow =
    { s with
      toBattery := s.nextBattery
      pvPower := s.nextPv
      solarSystemPower := s.nextSolar
      housePower := s.nextHouse
      evPower := s.nextEv
      gridPower := s.nextHouse + s.nextEv } := by
  rw [calculatePowerFlow, charger_eq]
  rfl

end Henley

end SmartHome.Inverter
