import SmartHome.Proofs.Tick

/-!
# The operating envelope of the two simulators

Nothing in either page limits a power. A battery's power is stepped by ten
for as long as the clamp measures a surplus, and the only way back is the
percentage: every tick of charging takes it up by one, and at a hundred the
power is set to zero. So a battery that is charging at power `p` has been at
it for `p / 10` ticks and has come up that many per cent, which is the bound:
`Battery.Within` is kept by a whole tick, which takes it through `Charged`
and `Limited`.

On the Henley page the power has a second bound, because there the measured
power is the demand itself: the battery is stepped up only while it takes
less than the panels give, and down only while it gives less than the house
takes.
-/

namespace SmartHome.Inverter

open Machine

/-! ## The battery -/

namespace Battery

/-- What holds of the battery between ticks. -/
structure Within (b : Battery) : Prop where
  percentage_nonneg : 0 ≤ b.batteryPercentage
  percentage_le : b.batteryPercentage ≤ 100
  power_ge : -10 * (101 - b.batteryPercentage) ≤ b.batteryPower
  power_le : b.batteryPower ≤ 10 * (b.batteryPercentage + 1)
  tens : 10 ∣ b.batteryPower

/-- The percentage has caught up with the power that was flowing, and may be
one past either end. -/
structure Charged (b : Battery) : Prop where
  percentage_ge : -1 ≤ b.batteryPercentage
  percentage_le : b.batteryPercentage ≤ 101
  power_ge : -10 * (100 - b.batteryPercentage) ≤ b.batteryPower
  power_le : b.batteryPower ≤ 10 * b.batteryPercentage
  tens : 10 ∣ b.batteryPower

/-- The same with the percentage back in its range. -/
structure Limited (b : Battery) : Prop where
  percentage_nonneg : 0 ≤ b.batteryPercentage
  percentage_le : b.batteryPercentage ≤ 100
  power_ge : -10 * (100 - b.batteryPercentage) ≤ b.batteryPower
  power_le : b.batteryPower ≤ 10 * b.batteryPercentage
  tens : 10 ∣ b.batteryPower

variable {b : Battery}

theorem Within.charge (h : b.Within) : b.charge.Charged := by
  obtain ⟨h0, h100, hge, hle, htens⟩ := h
  unfold Battery.charge chargeRate
  split
  next => constructor <;> dsimp only <;> omega
  next =>
    split
    next => constructor <;> dsimp only <;> omega
    next => constructor <;> omega

theorem Charged.limit (h : b.Charged) : b.limit.Limited := by
  obtain ⟨hm1, h101, hge, hle, htens⟩ := h
  unfold Battery.limit
  split
  next => constructor <;> decide
  next =>
    split
    next => constructor <;> decide
    next => constructor <;> omega

theorem Limited.follow (h : b.Limited) (measured : Int) :
    (b.follow measured).Within := by
  obtain ⟨h0, h100, hge, hle, htens⟩ := h
  unfold Battery.follow
  split
  next =>
    split
    next => constructor <;> dsimp only <;> omega
    next => constructor <;> dsimp only <;> omega
  next =>
    split
    next =>
      split
      next => constructor <;> dsimp only <;> omega
      next => constructor <;> dsimp only <;> omega
    next => constructor <;> omega

theorem Within.regulate (h : b.Within) (measured : Int) :
    (b.regulate measured).Within :=
  h.charge.limit.follow measured

/-- Switched off, a battery keeps its percentage. -/
theorem Within.off (h : b.Within) :
    Within { b with batteryPower := 0 } := by
  obtain ⟨h0, h100, -, -, -⟩ := h
  constructor <;> dsimp only <;> omega

end Battery

/-! ## `standard.html` -/

namespace Standard

structure Within (s : Standard) : Prop where
  battery : s.toBattery.Within
  ev_nonneg : 0 ≤ s.evPower
  ev_le : s.evPower ≤ 7000
  ev_tens : 10 ∣ s.evPower

variable {s : Standard}

theorem Within.nextBattery (h : s.Within) : s.nextBattery.Within := by
  unfold Standard.nextBattery
  split
  · split
    · exact h.battery.regulate _
    · exact h.battery.off
  · exact h.battery

/-- The solar system never offers more than the panels at their best and a
full battery discharging. -/
theorem Within.surplus_le (h : s.Within) : s.surplus ≤ 2010 := by
  obtain ⟨hp0, -, hpge, -, -⟩ := h.nextBattery
  have hcloud := s.cloudCover.le_hundred
  unfold surplus nextSolar nextPv nextHouse housePowerConsumption
  split <;> split <;> omega

theorem Within.surplus_tens (h : s.Within) : 10 ∣ s.surplus := by
  have htens := h.nextBattery.tens
  have hcloud := s.cloudCover.step
  unfold surplus nextSolar nextPv nextHouse housePowerConsumption
  split <;> split <;> omega

theorem Within.nextEv (h : s.Within) :
    0 ≤ s.nextEv (s.surplus - s.evPower) ∧
      s.nextEv (s.surplus - s.evPower) ≤ 7000 ∧
      10 ∣ s.nextEv (s.surplus - s.evPower) := by
  have hsurplus := h.surplus_le
  obtain ⟨-, h0, h7000, htens⟩ := h
  unfold Standard.nextEv evFastPowerConsumption
  split
  · split
    · split
      · split
        · omega
        · split <;> omega
      · decide
    · decide
  · decide

theorem Within.step (h : s.Within) (i : StandardInput) :
    (s.step i).Within := by
  cases i with
  | scene i =>
      cases i with
      | tick =>
          rw [Standard.step, calculatePowerFlow_eq]
          obtain ⟨h0, h7000, htens⟩ := h.nextEv
          exact ⟨h.nextBattery, h0, h7000, htens⟩
      | cloudCover | toggleHouseConsumption =>
          exact ⟨h.battery, h.ev_nonneg, h.ev_le, h.ev_tens⟩
  | toggleInverter =>
      rw [Standard.step, toggleInverter, watchShowInverter]
      split <;> exact ⟨h.battery, h.ev_nonneg, h.ev_le, h.ev_tens⟩
  | toggleChargerOnOff | toggleChargerMode | toggleBattery
  | toggleInverterClamp | toggleEVCharger | toggleChargerClamp =>
      exact ⟨h.battery, h.ev_nonneg, h.ev_le, h.ev_tens⟩

theorem within_init : Within {} := by
  refine ⟨?_, ?_, ?_, ?_⟩ <;> first | decide | (constructor <;> decide)

theorem within_after (inputs : List StandardInput) : (after inputs).Within :=
  run_inv (fun _ i h => h.step i) within_init inputs

end Standard

/-! ## `henley.html` -/

namespace Henley

structure Within (s : Henley) : Prop where
  battery : s.toBattery.Within
  battery_ge : -500 ≤ s.batteryPower
  battery_le : s.batteryPower ≤ 1000
  /-- What the inverter's clamp measured last, seen from the panels. -/
  demand_ge : -500 ≤ s.batteryPower + s.housePower
  demand_le : s.batteryPower + s.housePower ≤ 1000
  grid : s.gridPower = s.housePower + s.evPower
  ev_ge : -7000 ≤ s.evPower
  ev_le : s.evPower ≤ 0

variable {s : Henley}

/-- Stepping the power towards the demand does not take it past. -/
theorem Within.nextBattery (h : s.Within) : s.nextBattery.Within ∧
    -500 ≤ s.nextBattery.batteryPower ∧
      s.nextBattery.batteryPower ≤ 1000 := by
  refine ⟨h.battery.regulate _, ?_⟩
  have htens := h.battery.tens
  obtain ⟨-, hge, hle, hdge, hdle, -, -, -⟩ := h
  have hcarried := s.toBattery.carried_or_zero
  rw [Henley.nextBattery, Battery.regulate_power, Battery.demand]
  split
  · split <;> omega
  · split
    · split <;> omega
    · omega

theorem demand_bounds (s : Henley) :
    -500 ≤ s.nextBattery.batteryPower + s.nextHouse ∧
      s.nextBattery.batteryPower + s.nextHouse ≤ 1000 := by
  have h0 := s.cloudCover.nonneg
  have h100 := s.cloudCover.le_hundred
  unfold Henley.nextHouse nextSolar nextPv housePowerConsumption
  split <;> omega

theorem Within.nextEv (h : s.Within) : -7000 ≤ s.nextEv ∧ s.nextEv ≤ 0 := by
  obtain ⟨-, hge, hle, hdge, hdle, hgrid, hev, hev0⟩ := h
  unfold Henley.nextEv evFastPowerConsumption
  split
  · split
    · split
      · omega
      · split <;> omega
    · decide
  · decide

theorem Within.step (h : s.Within) (i : HenleyInput) : (s.step i).Within := by
  cases i with
  | scene i =>
      cases i with
      | tick =>
          obtain ⟨hb, hbge, hble⟩ := h.nextBattery
          obtain ⟨hdge, hdle⟩ := s.demand_bounds
          obtain ⟨hege, hele⟩ := h.nextEv
          rw [Henley.step, calculatePowerFlow_eq]
          exact ⟨hb, hbge, hble, hdge, hdle, rfl, hege, hele⟩
      | cloudCover | toggleHouseConsumption =>
          exact ⟨h.battery, h.battery_ge, h.battery_le, h.demand_ge,
            h.demand_le, h.grid, h.ev_ge, h.ev_le⟩
  | toggleChargerOnOff | toggleChargerMode =>
      exact ⟨h.battery, h.battery_ge, h.battery_le, h.demand_ge,
        h.demand_le, h.grid, h.ev_ge, h.ev_le⟩

theorem within_init : Within {} := by
  refine ⟨?_, ?_, ?_, ?_, ?_, ?_, ?_, ?_⟩ <;>
    first | decide | (constructor <;> decide)

theorem within_after (inputs : List HenleyInput) : (after inputs).Within :=
  run_inv (fun _ i h => h.step i) within_init inputs

end Henley

/-- Both pages stay inside their envelope, whatever the user does and however
long they run. -/
theorem operating_envelope :
    (∀ inputs, let s := Standard.after inputs
      (0 ≤ s.batteryPercentage ∧ s.batteryPercentage ≤ 100) ∧
        (-10 * (101 - s.batteryPercentage) ≤ s.batteryPower ∧
          s.batteryPower ≤ 10 * (s.batteryPercentage + 1)) ∧
        0 ≤ s.evPower ∧ s.evPower ≤ 7000) ∧
      ∀ inputs, let s := Henley.after inputs
        (0 ≤ s.batteryPercentage ∧ s.batteryPercentage ≤ 100) ∧
          (-500 ≤ s.batteryPower ∧ s.batteryPower ≤ 1000) ∧
          -7000 ≤ s.evPower ∧ s.evPower ≤ 0 := by
  constructor
  · intro inputs s
    have h : s.Within := Standard.within_after inputs
    exact ⟨⟨h.battery.percentage_nonneg, h.battery.percentage_le⟩,
      ⟨h.battery.power_ge, h.battery.power_le⟩, h.ev_nonneg, h.ev_le⟩
  · intro inputs s
    have h : s.Within := Henley.within_after inputs
    exact ⟨⟨h.battery.percentage_nonneg, h.battery.percentage_le⟩,
      ⟨h.battery_ge, h.battery_le⟩, h.ev_ge, h.ev_le⟩

end SmartHome.Inverter
