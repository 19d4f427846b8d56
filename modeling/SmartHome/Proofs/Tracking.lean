import SmartHome.Control.Stepper
import SmartHome.Proofs.Regulation

/-!
# The charger in ECO mode follows the surplus

Neither page shows the charger the surplus. What it is shown is the grid
power, and its own demand is already in there: on `standard.html` the grid
power of this tick is the surplus less the demand, and on `henley.html` it is
the one of the tick before, which the demand was added to with the other
sign. Either way it is the error of a controller whose target is the surplus
and whose output is the demand, and the battery and the house are in the
target and nowhere else.

That the demand does not overshoot is then arithmetic: both are multiples of
ten on every page that can be reached. `standard.html` has had that from its
envelope. On `henley.html` it is an invariant of its own, because the envelope
says no more there than how far a power goes.
-/

namespace SmartHome.Inverter

open Machine Control

namespace Standard

variable {s : Standard}

/-- With the clamp fitted the charger steps by the sign of what the surplus
has over its demand. -/
theorem nextEv_of_charges (h : s.charges = true) (gridPower : Int) :
    s.nextEv gridPower =
      if gridPower > 0 then s.evPower + 10
      else if gridPower < 0 then max 0 (s.evPower - 10)
      else s.evPower := by
  simp only [charges, Bool.and_eq_true] at h
  obtain ⟨⟨hon, heco⟩, hclamp⟩ := h
  rw [nextEv, if_pos hon, if_pos heco, if_pos hclamp]

theorem surplus_tick (s : Standard) :
    s.calculatePowerFlow.solarSystemPower - s.calculatePowerFlow.housePower =
      s.surplus := by
  rw [calculatePowerFlow_eq]
  rfl

theorem Within.tracks (h : s.Within) (hcharges : s.charges = true) :
    Approaches 10 (max 0 s.surplus) s.evPower
      s.calculatePowerFlow.evPower := by
  rw [evPower_tick, gridPower_tick, nextEv_of_charges hcharges]
  apply approaches_max_zero h.surplus_tens h.ev_tens h.ev_nonneg (by decide)
  case hpos =>
    intro hpos
    rw [if_pos hpos]
  case hneg =>
    intro hneg
    rw [if_neg (by omega), if_pos hneg]
  case hzero =>
    intro hzero
    rw [if_neg (by omega), if_neg (by omega)]

end Standard

namespace Henley

variable {s : Henley}

/-- What the house leaves and what the charger draws. -/
structure Tens (s : Henley) : Prop where
  house : 10 ∣ s.housePower
  ev : 10 ∣ s.evPower

theorem Within.nextHouse_tens (h : s.Within) : 10 ∣ s.nextHouse := by
  have hbattery := h.nextBattery.1.tens
  have hcloud := s.cloudCover.step
  unfold Henley.nextHouse nextSolar nextPv housePowerConsumption
  split <;> omega

theorem Tens.nextEv (h : s.Tens) : 10 ∣ s.nextEv := by
  have hev := h.ev
  unfold Henley.nextEv evFastPowerConsumption
  split
  · split
    · split
      · omega
      · split <;> omega
    · decide
  · decide

theorem Tens.step (h : s.Tens) (hwithin : s.Within) (i : HenleyInput) :
    (s.step i).Tens := by
  cases i with
  | scene i =>
      cases i with
      | tick =>
          rw [Henley.step, calculatePowerFlow_eq]
          exact ⟨hwithin.nextHouse_tens, h.nextEv⟩
      | cloudCover | toggleHouseConsumption => exact ⟨h.house, h.ev⟩
  | toggleChargerOnOff | toggleChargerMode => exact ⟨h.house, h.ev⟩

theorem tens_after (inputs : List HenleyInput) : (after inputs).Tens := by
  have hstep (s : Henley) (i : HenleyInput) (h : s.Within ∧ s.Tens) :
      (s.step i).Within ∧ (s.step i).Tens :=
    ⟨h.1.step i, h.2.step h.1 i⟩
  have hinit : Tens {} := ⟨by decide, by decide⟩
  exact (run_inv hstep ⟨within_init, hinit⟩ inputs).2

/-- On this page the charger always has its clamp. -/
def charges (s : Henley) : Bool :=
  s.isChargerTurnedOn && s.isChargerEcoModeTurnedOn

theorem nextEv_of_charges (h : s.charges = true) :
    s.nextEv =
      if s.gridPower > 0 then s.evPower - 10
      else if s.gridPower < 0 then min 0 (s.evPower + 10)
      else s.evPower := by
  simp only [charges, Bool.and_eq_true] at h
  rw [nextEv, if_pos h.1, if_pos h.2]

theorem evPower_tick (s : Henley) :
    s.calculatePowerFlow.evPower = s.nextEv := by
  rw [calculatePowerFlow_eq]

theorem Within.tracks (h : s.Within) (htens : s.Tens)
    (hcharges : s.charges = true) :
    Approaches 10 (max 0 s.housePower) (-s.evPower)
      (-s.calculatePowerFlow.evPower) := by
  have hgrid := h.grid
  have hev := h.ev_le
  rw [evPower_tick, nextEv_of_charges hcharges]
  apply approaches_max_zero htens.house (Int.dvd_neg.mpr htens.ev) (by omega)
    (by decide)
  case hpos =>
    intro hpos
    rw [if_pos (by omega)]
    omega
  case hneg =>
    intro hneg
    rw [if_neg (by omega), if_pos (by omega)]
    omega
  case hzero =>
    intro hzero
    rw [if_neg (by omega), if_neg (by omega)]

theorem after_tick (pre : List HenleyInput) :
    after (pre ++ [.scene .tick]) = (after pre).calculatePowerFlow := by
  rw [after, run_concat]
  rfl

end Henley

/-- A tick with the charger in ECO mode takes its power one step closer to
the surplus, or leaves it there, on every page that can be reached. -/
theorem eco_tracks_surplus :
    (∀ inputs, let s := Standard.after inputs
      let k := Standard.after (inputs ++ [.scene .tick])
      s.charges = true →
        Approaches 10 (max 0 (k.solarSystemPower - k.housePower)) s.evPower
          k.evPower) ∧
      ∀ inputs, let s := Henley.after inputs
        let k := Henley.after (inputs ++ [.scene .tick])
        s.charges = true →
          Approaches 10 (max 0 s.housePower) (-s.evPower) (-k.evPower) := by
  constructor
  · intro inputs s k hcharges
    have hk : k = s.calculatePowerFlow := Standard.after_tick inputs
    rw [hk, Standard.surplus_tick]
    exact (Standard.within_after inputs).tracks hcharges
  · intro inputs s k hcharges
    have hk : k = s.calculatePowerFlow := Henley.after_tick inputs
    rw [hk]
    exact (Henley.within_after inputs).tracks (Henley.tens_after inputs)
      hcharges

/-- Out of FULL mode, where it has drawn seven kilowatts, the charger comes
down a step a tick on either page. -/
theorem eco_tracks_surplus_after_full :
    (Standard.after [.toggleEVCharger, .toggleChargerClamp,
        .toggleChargerOnOff, .scene .tick, .toggleChargerMode,
        .scene .tick]).evPower = 6990 ∧
      -(Henley.after [.toggleChargerOnOff, .scene .tick, .toggleChargerMode,
        .scene .tick]).evPower = 6990 := by
  constructor
  · exact ((eco_tracks_surplus.1 [.toggleEVCharger, .toggleChargerClamp,
      .toggleChargerOnOff, .scene .tick, .toggleChargerMode]
      (by decide)).2.2 (by decide)).1
  · exact ((eco_tracks_surplus.2 [.toggleChargerOnOff, .scene .tick,
      .toggleChargerMode] (by decide)).2.2 (by decide)).1

end SmartHome.Inverter
