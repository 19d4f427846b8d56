import SmartHome.Machine.Run
import SmartHome.Proofs.Envelope

/-!
# A full battery that charges, an empty one that discharges

Each tick first moves the percentage and then the power. The percentage is
tested twice on the way: past either end it is put back and the power is set
to zero, "Cannot charge any more!", and once more when the power is stepped,
which is only done when the measured power says that there is something to
step for. A battery that comes to exactly 100 per cent is caught by neither
test if nothing is measured at that tick, nor if the measured power points
the other way and the step down leaves it charging.

`Overruns` is those two cases, at either end, read off the battery and the
measured power that the tick finds. Both pages drive the battery with the
same lines, so they meet the same fate, and there is no other way.
-/

namespace SmartHome.Inverter

open Machine

namespace Battery

/-- A full battery does not charge and an empty one does not discharge. -/
structure HeldAtEnds (b : Battery) : Prop where
  full : b.batteryPercentage = 100 → b.batteryPower ≤ 0
  empty : b.batteryPercentage = 0 → 0 ≤ b.batteryPower

/-- The battery is one per cent from the end it is heading for, and the
measured power does not ask for more of it: either it asks for nothing, or
for ten less than a power of more than ten. -/
def Overruns (measured : Int) (b : Battery) : Prop :=
  (b.batteryPercentage = 99 ∧
      ((0 < b.batteryPower ∧ measured = 0) ∨
        (10 < b.batteryPower ∧ measured < 0))) ∨
    (b.batteryPercentage = 1 ∧
      ((b.batteryPower < 0 ∧ measured = 0) ∨
        (b.batteryPower < -10 ∧ 0 < measured)))

theorem heldAtEnds_regulate {b : Battery} (h : b.Within) (measured : Int) :
    (b.regulate measured).HeldAtEnds ↔ ¬ b.Overruns measured := by
  have h0 := h.percentage_nonneg
  have h100 := h.percentage_le
  have hlevel := b.level_cases
  have hends : (b.regulate measured).HeldAtEnds ↔
      (max 0 (min 100 b.level) = 100 → b.demand measured ≤ 0) ∧
        (max 0 (min 100 b.level) = 0 → 0 ≤ b.demand measured) := by
    rw [← regulate_percentage measured, ← regulate_power]
    exact ⟨fun h => ⟨h.full, h.empty⟩, fun h => ⟨h.1, h.2⟩⟩
  rw [hends, Overruns, demand, carried]
  split
  next =>
    split
    next => split <;> omega
    next => omega
  next =>
    split
    next =>
      split
      next => split <;> omega
      next => omega
    next => split <;> omega

theorem heldAtEnds_off (percentage : Int) :
    HeldAtEnds { batteryPower := 0, batteryPercentage := percentage } :=
  ⟨fun _ => Int.le_refl 0, fun _ => Int.le_refl 0⟩

end Battery

/-! ## `standard.html` -/

namespace Standard

/-- The battery is fitted, and so is what it needs to be regulated. -/
def regulates (s : Standard) : Bool :=
  s.showInverter && s.showBattery && s.showInverterClamp

def HeldAfterTick (s : Standard) (i : StandardInput) : Prop :=
  i = .scene .tick → (s.step i).toBattery.HeldAtEnds

def NoOverrun (s : Standard) (i : StandardInput) : Prop :=
  i = .scene .tick → s.regulates = true →
    ¬ s.toBattery.Overruns s.gridPower

theorem heldAtEnds_tick {s : Standard} (h : s.Within)
    (hs : s.toBattery.HeldAtEnds) :
    s.calculatePowerFlow.toBattery.HeldAtEnds ↔
      (s.regulates = true → ¬ s.toBattery.Overruns s.gridPower) := by
  rw [calculatePowerFlow_eq]
  show s.nextBattery.HeldAtEnds ↔ _
  rw [nextBattery, regulates]
  cases s.showInverter with
  | false =>
      -- Without an inverter the tick does not touch the battery.
      simp only [Bool.false_and, Bool.false_eq_true, if_false, false_implies,
        iff_true]
      exact hs
  | true =>
      rw [if_pos rfl, Bool.true_and]
      split
      next hfit =>
        rw [Battery.heldAtEnds_regulate h.battery]
        exact ⟨fun ho _ => ho, fun ho => ho hfit⟩
      next hfit =>
        exact ⟨fun _ hr => absurd hr hfit, fun _ => Battery.heldAtEnds_off _⟩

/-- Nothing but a tick touches the battery. -/
theorem battery_step (s : Standard) {i : StandardInput}
    (hi : i ≠ .scene .tick) : (s.step i).toBattery = s.toBattery := by
  cases i with
  | scene i =>
      cases i with
      | tick => exact absurd rfl hi
      | cloudCover | toggleHouseConsumption => rfl
  | toggleInverter =>
      rw [step, toggleInverter, watchShowInverter]
      split <;> rfl
  | toggleChargerOnOff | toggleChargerMode | toggleBattery
  | toggleInverterClamp | toggleEVCharger | toggleChargerClamp => rfl

end Standard

/-! ## `henley.html` -/

namespace Henley

def HeldAfterTick (s : Henley) (i : HenleyInput) : Prop :=
  i = .scene .tick → (s.step i).toBattery.HeldAtEnds

def NoOverrun (s : Henley) (i : HenleyInput) : Prop :=
  i = .scene .tick → ¬ s.toBattery.Overruns s.housePower

theorem heldAtEnds_tick {s : Henley} (h : s.Within) :
    s.calculatePowerFlow.toBattery.HeldAtEnds ↔
      ¬ s.toBattery.Overruns s.housePower := by
  rw [calculatePowerFlow_eq]
  exact Battery.heldAtEnds_regulate h.battery s.housePower

end Henley

/-! ## The runs -/

/-- On either page no tick of a run leaves a full battery charging or an
empty one discharging, exactly when no tick finds the battery about to
overrun. -/
theorem held_iff_noOverrun (standard : List StandardInput)
    (henley : List HenleyInput) :
    (Along Standard.step Standard.HeldAfterTick {} standard ↔
        Along Standard.step Standard.NoOverrun {} standard) ∧
      (Along Henley.step Henley.HeldAfterTick {} henley ↔
        Along Henley.step Henley.NoOverrun {} henley) := by
  constructor
  · -- The battery of a missing inverter is as the last tick left it, so the
    -- property has to be carried along with the envelope.
    refine @along_congr _ _ _ _ _
      (fun s : Standard => s.Within ∧ s.toBattery.HeldAtEnds) ?_ ?_ _ ?_ _
    · intro s i hboth htick
      obtain ⟨hwithin, hheld⟩ := hboth
      refine ⟨hwithin.step i, ?_⟩
      by_cases hi : i = .scene .tick
      · exact htick hi
      · rw [s.battery_step hi]
        exact hheld
    · intro s i hboth
      obtain ⟨hwithin, hheld⟩ := hboth
      refine imp_congr_right ?_
      intro heq
      subst heq
      exact Standard.heldAtEnds_tick hwithin hheld
    · exact ⟨Standard.within_init, Battery.heldAtEnds_off 100⟩
  · refine @along_congr _ _ _ _ _ Henley.Within ?_ ?_ _
      Henley.within_init _
    · intro s i hwithin _
      exact hwithin.step i
    · intro s i hwithin
      refine imp_congr_right ?_
      intro heq
      subst heq
      exact Henley.heldAtEnds_tick hwithin

/-- The battery comes to 100 per cent at the tick after the house was
switched on: the measured power points down, and the step down leaves it
charging. -/
theorem full_and_charging :
    let inputs : List StandardInput :=
      [.toggleInverter, .toggleBattery, .toggleInverterClamp, .scene .tick,
        .scene .tick, .scene .toggleHouseConsumption,
        .scene (.cloudCover (.notch 1)), .scene .tick, .scene .tick,
        .scene .tick, .scene .tick, .scene .tick,
        .scene .toggleHouseConsumption, .scene .tick, .scene .tick]
    ¬ Along Standard.step Standard.HeldAfterTick {} inputs ∧
      (Standard.after inputs).batteryPercentage = 100 ∧
      (Standard.after inputs).batteryPower = 20 := by
  refine ⟨fun h => ?_, by decide, by decide⟩
  have hlast := h.2.2.2.2.2.2.2.2.2.2.2.2.2.2.1 rfl
  exact absurd (hlast.full (by decide)) (by decide)

/-- The same on the other page. -/
example :
    let s := Henley.after
      [.scene .toggleHouseConsumption, .scene .tick, .scene .tick,
        .scene .toggleHouseConsumption, .scene (.cloudCover (.notch 1)),
        .scene .tick, .scene .tick, .scene .tick, .scene .tick, .scene .tick,
        .scene .toggleHouseConsumption, .scene .tick, .scene .tick]
    s.batteryPercentage = 100 ∧ s.batteryPower = 20 := by
  decide

end SmartHome.Inverter
