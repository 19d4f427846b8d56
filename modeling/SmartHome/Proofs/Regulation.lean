import SmartHome.Control.Stepper
import SmartHome.Proofs.FullBattery

/-!
# What the battery and the charger make of the grid power

On `standard.html` the battery and the charger in ECO mode both act on the
meter: each moves its power by ten in the direction of the grid power it
sees, the battery by the one of the tick before and the charger by the
current one. `gridPower_tick_tick` puts the two together. From one tick to
the next, with no setting changed, the grid power changes by what the
battery has just moved and by what the charger moved a tick earlier, and
both of these are moves towards the grid power that lies between, because
the charger moved on it and the battery moves on it now.

So what is known of two controllers that step on one error applies. The grid
power does not grow, and shrinks while the battery regulates and there are
twenty watts or more of it. It can still change its direction for ever:
from ten watts two moves of ten lead to ten watts the other way.
-/

namespace SmartHome.Inverter

open Machine Control

namespace Battery

theorem regulate_moves {measured : Int} {b : Battery}
    (h0 : 0 < (b.regulate measured).batteryPercentage)
    (h100 : (b.regulate measured).batteryPercentage < 100) :
    Moves 10 measured ((b.regulate measured).batteryPower - b.batteryPower) ∧
      (measured ≠ 0 →
        (b.regulate measured).batteryPower - b.batteryPower ≠ 0) := by
  rw [regulate_percentage] at h0 h100
  have hlevel : 0 < b.level ∧ b.level < 100 := by omega
  have hcarried : b.carried = b.batteryPower := if_pos (by omega)
  rw [regulate_power, demand, hcarried, if_pos hlevel.1, if_pos hlevel.2,
    Moves]
  split
  next => omega
  next => split <;> omega

end Battery

namespace Standard

/-! ## Two ticks in a row

`s` is the page before a tick and `s.calculatePowerFlow` after it, so the
three ticks of a claim about consecutive ticks are one to reach `s` and the
two that follow it. -/

variable {s : Standard}

@[simp] theorem regulates_tick (s : Standard) :
    s.calculatePowerFlow.regulates = s.regulates := by
  simp only [regulates, showInverter_tick, showBattery_tick,
    showInverterClamp_tick]

theorem nextBattery_of_regulates (h : s.regulates = true) :
    s.nextBattery = s.toBattery.regulate s.gridPower := by
  rw [regulates, Bool.and_assoc, Bool.and_eq_true] at h
  rw [nextBattery, if_pos h.1, if_pos h.2]

/-- The grid power of the next tick: the battery moves before it is computed
and the charger after it. -/
theorem gridPower_tick_tick (s : Standard) :
    s.calculatePowerFlow.calculatePowerFlow.gridPower =
      s.calculatePowerFlow.gridPower -
        (s.calculatePowerFlow.calculatePowerFlow.batteryPower -
          s.calculatePowerFlow.batteryPower) -
        (s.calculatePowerFlow.evPower - s.evPower) := by
  rw [gridPower_tick, gridPower_tick, toBattery_tick s.calculatePowerFlow]
  simp only [surplus, nextSolar, nextPv, nextHouse, showInverter_tick,
    cloudCover_tick, isHouseTurnedOn_tick]
  cases hinv : s.showInverter with
  | true =>
      rw [← toBattery_tick s]
      simp only [if_true]
      omega
  | false =>
      -- The power of a battery without inverter stays, and is not counted.
      have hinv' : s.calculatePowerFlow.showInverter = false := by
        rw [showInverter_tick, hinv]
      have hsame := nextBattery_of_no_inverter hinv'
      rw [hsame]
      simp only [Bool.false_eq_true, if_false]
      omega

theorem gridPower_tens (h : s.Within) :
    10 ∣ s.calculatePowerFlow.gridPower := by
  rw [gridPower_tick]
  exact Int.dvd_sub h.surplus_tens h.ev_tens

theorem battery_moves (h : s.regulates = true)
    (h0 : 0 < s.calculatePowerFlow.batteryPercentage)
    (h100 : s.calculatePowerFlow.batteryPercentage < 100) :
    Moves 10 s.gridPower
        (s.calculatePowerFlow.batteryPower - s.batteryPower) ∧
      (s.gridPower ≠ 0 →
        s.calculatePowerFlow.batteryPower - s.batteryPower ≠ 0) := by
  rw [toBattery_tick, nextBattery_of_regulates h] at h0 h100 ⊢
  exact Battery.regulate_moves h0 h100

theorem battery_stays (h : s.regulates = false) :
    s.calculatePowerFlow.calculatePowerFlow.batteryPower =
      s.calculatePowerFlow.batteryPower := by
  rw [toBattery_tick, nextBattery]
  simp only [showInverter_tick, showBattery_tick, showInverterClamp_tick]
  rw [regulates, Bool.and_assoc] at h
  cases hinv : s.showInverter with
  | true =>
      rw [hinv, Bool.true_and] at h
      rw [toBattery_tick, nextBattery, hinv, h]
      rfl
  | false => rfl

/-- The charger draws by what the meter shows: it is on, in ECO mode, and has
its clamp. -/
def charges (s : Standard) : Bool :=
  s.isChargerTurnedOn && s.isChargerEcoModeTurnedOn && s.showChargerClamp

theorem charger_moves (h : s.Within) (hcharges : s.charges = true) :
    Moves 10 s.calculatePowerFlow.gridPower
      (s.calculatePowerFlow.evPower - s.evPower) := by
  have hev := h.ev_nonneg
  have htens := h.ev_tens
  simp only [charges, Bool.and_eq_true] at hcharges
  rw [evPower_tick, nextEv, if_pos hcharges.1.1, if_pos hcharges.1.2,
    if_pos hcharges.2, Moves]
  split
  next => omega
  next => split <;> omega

theorem charger_stays (hcharges : s.charges = false) :
    s.calculatePowerFlow.calculatePowerFlow.evPower =
      s.calculatePowerFlow.evPower := by
  rw [evPower_tick, evPower_tick, nextEv, nextEv]
  simp only [isChargerTurnedOn_tick, isChargerEcoModeTurnedOn_tick,
    showChargerClamp_tick]
  unfold charges at hcharges
  cases hon : s.isChargerTurnedOn with
  | false => rfl
  | true =>
      cases heco : s.isChargerEcoModeTurnedOn with
      | false => rfl
      | true =>
          rw [hon, heco, Bool.true_and, Bool.true_and] at hcharges
          rw [hcharges]
          rfl

theorem charger_moves_again (h : s.calculatePowerFlow.Within) :
    Moves 10 s.calculatePowerFlow.calculatePowerFlow.gridPower
      (s.calculatePowerFlow.calculatePowerFlow.evPower -
        s.calculatePowerFlow.evPower) := by
  cases hcharges : s.charges with
  | true =>
      have hcharges' : s.calculatePowerFlow.charges = true := by
        simpa [charges] using hcharges
      exact charger_moves h hcharges'
  | false =>
      rw [charger_stays hcharges]
      exact Or.inl (Int.sub_self _)

/-- Three ticks in a row: the grid power does not grow over the last of
them, and shrinks if the battery regulates and there is enough of it. -/
theorem gridPower_shrinks {k₀ k₁ k₂ : Standard} (h : s.Within)
    (hk₀ : s.calculatePowerFlow = k₀) (hk₁ : k₀.calculatePowerFlow = k₁)
    (hk₂ : k₁.calculatePowerFlow = k₂)
    (hends : k₁.regulates = true →
      0 < k₂.batteryPercentage ∧ k₂.batteryPercentage < 100) :
    k₂.gridPower.natAbs ≤ k₁.gridPower.natAbs ∧
      (k₁.regulates = true → 20 ≤ k₁.gridPower.natAbs →
        k₂.gridPower.natAbs < k₁.gridPower.natAbs) := by
  subst hk₀
  have hwithin : s.calculatePowerFlow.Within := h.step (.scene .tick)
  have hgrid := gridPower_tick_tick s.calculatePowerFlow
  have htens := gridPower_tens hwithin
  have hcharger := charger_moves_again hwithin
  rw [hk₁] at hgrid htens hcharger
  rw [hk₂] at hgrid
  rw [hgrid]
  cases hreg : k₁.regulates with
  | true =>
      obtain ⟨h0, h100⟩ := hends hreg
      rw [← hk₂] at h0 h100
      obtain ⟨hbattery, hmoved⟩ := battery_moves hreg h0 h100
      rw [hk₂] at hbattery hmoved
      refine ⟨natAbs_sub_moves_le htens hbattery hcharger (by decide), ?_⟩
      intro _ hfar
      have hne : k₁.gridPower ≠ 0 := by omega
      exact natAbs_sub_moves_lt hbattery hcharger (by decide) (hmoved hne)
        (by omega)
  | false =>
      have hstays : k₂.batteryPower - k₁.batteryPower = 0 := by
        have hreg' : s.calculatePowerFlow.regulates = false := by
          rw [← hk₁, regulates_tick] at hreg
          exact hreg
        have hsame := battery_stays hreg'
        rw [hk₁, hk₂] at hsame
        rw [hsame, Int.sub_self]
      refine ⟨natAbs_sub_moves_le htens (Or.inl hstays) hcharger (by decide),
        fun htrue => ?_⟩
      exact absurd htrue Bool.false_ne_true

/-- From any page that can be reached: over three ticks in a row, whatever is
fitted and whatever the charger's mode is, the grid power does not grow from
the second to the third, and it shrinks if the battery regulates and there
are twenty watts of it. A regulated battery must not be at either end. -/
theorem regulation_stable (inputs : List StandardInput) :
    let k₁ := after (inputs ++ [.scene .tick, .scene .tick])
    let k₂ := after (inputs ++ [.scene .tick, .scene .tick, .scene .tick])
    (k₁.regulates = true →
      0 < k₂.batteryPercentage ∧ k₂.batteryPercentage < 100) →
    k₂.gridPower.natAbs ≤ k₁.gridPower.natAbs ∧
      (k₁.regulates = true → 20 ≤ k₁.gridPower.natAbs →
        k₂.gridPower.natAbs < k₁.gridPower.natAbs) := by
  intro k₁ k₂ hends
  have hk₁ : (after (inputs ++ [.scene .tick])).calculatePowerFlow = k₁ := by
    rw [← after_tick, List.append_assoc]
    rfl
  have hk₂ : k₁.calculatePowerFlow = k₂ := by
    rw [← after_tick, List.append_assoc]
    rfl
  exact gridPower_shrinks (within_after inputs) (after_tick inputs).symm hk₁
    hk₂ hends

theorem regulation_stable_discharging :
    let k₁ := after [.toggleInverter, .toggleBattery, .toggleInverterClamp,
      .scene .tick, .scene .tick, .scene .tick]
    let k₂ := after [.toggleInverter, .toggleBattery, .toggleInverterClamp,
      .scene .tick, .scene .tick, .scene .tick, .scene .tick]
    k₂.gridPower.natAbs < k₁.gridPower.natAbs ∧ k₁.gridPower = -480 :=
  ⟨(regulation_stable [.toggleInverter, .toggleBattery, .toggleInverterClamp,
    .scene .tick] (by decide)).2 (by decide) (by decide), by decide⟩

/-! ## Crossing zero

With the battery regulated and the charger stepping, the grid power moves by
twenty at a time, and what is left of it when it can no longer do so decides
how it ends. -/

def bothRegulate (s : Standard) : Bool :=
  s.regulates && s.showCharger && s.charges

def atTick (inputs : List StandardInput) (k : Nat) : Standard :=
  after (inputs ++ List.replicate k (.scene .tick))

theorem atTick_succ (inputs : List StandardInput) (k : Nat) :
    atTick inputs (k + 1) = (atTick inputs k).calculatePowerFlow := by
  rw [atTick, List.replicate_succ', ← List.append_assoc, after_tick]
  rfl

theorem bothRegulate_atTick {inputs : List StandardInput}
    (h : (after inputs).bothRegulate = true) (k : Nat) :
    (atTick inputs k).bothRegulate = true := by
  induction k with
  | zero =>
      rw [atTick, List.replicate_zero, List.append_nil]
      exact h
  | succ k ih =>
      rw [atTick_succ]
      simpa [bothRegulate, charges] using ih

/-- A battery strictly between its ends after every one of `n` ticks. -/
def BetweenEnds (inputs : List StandardInput) (n : Nat) : Prop :=
  ∀ k, 1 ≤ k → k ≤ n →
    0 < (atTick inputs k).batteryPercentage ∧
      (atTick inputs k).batteryPercentage < 100

/-- With battery and charger both stepping, the grid power passes zero from
one tick to the next only from ten watts to ten watts the other way. -/
theorem crosses_zero_at_ten (inputs : List StandardInput) (n : Nat)
    (hboth : (after inputs).bothRegulate = true)
    (hends : BetweenEnds inputs n) :
    ∀ k, 1 ≤ k → k < n →
      let g := (atTick inputs k).gridPower
      let g' := (atTick inputs (k + 1)).gridPower
      (0 < g ∧ g' < 0 → g = 10 ∧ g' = -10) ∧
        (g < 0 ∧ 0 < g' → g = -10 ∧ g' = 10) := by
  intro k hk hkn
  obtain ⟨j, rfl⟩ : ∃ j, k = j + 1 := ⟨k - 1, by omega⟩
  have hboth' := bothRegulate_atTick hboth j
  simp only [bothRegulate, Bool.and_eq_true] at hboth'
  obtain ⟨⟨hreg, -⟩, hcharges⟩ := hboth'
  have hwithin : (atTick inputs j).Within := within_after _
  obtain ⟨h0, h100⟩ := hends (j + 1 + 1) (by omega) hkn
  rw [atTick_succ inputs (j + 1)] at h0 h100 ⊢
  rw [atTick_succ inputs j] at h0 h100 ⊢
  rw [gridPower_tick_tick]
  have hreg' : (atTick inputs j).calculatePowerFlow.regulates = true := by
    rw [regulates_tick]
    exact hreg
  exact crosses_zero (gridPower_tens hwithin)
    (battery_moves hreg' h0 h100).1 (charger_moves hwithin hcharges)
    (by decide)

/-- From the first tick to the fourth the grid power is 30, 10, -10 and 10
watts. The second step is down over zero. -/
theorem crosses_zero_at_ten_third_tick :
    let inputs : List StandardInput :=
      [.toggleInverter, .toggleBattery, .toggleInverterClamp,
        .toggleEVCharger, .toggleChargerClamp, .scene .tick, .scene .tick,
        .scene .tick, .scene .toggleHouseConsumption, .toggleChargerOnOff,
        .toggleChargerMode]
    (atTick inputs 2).gridPower = 10 ∧ (atTick inputs 3).gridPower = -10 := by
  intro inputs
  have hends : BetweenEnds inputs 3 := by
    intro k h1 h3
    obtain rfl | rfl | rfl : k = 1 ∨ k = 2 ∨ k = 3 := by omega
    all_goals decide
  exact (crosses_zero_at_ten inputs 3 (by decide) hends 2 (by decide)
    (by decide)).1 (by decide)

/-- So the grid power does pass zero, after the second tick and on a page that
only what it offers was done to. -/
theorem hunts_at_ten : ¬ ∀ (inputs : List StandardInput) (n : Nat),
    Along step Offered {} inputs → (after inputs).bothRegulate = true →
    BetweenEnds inputs n →
    ∀ k, 2 ≤ k → k < n →
      ¬ (0 < (atTick inputs k).gridPower ∧
        (atTick inputs (k + 1)).gridPower < 0) := by
  intro h
  let inputs : List StandardInput :=
    [.toggleInverter, .toggleBattery, .toggleInverterClamp, .toggleEVCharger,
      .toggleChargerClamp, .scene .tick, .scene .tick, .scene .tick,
      .scene .toggleHouseConsumption, .toggleChargerOnOff, .toggleChargerMode]
  have hends : BetweenEnds inputs 3 := by
    intro k h1 h3
    obtain rfl | rfl | rfl : k = 1 ∨ k = 2 ∨ k = 3 := by omega
    all_goals decide
  exact h inputs 3 (by decide) (by decide) hends 2 (by decide) (by decide)
    (by decide)

end Standard

end SmartHome.Inverter
