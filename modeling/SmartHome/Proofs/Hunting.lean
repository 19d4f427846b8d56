import SmartHome.Proofs.Rest

/-!
# The hunting comes to an end

On `standard.html` the battery and the charger in ECO mode both act on the
meter, and can carry the grid power over zero and back again for as long as
the battery is between its ends. It is not so for ever, because all the while
the battery charges or discharges, and at its ends the power is thrown back
to zero.

`Hunts` counts the ticks that are left, at most. A battery that discharges
with next to nothing at the meter is falling: it goes on so until it is
empty, at a per cent in every two ticks at least. One that charges is rising
in the same way. A battery that still flows the wrong way, with more than ten
watts at the meter, first has to come up or to come down. And a battery that
is thrown back from an end with the grid power pointing away from it is back
there within four ticks, for good: by then the charger has caught up.

The charger's floor is at zero, and there it gives nothing back. So the two
ends are not quite alike: a rising battery may have to fall after all, but
not the other way round.
-/

namespace SmartHome.Inverter

/-- A tick of the battery and of the meter, with the charger stepping too. The
charger has nothing to give back when it draws nothing. -/
structure Steps (b : Battery) (grid : Int) (b' : Battery) (grid' : Int) :
    Prop where
  battery : b' = b.regulate grid
  meter : ∃ moved : Int,
    grid' = grid - (b'.batteryPower - b.batteryPower) - moved ∧
      (0 < grid → moved = 10) ∧ (grid = 0 → moved = 0) ∧
      (grid < 0 → moved = -10 ∨ moved = 0)

/-- At most `n` ticks are left until the battery is at rest. -/
inductive Hunts (b : Battery) (grid : Int) (n : Nat) : Prop where
  | quiet (power : b.batteryPower = 0)
      (full : 0 < grid → b.batteryPercentage = 100)
      (empty : grid < 0 → b.batteryPercentage = 0)
  | falling (power : b.batteryPower < 0) (grid_le : grid ≤ 10)
      (ticks : 2 * b.batteryPercentage + 5 ≤ n)
  | startsFalling (power : b.batteryPower = 0) (grid_neg : grid < 0)
      (ticks : 2 * b.batteryPercentage + 6 ≤ n)
  | rising (power : 0 < b.batteryPower) (grid_ge : -10 ≤ grid)
      (ticks : 2 * (100 - b.batteryPercentage) + 207 ≤ n)
  | startsRising (power : b.batteryPower = 0) (grid_pos : 0 < grid)
      (ticks : 2 * (100 - b.batteryPercentage) + 208 ≤ n)
  | comingUp (power : b.batteryPower < 0) (grid_ge : 20 ≤ grid)
      (ticks : 408 - b.batteryPower / 10 ≤ n)
  | comingDown (power : 0 < b.batteryPower) (grid_le : grid ≤ -20)
      (ticks : 408 + b.batteryPower / 10 ≤ n)
  | fromFull (power : b.batteryPower = -10)
      (percentage : b.batteryPercentage = 100) (grid_ge : 20 ≤ grid)
      (ticks : 4 ≤ n)
  | belowFull (power : b.batteryPower = 0)
      (percentage : b.batteryPercentage = 99) (grid_pos : 0 < grid)
      (ticks : 3 ≤ n)
  | nearlyFull (power : b.batteryPower = 10)
      (percentage : b.batteryPercentage = 99) (grid_ge : -10 ≤ grid)
      (ticks : 2 ≤ n)
  | full (power : 0 < b.batteryPower)
      (percentage : b.batteryPercentage = 100) (grid_zero : grid = 0)
      (ticks : 1 ≤ n)
  | fromEmpty (power : b.batteryPower = 10)
      (percentage : b.batteryPercentage = 0) (grid_le : grid ≤ -20)
      (ticks : 4 ≤ n)
  | aboveEmpty (power : b.batteryPower = 0)
      (percentage : b.batteryPercentage = 1) (grid_neg : grid < 0)
      (ticks : 3 ≤ n)
  | nearlyEmpty (power : b.batteryPower = -10)
      (percentage : b.batteryPercentage = 1) (grid_le : grid ≤ 10)
      (ticks : 2 ≤ n)
  | empty (power : b.batteryPower < 0)
      (percentage : b.batteryPercentage = 0) (grid_zero : grid = 0)
      (ticks : 1 ≤ n)

variable {b b' : Battery} {grid grid' : Int} {n : Nat}

theorem hunts (hb : b.Within) (htens : 10 ∣ grid) : Hunts b grid 510 := by
  obtain ⟨h0, h100, hge, hle, hp⟩ := hb
  rcases Int.lt_trichotomy b.batteryPower 0 with hneg | hzero | hpos
  · rcases Int.lt_or_le grid 20 with hlow | hhigh
    · exact .falling hneg (by omega) (by omega)
    · exact .comingUp hneg hhigh (by omega)
  · rcases Int.lt_trichotomy grid 0 with hg | hg | hg
    · exact .startsFalling hzero hg (by omega)
    · exact .quiet hzero (by omega) (by omega)
    · exact .startsRising hzero hg (by omega)
  · rcases Int.lt_or_le (-20) grid with hlow | hhigh
    · exact .rising hpos (by omega) (by omega)
    · exact .comingDown hpos hhigh (by omega)

theorem Hunts.atRest (h : Hunts b grid 0) (hb : b.Within) :
    b.AtRest grid := by
  have h0 := hb.percentage_nonneg
  have h100 := hb.percentage_le
  cases h with
  | quiet hp hfull hempty => exact ⟨hp, hfull, hempty⟩
  | _ => omega

/-! ### The meter -/

theorem Steps.surplus (h : Steps b grid b' grid') (hpos : 0 < grid) :
    grid' = grid - 10 - (b'.batteryPower - b.batteryPower) := by
  obtain ⟨moved, hgrid, hup, -, -⟩ := h.meter
  have hmoved := hup hpos
  omega

theorem Steps.even (h : Steps b grid b' grid') (hzero : grid = 0) :
    grid' = b.batteryPower - b'.batteryPower := by
  obtain ⟨moved, hgrid, -, hno, -⟩ := h.meter
  have hmoved := hno hzero
  omega

theorem Steps.short (h : Steps b grid b' grid') (hneg : grid < 0) :
    grid' = grid + 10 - (b'.batteryPower - b.batteryPower) ∨
      grid' = grid - (b'.batteryPower - b.batteryPower) := by
  obtain ⟨moved, hgrid, -, -, hdown⟩ := h.meter
  have hmoved := hdown hneg
  omega

/-! ### Falling -/

section Next

variable (hnext : Steps b grid b' grid') (hb : b.Within) (htens : 10 ∣ grid)
include hnext hb htens

theorem Hunts.of_falling (power : b.batteryPower < 0) (grid_le : grid ≤ 10)
    (ticks : 2 * b.batteryPercentage + 5 ≤ n) : Hunts b' grid' (n - 1) := by
  have hp := hb.tens
  have h0 := hb.percentage_nonneg
  obtain rfl := hnext.battery
  rcases Int.lt_trichotomy grid 0 with hneg | rfl | hpos
  · have hgrid := hnext.short hneg
    obtain ⟨hq, hp', hq'⟩ | ⟨hq, hp', hq'⟩ :=
      hb.discharging_short power hneg
    · exact .quiet hp' (by omega) (by omega)
    · exact .falling (by omega) (by omega) (by omega)
  · have hgrid := hnext.even rfl
    obtain ⟨hq, hp', hq'⟩ | ⟨hq, hp', hq'⟩ := hb.discharging_even power
    · exact .quiet hp' (by omega) (by omega)
    · exact .falling (by omega) (by omega) (by omega)
  · have hgrid := hnext.surplus hpos
    obtain ⟨hq, hp', hq'⟩ | ⟨hq, hp', hq'⟩ :=
      hb.discharging_surplus power hpos
    · exact .fromEmpty hp' hq' (by omega) (by omega)
    · rcases Int.lt_or_le (b.batteryPower + 10) 0 with hneg | hzero
      · exact .falling (by omega) (by omega) (by omega)
      · exact .startsFalling (by omega) (by omega) (by omega)

theorem Hunts.of_startsFalling (power : b.batteryPower = 0)
    (grid_neg : grid < 0) (ticks : 2 * b.batteryPercentage + 6 ≤ n) :
    Hunts b' grid' (n - 1) := by
  have h0 := hb.percentage_nonneg
  have hgrid := hnext.short grid_neg
  obtain rfl := hnext.battery
  obtain ⟨hq, hp', hq'⟩ | ⟨hq, hp', hq'⟩ := hb.idle_short power grid_neg
  · exact .quiet hp' (by omega) (by omega)
  · exact .falling (by omega) (by omega) (by omega)

/-! ### Rising -/

theorem Hunts.of_rising (power : 0 < b.batteryPower) (grid_ge : -10 ≤ grid)
    (ticks : 2 * (100 - b.batteryPercentage) + 207 ≤ n) :
    Hunts b' grid' (n - 1) := by
  have hp := hb.tens
  have h100 := hb.percentage_le
  obtain rfl := hnext.battery
  rcases Int.lt_trichotomy grid 0 with hneg | rfl | hpos
  · have hgrid := hnext.short hneg
    obtain ⟨hq, hp', hq'⟩ | ⟨hq, hp', hq'⟩ := hb.charging_short power hneg
    · rcases Int.lt_or_le grid' 20 with hlow | hhigh
      -- The last watts of the charger are gone: all the way down.
      · exact .falling (by omega) (by omega) (by omega)
      · exact .fromFull hp' hq' hhigh (by omega)
    · rcases Int.lt_or_le 10 b.batteryPower with hpos | hzero
      · exact .rising (by omega) (by omega) (by omega)
      · rcases Int.lt_or_le 0 grid' with hpos | hzero
        · exact .startsRising (by omega) hpos (by omega)
        · exact .quiet (by omega) (by omega) (by omega)
  · have hgrid := hnext.even rfl
    obtain ⟨hq, hp', hq'⟩ | ⟨hq, hp', hq'⟩ := hb.charging_even power
    · exact .quiet hp' (by omega) (by omega)
    · exact .rising (by omega) (by omega) (by omega)
  · have hgrid := hnext.surplus hpos
    obtain ⟨hq, hp', hq'⟩ | ⟨hq, hp', hq'⟩ :=
      hb.charging_surplus power hpos
    · exact .quiet hp' (by omega) (by omega)
    · exact .rising (by omega) (by omega) (by omega)

theorem Hunts.of_startsRising (power : b.batteryPower = 0)
    (grid_pos : 0 < grid)
    (ticks : 2 * (100 - b.batteryPercentage) + 208 ≤ n) :
    Hunts b' grid' (n - 1) := by
  have h100 := hb.percentage_le
  have hgrid := hnext.surplus grid_pos
  obtain rfl := hnext.battery
  obtain ⟨hq, hp', hq'⟩ | ⟨hq, hp', hq'⟩ := hb.idle_surplus power grid_pos
  · exact .quiet hp' (by omega) (by omega)
  · exact .rising (by omega) (by omega) (by omega)

/-! ### Still on the wrong side -/

theorem Hunts.of_comingUp (power : b.batteryPower < 0) (grid_ge : 20 ≤ grid)
    (ticks : 408 - b.batteryPower / 10 ≤ n) : Hunts b' grid' (n - 1) := by
  have hp := hb.tens
  have h0 := hb.percentage_nonneg
  have h100 := hb.percentage_le
  have hpos : 0 < grid := by omega
  have hgrid := hnext.surplus hpos
  obtain rfl := hnext.battery
  obtain ⟨hq, hp', hq'⟩ | ⟨hq, hp', hq'⟩ :=
    hb.discharging_surplus power hpos
  · rcases Int.lt_or_le (-20) grid' with hhigh | hlow
    · exact .rising (by omega) (by omega) (by omega)
    · exact .fromEmpty hp' hq' hlow (by omega)
  · rcases Int.lt_or_le (b.batteryPower + 10) 0 with hneg | hzero
    · rcases Int.lt_or_le grid' 20 with hlow | hhigh
      · exact .falling (by omega) (by omega) (by omega)
      · exact .comingUp (by omega) hhigh (by omega)
    · rcases Int.lt_or_le 0 grid' with hpos | hzero
      · exact .startsRising (by omega) hpos (by omega)
      · exact .quiet (by omega) (by omega) (by omega)

theorem Hunts.of_comingDown (power : 0 < b.batteryPower)
    (grid_le : grid ≤ -20) (ticks : 408 + b.batteryPower / 10 ≤ n) :
    Hunts b' grid' (n - 1) := by
  have hp := hb.tens
  have h0 := hb.percentage_nonneg
  have h100 := hb.percentage_le
  have hneg : grid < 0 := by omega
  have hgrid := hnext.short hneg
  obtain rfl := hnext.battery
  obtain ⟨hq, hp', hq'⟩ | ⟨hq, hp', hq'⟩ := hb.charging_short power hneg
  · rcases Int.lt_or_le grid' 20 with hlow | hhigh
    · exact .falling (by omega) (by omega) (by omega)
    · exact .fromFull hp' hq' hhigh (by omega)
  · rcases Int.lt_or_le 10 b.batteryPower with hpos | hzero
    · rcases Int.lt_or_le (-20) grid' with hhigh | hlow
      · exact .rising (by omega) (by omega) (by omega)
      · exact .comingDown (by omega) hlow (by omega)
    · rcases Int.lt_or_le grid' 0 with hneg | hzero
      · exact .startsFalling (by omega) hneg (by omega)
      · exact .quiet (by omega) (by omega) (by omega)

/-! ### Thrown back at an end -/

/-! The charger takes what is too much, or gives back what is missing, before
the battery gets anywhere again. -/

theorem Hunts.of_fromFull (power : b.batteryPower = -10)
    (percentage : b.batteryPercentage = 100) (grid_ge : 20 ≤ grid)
    (ticks : 4 ≤ n) : Hunts b' grid' (n - 1) := by
  have hpos : 0 < grid := by omega
  have hgrid := hnext.surplus hpos
  obtain rfl := hnext.battery
  have hbattery := hb.discharging_surplus (by omega) hpos
  rcases Int.lt_or_le 0 grid' with hpos | hzero
  · exact .belowFull (by omega) (by omega) hpos (by omega)
  · exact .quiet (by omega) (by omega) (by omega)

theorem Hunts.of_belowFull (power : b.batteryPower = 0)
    (percentage : b.batteryPercentage = 99) (grid_pos : 0 < grid)
    (ticks : 3 ≤ n) : Hunts b' grid' (n - 1) := by
  have hgrid := hnext.surplus grid_pos
  obtain rfl := hnext.battery
  have hbattery := hb.idle_surplus power grid_pos
  exact .nearlyFull (by omega) (by omega) (by omega) (by omega)

theorem Hunts.of_nearlyFull (power : b.batteryPower = 10)
    (percentage : b.batteryPercentage = 99) (grid_ge : -10 ≤ grid)
    (ticks : 2 ≤ n) : Hunts b' grid' (n - 1) := by
  have hp : 0 < b.batteryPower := by omega
  obtain rfl := hnext.battery
  rcases Int.lt_trichotomy grid 0 with hneg | rfl | hpos
  · have hgrid := hnext.short hneg
    have hbattery := hb.charging_short hp hneg
    exact .quiet (by omega) (by omega) (by omega)
  · have hgrid := hnext.even rfl
    have hbattery := hb.charging_even hp
    exact .full (by omega) (by omega) (by omega) (by omega)
  · have hgrid := hnext.surplus hpos
    have hbattery := hb.charging_surplus hp hpos
    exact .quiet (by omega) (by omega) (by omega)

theorem Hunts.of_full (power : 0 < b.batteryPower)
    (percentage : b.batteryPercentage = 100) (grid_zero : grid = 0) :
    Hunts b' grid' (n - 1) := by
  have hgrid := hnext.even grid_zero
  obtain rfl := hnext.battery
  subst grid_zero
  have hbattery := hb.charging_even power
  exact .quiet (by omega) (by omega) (by omega)

theorem Hunts.of_fromEmpty (power : b.batteryPower = 10)
    (percentage : b.batteryPercentage = 0) (grid_le : grid ≤ -20)
    (ticks : 4 ≤ n) : Hunts b' grid' (n - 1) := by
  have hneg : grid < 0 := by omega
  have hgrid := hnext.short hneg
  obtain rfl := hnext.battery
  have hbattery := hb.charging_short (by omega) hneg
  rcases Int.lt_or_le grid' 0 with hneg | hzero
  · exact .aboveEmpty (by omega) (by omega) hneg (by omega)
  · exact .quiet (by omega) (by omega) (by omega)

theorem Hunts.of_aboveEmpty (power : b.batteryPower = 0)
    (percentage : b.batteryPercentage = 1) (grid_neg : grid < 0)
    (ticks : 3 ≤ n) : Hunts b' grid' (n - 1) := by
  have hgrid := hnext.short grid_neg
  obtain rfl := hnext.battery
  have hbattery := hb.idle_short power grid_neg
  exact .nearlyEmpty (by omega) (by omega) (by omega) (by omega)

theorem Hunts.of_nearlyEmpty (power : b.batteryPower = -10)
    (percentage : b.batteryPercentage = 1) (grid_le : grid ≤ 10)
    (ticks : 2 ≤ n) : Hunts b' grid' (n - 1) := by
  have hp : b.batteryPower < 0 := by omega
  obtain rfl := hnext.battery
  rcases Int.lt_trichotomy grid 0 with hneg | rfl | hpos
  · have hgrid := hnext.short hneg
    have hbattery := hb.discharging_short hp hneg
    exact .quiet (by omega) (by omega) (by omega)
  · have hgrid := hnext.even rfl
    have hbattery := hb.discharging_even hp
    exact .empty (by omega) (by omega) (by omega) (by omega)
  · have hgrid := hnext.surplus hpos
    have hbattery := hb.discharging_surplus hp hpos
    exact .quiet (by omega) (by omega) (by omega)

theorem Hunts.of_empty (power : b.batteryPower < 0)
    (percentage : b.batteryPercentage = 0) (grid_zero : grid = 0) :
    Hunts b' grid' (n - 1) := by
  have hgrid := hnext.even grid_zero
  obtain rfl := hnext.battery
  subst grid_zero
  have hbattery := hb.discharging_even power
  exact .quiet (by omega) (by omega) (by omega)

/-! ### At rest -/

theorem Hunts.of_quiet (power : b.batteryPower = 0)
    (full : 0 < grid → b.batteryPercentage = 100)
    (empty : grid < 0 → b.batteryPercentage = 0) : Hunts b' grid' n := by
  obtain rfl := hnext.battery
  rcases Int.lt_trichotomy grid 0 with hneg | rfl | hpos
  · have hgrid := hnext.short hneg
    have hbattery := hb.idle_short power hneg
    exact .quiet (by omega) (by omega) (by omega)
  · have hgrid := hnext.even rfl
    have hbattery := hb.idle_even power
    exact .quiet (by omega) (by omega) (by omega)
  · have hgrid := hnext.surplus hpos
    have hbattery := hb.idle_surplus power hpos
    exact .quiet (by omega) (by omega) (by omega)

/-- Every tick is one less. -/
theorem Hunts.next (h : Hunts b grid n) : Hunts b' grid' (n - 1) := by
  cases h with
  | quiet hp hfull hempty => exact .of_quiet hnext hb htens hp hfull hempty
  | falling hp hg hn => exact .of_falling hnext hb htens hp hg hn
  | startsFalling hp hg hn =>
      exact .of_startsFalling hnext hb htens hp hg hn
  | rising hp hg hn => exact .of_rising hnext hb htens hp hg hn
  | startsRising hp hg hn => exact .of_startsRising hnext hb htens hp hg hn
  | comingUp hp hg hn => exact .of_comingUp hnext hb htens hp hg hn
  | comingDown hp hg hn => exact .of_comingDown hnext hb htens hp hg hn
  | fromFull hp hq hg hn => exact .of_fromFull hnext hb htens hp hq hg hn
  | belowFull hp hq hg hn => exact .of_belowFull hnext hb htens hp hq hg hn
  | nearlyFull hp hq hg hn => exact .of_nearlyFull hnext hb htens hp hq hg hn
  | full hp hq hg => exact .of_full hnext hb htens hp hq hg
  | fromEmpty hp hq hg hn => exact .of_fromEmpty hnext hb htens hp hq hg hn
  | aboveEmpty hp hq hg hn => exact .of_aboveEmpty hnext hb htens hp hq hg hn
  | nearlyEmpty hp hq hg hn =>
      exact .of_nearlyEmpty hnext hb htens hp hq hg hn
  | empty hp hq hg => exact .of_empty hnext hb htens hp hq hg

end Next

end SmartHome.Inverter
