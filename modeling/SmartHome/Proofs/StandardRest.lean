import SmartHome.Proofs.Hunting
import SmartHome.Proofs.Tracking

/-!
# The standard page comes to rest

Left alone, with the checkboxes, the slider and the switches where they are,
the standard page too gets to a state that further ticks do not change. The
stages are those of the other page, but the battery goes by a meter that the
charger is behind, and there are three ways through the first of them: the
battery is not regulated at all; the charger draws what it does and the
battery is alone with what is left (`alone_iterate`); or both act on the
meter, and the hunting has to come to its end (`hunts_iterate`).

At rest the grid power is what neither of them can do anything about. Power
is sold only if a regulated battery is full and bought only if it is empty,
and the charger in ECO mode leaves nothing to be sold and takes nothing that
is bought.
-/

namespace SmartHome.Inverter.Standard

open Machine Control

variable {s : Standard}

/-- What a tick only reads. -/
def settings (s : Standard) :
    CloudCover × Bool × Bool × Bool × Bool × Bool × Bool × Bool × Bool :=
  (s.cloudCover, s.isHouseTurnedOn, s.isChargerTurnedOn,
    s.isChargerEcoModeTurnedOn, s.showInverter, s.showBattery, s.showCharger,
    s.showChargerClamp, s.showInverterClamp)

/-- What the panels and the house leave between them. -/
def balance (s : Standard) : Int := s.nextPv - s.nextHouse

/-- What the charger draws in the end. -/
def finalEv (s : Standard) : Int :=
  if s.isChargerTurnedOn then
    if s.isChargerEcoModeTurnedOn then
      if s.showChargerClamp then max 0 s.balance else 0
    else evFastPowerConsumption
  else 0

section Settings

theorem settings_tick (s : Standard) :
    s.calculatePowerFlow.settings = s.settings := by
  rw [calculatePowerFlow_eq]
  rfl

theorem settings_iterate (s : Standard) (n : Nat) :
    (calculatePowerFlow^[n] s).settings = s.settings :=
  @iterate_inv _ _ (fun k => k.settings = s.settings)
    (fun k hk => (settings_tick k).trans hk) s rfl n

/-- All that is computed from the settings alone. -/
structure Alike (k s : Standard) : Prop where
  inverter : k.showInverter = s.showInverter
  regulates : k.regulates = s.regulates
  charges : k.charges = s.charges
  pv : k.nextPv = s.nextPv
  house : k.nextHouse = s.nextHouse
  balance : k.balance = s.balance
  finalEv : k.finalEv = s.finalEv

theorem alike {k : Standard} (h : k.settings = s.settings) : k.Alike s := by
  simp only [settings, Prod.mk.injEq] at h
  obtain ⟨hcloud, hhouse, hon, heco, hinv, hbattery, -, hclamp, hinvclamp⟩ :=
    h
  have hpv : k.nextPv = s.nextPv := by rw [nextPv, nextPv, hinv, hcloud]
  have hnext : k.nextHouse = s.nextHouse := by
    rw [nextHouse, nextHouse, hhouse]
  have hbalance : k.balance = s.balance := by
    rw [balance, balance, hpv, hnext]
  refine ⟨hinv, ?_, ?_, hpv, hnext, hbalance, ?_⟩
  · rw [regulates, regulates, hinv, hbattery, hinvclamp]
  · rw [charges, charges, hon, heco, hclamp]
  · rw [finalEv, finalEv, hon, heco, hclamp, hbalance]

theorem alike_tick (s : Standard) : s.calculatePowerFlow.Alike s :=
  alike s.settings_tick

theorem balance_tens (s : Standard) : 10 ∣ s.balance := by
  have hpv : 10 ∣ s.nextPv := by
    unfold nextPv
    split
    · exact Int.dvd_mul_right 10 _
    · exact Int.dvd_zero 10
  have hhouse : 10 ∣ s.nextHouse := by
    unfold nextHouse housePowerConsumption
    split <;> omega
  exact Int.dvd_sub hpv hhouse

theorem finalEv_of_charges (h : s.charges = true) :
    s.finalEv = max 0 s.balance := by
  simp only [charges, Bool.and_eq_true] at h
  rw [finalEv, if_pos h.1.1, if_pos h.1.2, if_pos h.2]

/-- A charger that does not follow the meter draws what it does at once. -/
theorem evPower_of_not_charges (h : s.charges = false) :
    s.calculatePowerFlow.evPower = s.finalEv := by
  rw [evPower_tick, nextEv, finalEv]
  split
  next hon =>
    split
    next heco =>
      rw [charges, hon, heco, Bool.true_and, Bool.true_and] at h
      rw [if_neg (ne_true_of_eq_false h), if_neg (ne_true_of_eq_false h)]
    next => rfl
  next => rfl

end Settings

/-! ## The battery

`s` is the page before a tick and `s.calculatePowerFlow` after it, as in the
regulation of the page. -/

theorem surplus_eq_balance
    (h : s.showInverter = true → s.nextBattery.batteryPower = 0) :
    s.surplus = s.balance := by
  rw [surplus, balance, nextSolar]
  cases hinv : s.showInverter with
  | true => rw [h hinv, Int.sub_zero, if_pos rfl]
  | false =>
      rw [nextPv, hinv]
      rfl

theorem surplus_of_regulates (h : s.regulates = true) :
    s.surplus = s.balance - s.nextBattery.batteryPower := by
  simp only [regulates, Bool.and_eq_true] at h
  rw [surplus, balance, nextSolar, if_pos h.1.1]
  omega

/-- The charger, over the tick that is over, moved by the meter or not at
all, and a regulated battery is at rest. -/
structure BatteryRests (s : Standard) : Prop where
  within : s.Within
  moves : Moves 10 s.calculatePowerFlow.gridPower
    (s.calculatePowerFlow.evPower - s.evPower)
  rests : s.regulates = true →
    s.calculatePowerFlow.toBattery.AtRest s.calculatePowerFlow.gridPower

/-- The battery stays as it is. -/
theorem BatteryRests.toBattery_tick (h : s.BatteryRests) :
    s.calculatePowerFlow.calculatePowerFlow.toBattery =
      s.calculatePowerFlow.toBattery := by
  cases hreg : s.regulates with
  | true =>
      have hreg' := (alike_tick s).regulates.trans hreg
      rw [Standard.toBattery_tick, nextBattery_of_regulates hreg',
        (h.rests hreg).regulate_eq_self (h.within.step (.scene .tick)).battery]
  | false =>
      rw [Standard.toBattery_tick, nextBattery]
      simp only [showInverter_tick, showBattery_tick, showInverterClamp_tick]
      rw [regulates, Bool.and_assoc] at hreg
      rw [Standard.toBattery_tick, nextBattery]
      cases hinv : s.showInverter with
      | true =>
          rw [hinv, Bool.true_and] at hreg
          rw [hreg]
          rfl
      | false => rfl

theorem BatteryRests.surplus_tick (h : s.BatteryRests) :
    s.calculatePowerFlow.surplus = s.balance := by
  rw [← (alike_tick s).balance]
  apply surplus_eq_balance
  intro hinv
  rw [showInverter_tick] at hinv
  cases hreg : s.regulates with
  | true =>
      rw [← Standard.toBattery_tick, h.toBattery_tick, (h.rests hreg).power]
  | false =>
      rw [regulates, hinv, Bool.true_and] at hreg
      simp only [nextBattery, showInverter_tick, showBattery_tick,
        showInverterClamp_tick, hinv, hreg]
      rfl

theorem BatteryRests.tick (h : s.BatteryRests) :
    s.calculatePowerFlow.BatteryRests := by
  have hwithin : s.calculatePowerFlow.Within := h.within.step (.scene .tick)
  refine ⟨hwithin, charger_moves_again hwithin, ?_⟩
  intro hreg
  obtain ⟨hpower, hfull, hempty⟩ := h.rests ((alike_tick s).regulates ▸ hreg)
  have hmoves := h.moves
  have htens := gridPower_tens h.within
  have hgrid := gridPower_tick_tick s
  rw [h.toBattery_tick] at hgrid ⊢
  unfold Moves at hmoves
  refine ⟨hpower, fun hpos => hfull ?_, fun hneg => hempty ?_⟩
  · omega
  · omega

/-! ### With the charger out of the way -/

/-- The charger draws what it will go on drawing. -/
structure Alone (s : Standard) : Prop where
  within : s.Within
  regulates : s.regulates = true
  charges : s.charges = false
  ev : s.evPower = s.finalEv

theorem Alone.tick (h : s.Alone) : s.calculatePowerFlow.Alone := by
  obtain ⟨hwithin, hreg, hcharges, -⟩ := h
  have halike := alike_tick s
  refine ⟨hwithin.step (.scene .tick), halike.regulates.trans hreg,
    halike.charges.trans hcharges, ?_⟩
  rw [evPower_of_not_charges hcharges, halike.finalEv]

theorem Alone.gridPower_tick (h : s.Alone) :
    s.calculatePowerFlow.gridPower =
      s.balance - s.finalEv - s.calculatePowerFlow.batteryPower := by
  rw [Standard.gridPower_tick, surplus_of_regulates h.regulates, h.ev,
    toBattery_tick]
  omega

theorem Alone.toBattery_tick (h : s.Alone) :
    s.calculatePowerFlow.calculatePowerFlow.toBattery =
      s.calculatePowerFlow.toBattery.left (s.balance - s.finalEv) := by
  rw [Standard.toBattery_tick, nextBattery_of_regulates h.tick.regulates,
    h.gridPower_tick]
  rfl

theorem alone_iterate (h : s.Alone) (n : Nat) :
    (calculatePowerFlow (calculatePowerFlow^[n] s)).toBattery =
      (Battery.left (s.balance - s.finalEv))^[n]
        s.calculatePowerFlow.toBattery := by
  induction n generalizing s with
  | zero => rfl
  | succ n ih =>
      have halike := alike_tick s
      rw [Function.iterate_succ_apply, Function.iterate_succ_apply, ih h.tick,
        halike.balance, halike.finalEv, h.toBattery_tick]

theorem Alone.batteryRests (h : s.Alone) {n : Nat} (hn : 204 ≤ n) :
    (calculatePowerFlow^[n] s).BatteryRests := by
  have halone : (calculatePowerFlow^[n] s).Alone :=
    iterate_inv (fun _ h => h.tick) h n
  have halike := alike (settings_iterate s n)
  have htens : 10 ∣ s.balance - s.finalEv := by
    rw [← h.ev]
    exact Int.dvd_sub s.balance_tens h.within.ev_tens
  have hwithin : s.calculatePowerFlow.Within := h.within.step (.scene .tick)
  have hrests := hwithin.battery.atRest htens hn
  rw [← alone_iterate h n] at hrests
  have hgrid := halone.gridPower_tick
  rw [hrests.power, Int.sub_zero, halike.balance, halike.finalEv] at hgrid
  refine ⟨halone.within, Or.inl ?_, fun _ => hgrid ▸ hrests⟩
  rw [evPower_of_not_charges halone.charges, halone.ev, Int.sub_self]

/-! ### With the charger stepping too -/

theorem steps_tick (h : s.Within) (hreg : s.regulates = true)
    (hcharges : s.charges = true) :
    Steps s.calculatePowerFlow.toBattery s.calculatePowerFlow.gridPower
      s.calculatePowerFlow.calculatePowerFlow.toBattery
      s.calculatePowerFlow.calculatePowerFlow.gridPower := by
  have hreg' := (alike_tick s).regulates.trans hreg
  refine ⟨?_, s.calculatePowerFlow.evPower - s.evPower, gridPower_tick_tick s,
    ?_⟩
  · rw [Standard.toBattery_tick s.calculatePowerFlow,
      nextBattery_of_regulates hreg']
  · have hev := h.ev_nonneg
    have htens := h.ev_tens
    rw [evPower_tick, nextEv_of_charges hcharges]
    refine ⟨fun hpos => ?_, fun hzero => ?_, fun hneg => ?_⟩
    · rw [if_pos hpos]
      omega
    · rw [if_neg (by omega), if_neg (by omega), Int.sub_self]
    · rw [if_neg (by omega), if_pos hneg]
      omega

/-- Both act on the meter, and at most `n` ticks of it are left. -/
structure Hunting (s : Standard) (n : Nat) : Prop where
  within : s.Within
  regulates : s.regulates = true
  charges : s.charges = true
  hunts : Hunts s.calculatePowerFlow.toBattery s.calculatePowerFlow.gridPower n

theorem Hunting.tick {n : Nat} (h : s.Hunting n) :
    s.calculatePowerFlow.Hunting (n - 1) := by
  have hwithin : s.calculatePowerFlow.Within := h.within.step (.scene .tick)
  have halike := alike_tick s
  exact ⟨hwithin, halike.regulates.trans h.regulates,
    halike.charges.trans h.charges,
    h.hunts.next (steps_tick h.within h.regulates h.charges) hwithin.battery
      (gridPower_tens h.within)⟩

theorem Hunting.batteryRests (h : s.Hunting 0) : s.BatteryRests := by
  have hwithin : s.calculatePowerFlow.Within := h.within.step (.scene .tick)
  exact ⟨h.within, charger_moves h.within h.charges,
    fun _ => h.hunts.atRest hwithin.battery⟩

theorem hunts_iterate (h : s.Within) (hreg : s.regulates = true)
    (hcharges : s.charges = true) {n : Nat} (hn : 510 ≤ n) :
    (calculatePowerFlow^[n] s).BatteryRests := by
  have hwithin : s.calculatePowerFlow.Within := h.step (.scene .tick)
  have hcount := counts_down (fun s n => @Hunting.tick s n)
    ⟨h, hreg, hcharges, hunts hwithin.battery (gridPower_tens h)⟩ n
  rw [Nat.sub_eq_zero_of_le hn] at hcount
  exact hcount.batteryRests

theorem Within.batteryRests (h : s.Within) {n : Nat} (hn : 511 ≤ n) :
    (calculatePowerFlow^[n] s).BatteryRests := by
  obtain ⟨m, rfl⟩ : ∃ m, n = m + 1 := ⟨n - 1, by omega⟩
  have hwithin : s.calculatePowerFlow.Within := h.step (.scene .tick)
  rw [Function.iterate_succ_apply]
  cases hreg : s.calculatePowerFlow.regulates with
  | true =>
      cases hcharges : s.calculatePowerFlow.charges with
      | true => exact hunts_iterate hwithin hreg hcharges (by omega)
      | false =>
          have halike := alike_tick s
          have hev :=
            evPower_of_not_charges (halike.charges.symm.trans hcharges)
          refine Alone.batteryRests ⟨hwithin, hreg, hcharges, ?_⟩ (by omega)
          rw [hev, halike.finalEv]
  | false =>
      have hrests : s.calculatePowerFlow.BatteryRests :=
        ⟨hwithin, charger_moves_again hwithin,
          fun htrue => absurd htrue (ne_true_of_eq_false hreg)⟩
      exact iterate_inv (fun _ h => h.tick) hrests m

/-! ## The charger -/

theorem BatteryRests.charger (h : s.BatteryRests) {n : Nat} (hn : 700 ≤ n) :
    (calculatePowerFlow (calculatePowerFlow^[n] s)).evPower = s.finalEv := by
  cases hcharges : s.charges with
  | true =>
      have hwithin : s.calculatePowerFlow.Within :=
        h.within.step (.scene .tick)
      have hev := hwithin.ev_nonneg
      have hev_le := hwithin.ev_le
      have hbalance : s.balance ≤ 1000 := by
        have hcloud := s.cloudCover.le_hundred
        unfold balance nextPv nextHouse housePowerConsumption
        split <;> split <;> omega
      rw [finalEv_of_charges hcharges]
      refine @approaches_settles _ calculatePowerFlow
        (fun k => k.calculatePowerFlow.evPower) (max 0 s.balance)
        (fun k => k.BatteryRests ∧ k.settings = s.settings)
        (fun k hk => ⟨hk.1.tick, (settings_tick k).trans hk.2⟩) ?_ ?_ s
        ⟨h, rfl⟩ n (by omega)
      · intro k hk
        have hk' := alike hk.2
        have hwithin : k.calculatePowerFlow.Within :=
          hk.1.within.step (.scene .tick)
        rw [← hk'.balance, ← hk.1.surplus_tick]
        apply hwithin.tracks
        rw [(alike_tick k).charges, hk'.charges, hcharges]
      · intro k hk
        have hwithin : k.calculatePowerFlow.Within :=
          hk.1.within.step (.scene .tick)
        have htens := hwithin.ev_tens
        have hbalance := s.balance_tens
        omega
  | false =>
      have hk := alike (settings_iterate s n)
      rw [evPower_of_not_charges (hk.charges.trans hcharges), hk.finalEv]

/-- And there it stays. -/
theorem BatteryRests.evPower_tick (h : s.BatteryRests)
    (hev : s.calculatePowerFlow.evPower = s.finalEv) :
    s.calculatePowerFlow.calculatePowerFlow.evPower = s.finalEv := by
  have halike := alike_tick s
  cases hcharges : s.charges with
  | true =>
      have hwithin : s.calculatePowerFlow.Within :=
        h.within.step (.scene .tick)
      have htracks := hwithin.tracks (halike.charges.trans hcharges)
      rw [h.surplus_tick, ← finalEv_of_charges hcharges, hev] at htracks
      unfold Approaches at htracks
      omega
  | false =>
      rw [evPower_of_not_charges (halike.charges.trans hcharges),
        halike.finalEv]

/-! ## The page -/

/-- The page is at rest. -/
structure AtRest (s : Standard) : Prop where
  battery : s.regulates = true → s.toBattery.AtRest s.gridPower
  pv : s.pvPower = s.nextPv
  solar : s.solarSystemPower = s.nextPv
  house : s.housePower = s.nextHouse
  ev : s.evPower = s.finalEv
  grid : s.gridPower = s.balance - s.evPower

/-- With the charger there a tick earlier, the page is at rest two ticks on
from `s`. -/
theorem BatteryRests.atRest (h : s.BatteryRests)
    (hev : s.calculatePowerFlow.evPower = s.finalEv) :
    s.calculatePowerFlow.calculatePowerFlow.AtRest := by
  have hone := alike_tick s
  have htwo := alike_tick s.calculatePowerFlow
  have hev' := h.evPower_tick hev
  have hsurplus := h.surplus_tick
  refine ⟨?_, ?_, ?_, ?_, ?_, ?_⟩
  · intro hreg
    exact h.tick.rests (htwo.regulates ▸ hreg)
  · rw [htwo.pv, calculatePowerFlow_eq]
  · rw [htwo.pv, calculatePowerFlow_eq]
    have hhouse := hone.house
    have hpv := hone.pv
    rw [surplus] at hsurplus
    rw [balance] at hsurplus
    show s.calculatePowerFlow.nextSolar = _
    omega
  · rw [htwo.house, calculatePowerFlow_eq]
  · rw [htwo.finalEv, hone.finalEv, hev']
  · rw [htwo.balance, hone.balance, hev', gridPower_tick, hsurplus, hev]

/-- And nothing changes any more. -/
theorem BatteryRests.tick_eq (h : s.BatteryRests)
    (hev : s.calculatePowerFlow.evPower = s.finalEv) :
    let k := s.calculatePowerFlow.calculatePowerFlow
    k.calculatePowerFlow = k := by
  intro k
  have hrest : k.AtRest := h.atRest hev
  have hone := alike_tick s
  have htwo : k.Alike s.calculatePowerFlow := alike_tick _
  have hsurplus : k.surplus = k.balance :=
    h.tick.surplus_tick.trans htwo.balance.symm
  have hbattery : k.nextBattery = k.toBattery := by
    rw [← Standard.toBattery_tick k]
    exact h.tick.toBattery_tick
  have hsolar : k.nextSolar = k.solarSystemPower := by
    have hsolar := hrest.solar
    rw [surplus, balance] at hsurplus
    omega
  have hcharger : k.nextEv k.gridPower = k.evPower := by
    have hgrid : k.calculatePowerFlow.gridPower = k.gridPower := by
      rw [gridPower_tick, hsurplus, hrest.grid]
    rw [← hgrid, ← Standard.evPower_tick k, hrest.ev, htwo.finalEv]
    apply h.tick.evPower_tick
    rw [h.evPower_tick hev, hone.finalEv]
  rw [calculatePowerFlow_eq, hsurplus, ← hrest.grid, hbattery, hsolar,
    hcharger, ← hrest.pv, ← hrest.house]

theorem Within.comesToRest (h : s.Within) {n : Nat} (hn : 1213 ≤ n) :
    (calculatePowerFlow^[n] s).AtRest ∧
      (calculatePowerFlow^[n] s).calculatePowerFlow =
        calculatePowerFlow^[n] s := by
  obtain ⟨m, rfl⟩ : ∃ m, n = m + 1 + 1 := ⟨n - 2, by omega⟩
  rw [Function.iterate_succ_apply', Function.iterate_succ_apply']
  have hend : (calculatePowerFlow^[m] s).BatteryRests ∧
      (calculatePowerFlow^[m] s).calculatePowerFlow.evPower =
        (calculatePowerFlow^[m] s).finalEv := by
    refine settles_then (P := Within) (Q := BatteryRests)
      (fun _ h _ hn => h.batteryRests hn)
      (R := fun k => k.BatteryRests ∧
        k.calculatePowerFlow.evPower = k.finalEv) ?_ h
      (n := 511) (m := 700) (by omega)
    intro k hk j hj
    refine ⟨iterate_inv (fun _ h => h.tick) hk j, ?_⟩
    rw [hk.charger hj, (alike (settings_iterate k j)).finalEv]
  exact ⟨hend.1.atRest hend.2, hend.1.tick_eq hend.2⟩

theorem atTick_eq_iterate (inputs : List StandardInput) (n : Nat) :
    atTick inputs n = calculatePowerFlow^[n] (after inputs) := by
  rw [atTick, after, run_append, run_replicate]
  rfl

/-- Whatever was done to the page, 1213 ticks later it is at rest with the
settings it was left with: battery and charger do not carry the grid power
back and forth for ever. In ECO mode nothing is then sold, and only what the
house is short of is bought. -/
theorem hunting_ends (inputs : List StandardInput) (n : Nat)
    (hn : 1213 ≤ n) :
    let s := after inputs
    let k := atTick inputs n
    k.settings = s.settings ∧ k.AtRest ∧ k.calculatePowerFlow = k ∧
      (s.charges = true → k.gridPower = min 0 s.balance) := by
  intro s k
  have hk : k = calculatePowerFlow^[n] s := atTick_eq_iterate inputs n
  obtain ⟨hrest, htick⟩ := (within_after inputs).comesToRest hn
  rw [← hk] at hrest htick
  have hsettings : k.settings = s.settings := by
    rw [hk]
    exact settings_iterate s n
  refine ⟨hsettings, hrest, htick, ?_⟩
  intro hcharges
  have halike := alike hsettings
  have hgrid := hrest.grid
  rw [hrest.ev, halike.finalEv, finalEv_of_charges hcharges, halike.balance]
    at hgrid
  omega

/-- Everything fitted and the charger in ECO mode, with the sun half out. -/
theorem hunting_ends_everything_fitted :
    let inputs : List StandardInput :=
      [.toggleInverter, .toggleBattery, .toggleInverterClamp,
        .toggleEVCharger, .toggleChargerClamp, .toggleChargerOnOff,
        .toggleChargerMode, .scene (.cloudCover (.notch 5))]
    (atTick inputs 1213).calculatePowerFlow = atTick inputs 1213 ∧
      (atTick inputs 1213).gridPower = 0 := by
  intro inputs
  obtain ⟨-, -, htick, hgrid⟩ := hunting_ends inputs 1213 (Nat.le_refl 1213)
  have hbalance : min 0 (after inputs).balance = 0 := by decide
  have hcharges : (after inputs).charges = true := by decide
  exact ⟨htick, (hgrid hcharges).trans hbalance⟩

end SmartHome.Inverter.Standard
