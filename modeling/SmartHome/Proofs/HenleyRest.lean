import SmartHome.Proofs.Rest

/-!
# The Henley page comes to rest

Left alone, with the slider and the switches where they are, the page goes on
computing. What it is computing towards is a state in which nothing flows
into or out of the battery, which is full if the panels give more than the
house takes and empty if they give less, and in which the charger, in ECO
mode, takes exactly what is left over. This file shows that it gets there
from every state that can be reached, and how soon.

On this page the charger does not disturb the battery, so there are two
stages: first the battery comes to rest (`batteryRests_iterate`), and then,
with the house constant, the charger approaches a target that stays where it
is (`BatteryRests.charger`).
-/

namespace SmartHome.Inverter

open Machine Control

namespace Henley

variable {s : Henley}

/-- What the panels and the house leave between them. -/
def balance (s : Henley) : Int :=
  s.nextPv - if s.isHouseTurnedOn then housePowerConsumption else 0

theorem balance_tens (s : Henley) : 10 ∣ s.balance := by
  unfold balance nextPv housePowerConsumption
  split <;> omega

/-- What a tick only reads. -/
def settings (s : Henley) : CloudCover × Bool × Bool × Bool :=
  (s.cloudCover, s.isHouseTurnedOn, s.isChargerTurnedOn,
    s.isChargerEcoModeTurnedOn)

theorem settings_tick (s : Henley) :
    s.calculatePowerFlow.settings = s.settings := by
  rw [calculatePowerFlow_eq]
  rfl

theorem settings_iterate (s : Henley) (n : Nat) :
    (calculatePowerFlow^[n] s).settings = s.settings :=
  @iterate_inv _ _ (fun k => k.settings = s.settings)
    (fun k hk => (settings_tick k).trans hk) s rfl n

/-- The settings are all that the balance depends on. -/
theorem balance_congr {k : Henley} (h : k.settings = s.settings) :
    k.nextPv = s.nextPv ∧ k.balance = s.balance := by
  injection h with hcloud h
  injection h with hhouse _
  have hpv : k.nextPv = s.nextPv := by rw [nextPv, nextPv, hcloud]
  exact ⟨hpv, by rw [balance, balance, hpv, hhouse]⟩

/-- The page as a tick leaves it, if nothing is touched after it. -/
structure Measured (s : Henley) : Prop where
  within : s.Within
  tens : s.Tens
  pv : s.pvPower = s.nextPv
  solar : s.solarSystemPower = s.nextPv - s.batteryPower
  house : s.housePower = s.balance - s.batteryPower

theorem measured_tick (hwithin : s.Within) (htens : s.Tens) :
    s.calculatePowerFlow.Measured := by
  refine ⟨hwithin.step (.scene .tick), htens.step hwithin (.scene .tick),
    ?_, ?_, ?_⟩
  · rw [(balance_congr s.settings_tick).1, calculatePowerFlow_eq]
  · rw [(balance_congr s.settings_tick).1, calculatePowerFlow_eq]
    rfl
  · rw [(balance_congr s.settings_tick).2, calculatePowerFlow_eq]
    show s.nextHouse = s.balance - s.nextBattery.batteryPower
    unfold nextHouse balance nextSolar
    split <;> omega

theorem Measured.tick (h : s.Measured) : s.calculatePowerFlow.Measured :=
  measured_tick h.within h.tens

/-- From then on the battery goes its own way. -/
theorem Measured.toBattery_tick (h : s.Measured) :
    s.calculatePowerFlow.toBattery = s.toBattery.left s.balance := by
  rw [calculatePowerFlow_eq]
  show s.toBattery.regulate s.housePower = _
  rw [h.house]
  rfl

theorem Measured.toBattery_iterate (h : s.Measured) (n : Nat) :
    (calculatePowerFlow^[n] s).toBattery =
      (Battery.left s.balance)^[n] s.toBattery := by
  induction n generalizing s with
  | zero => rfl
  | succ n ih =>
      rw [Function.iterate_succ_apply, Function.iterate_succ_apply, ih h.tick,
        (balance_congr s.settings_tick).2, h.toBattery_tick]

/-! ### The stages -/

/-- Only the charger still moves. -/
structure BatteryRests (s : Henley) : Prop extends Measured s where
  rests : s.toBattery.AtRest s.balance

theorem BatteryRests.tick (h : s.BatteryRests) :
    s.calculatePowerFlow.BatteryRests := by
  refine ⟨h.toMeasured.tick, ?_⟩
  rw [(balance_congr s.settings_tick).2, h.toBattery_tick,
    h.rests.left_eq_self h.within.battery]
  exact h.rests

theorem BatteryRests.house_eq (h : s.BatteryRests) :
    s.housePower = s.balance := by
  have hhouse := h.house
  have hpower := h.rests.power
  omega

theorem batteryRests_iterate (h : s.Measured) {n : Nat} (hn : 204 ≤ n) :
    (calculatePowerFlow^[n] s).BatteryRests := by
  have hmeasured : (calculatePowerFlow^[n] s).Measured :=
    iterate_inv (fun _ h => h.tick) h n
  refine ⟨hmeasured, ?_⟩
  rw [h.toBattery_iterate, (balance_congr (settings_iterate s n)).2]
  exact h.within.battery.atRest s.balance_tens hn

/-- What the charger draws in the end. -/
def finalEv (s : Henley) : Int :=
  if s.isChargerTurnedOn then
    if s.isChargerEcoModeTurnedOn then -max 0 s.balance
    else -evFastPowerConsumption
  else 0

theorem finalEv_congr {k : Henley} (h : k.settings = s.settings) :
    k.finalEv = s.finalEv ∧ k.charges = s.charges := by
  have hbalance := (balance_congr h).2
  injection h with _ h
  injection h with _ h
  injection h with hon heco
  exact ⟨by rw [finalEv, finalEv, hon, heco, hbalance],
    by rw [charges, charges, hon, heco]⟩

theorem finalEv_of_charges (h : s.charges = true) :
    s.finalEv = -max 0 s.balance := by
  simp only [charges, Bool.and_eq_true] at h
  rw [finalEv, if_pos h.1, if_pos h.2]

/-- Out of ECO mode the charger draws what it does at once. -/
theorem nextEv_of_not_charges (h : s.charges = false) :
    s.nextEv = s.finalEv := by
  rw [nextEv, finalEv]
  split
  next hon =>
    rw [charges, hon, Bool.true_and] at h
    rw [if_neg (by rw [h]; decide), if_neg (by rw [h]; decide)]
  next => rfl

/-- With the battery at rest the charger gets to where it is going. -/
theorem BatteryRests.charger (h : s.BatteryRests) {n : Nat} (hn : 700 ≤ n) :
    (calculatePowerFlow^[n] s).evPower = s.finalEv := by
  cases hcharges : s.charges with
  | true =>
      have hfinal := finalEv_of_charges hcharges
      have hev := h.within.ev_ge
      have hev0 := h.within.ev_le
      have hdemand := h.within.demand_le
      have hhouse := h.house_eq
      have hpower := h.rests.power
      have htarget := @approaches_settles _ calculatePowerFlow (-·.evPower)
        (max 0 s.balance)
        (fun k => k.BatteryRests ∧ k.settings = s.settings)
        (fun k hk => ⟨hk.1.tick, (settings_tick k).trans hk.2⟩) ?_ ?_ s
        ⟨h, rfl⟩ n (by omega)
      · omega
      · intro k hk
        rw [← (balance_congr hk.2).2, ← hk.1.house_eq]
        exact hk.1.within.tracks hk.1.tens
          ((finalEv_congr hk.2).2.trans hcharges)
      · intro k hk
        have hbalance := s.balance_tens
        have htens := hk.1.tens.ev
        omega
  | false =>
      obtain ⟨m, rfl⟩ : ∃ m, n = m + 1 := ⟨n - 1, by omega⟩
      have hk := settings_iterate s m
      rw [Function.iterate_succ_apply', evPower_tick,
        nextEv_of_not_charges ((finalEv_congr hk).2.trans hcharges),
        (finalEv_congr hk).1]

/-- The page is at rest. -/
structure AtRest (s : Henley) : Prop where
  battery : s.toBattery.AtRest s.balance
  pv : s.pvPower = s.nextPv
  solar : s.solarSystemPower = s.nextPv
  house : s.housePower = s.balance
  ev : s.evPower = s.finalEv
  grid : s.gridPower = s.balance + s.evPower

theorem BatteryRests.atRest (h : s.BatteryRests)
    (hev : s.evPower = s.finalEv) : s.AtRest := by
  refine ⟨h.rests, h.pv, ?_, h.house_eq, hev, ?_⟩
  · rw [h.solar, h.rests.power, Int.sub_zero]
  · rw [h.within.grid, h.house_eq]

/-- At rest a tick changes nothing. -/
theorem AtRest.tick_eq (h : s.AtRest) (hrests : s.BatteryRests) :
    s.calculatePowerFlow = s := by
  have hbattery : s.nextBattery = s.toBattery := by
    rw [nextBattery, h.house,
      h.battery.regulate_eq_self hrests.within.battery]
  have hsolar : s.nextSolar = s.solarSystemPower := by
    rw [nextSolar, hbattery, h.battery.power, h.solar, Int.sub_zero]
  have hhouse : s.nextHouse = s.housePower := by
    rw [h.house, nextHouse, hsolar, h.solar, balance]
    split <;> omega
  have hev : s.nextEv = s.evPower := by
    cases hcharges : s.charges with
    | true =>
        have hgrid := h.grid
        have hfinal : s.evPower = -max 0 s.balance := by
          rw [h.ev, finalEv_of_charges hcharges]
        rw [nextEv_of_charges hcharges]
        split_ifs <;> omega
    | false => rw [nextEv_of_not_charges hcharges, h.ev]
  have hgrid : s.nextHouse + s.nextEv = s.gridPower := by
    rw [hhouse, hev, h.house, h.grid]
  rw [calculatePowerFlow_eq, hgrid, hbattery, hsolar, hhouse, hev, ← h.pv]

/-! The two stages, and one after the other. -/

theorem Within.batteryRests (h : s.Within) (htens : s.Tens) {n : Nat}
    (hn : 205 ≤ n) : (calculatePowerFlow^[n] s).BatteryRests := by
  obtain ⟨m, rfl⟩ : ∃ m, n = m + 1 := ⟨n - 1, by omega⟩
  exact batteryRests_iterate (measured_tick h htens) (by omega)

theorem BatteryRests.comesToRest (h : s.BatteryRests) {n : Nat} (hn : 700 ≤ n) :
    (calculatePowerFlow^[n] s).BatteryRests ∧
      (calculatePowerFlow^[n] s).AtRest := by
  have hend : (calculatePowerFlow^[n] s).BatteryRests :=
    iterate_inv (fun _ h => h.tick) h n
  refine ⟨hend, hend.atRest ?_⟩
  rw [h.charger hn, (finalEv_congr (settings_iterate s n)).1]

theorem Within.comesToRest (h : s.Within) (htens : s.Tens) {n : Nat}
    (hn : 905 ≤ n) : (calculatePowerFlow^[n] s).BatteryRests ∧
      (calculatePowerFlow^[n] s).AtRest :=
  settles_then (P := fun s : Henley => s.Within ∧ s.Tens)
    (Q := BatteryRests) (fun _ h _ hn => h.1.batteryRests h.2 hn)
    (R := fun s => s.BatteryRests ∧ s.AtRest)
    (fun _ h _ hn => h.comesToRest hn) ⟨h, htens⟩ hn

/-- The page after `inputs` and `k` more ticks. -/
def atTick (inputs : List HenleyInput) (k : Nat) : Henley :=
  after (inputs ++ List.replicate k (.scene .tick))

theorem atTick_eq_iterate (inputs : List HenleyInput) (n : Nat) :
    atTick inputs n = calculatePowerFlow^[n] (after inputs) := by
  rw [atTick, after, run_append, run_replicate]
  rfl

/-- Whatever was done to the page, 905 ticks later it is at rest with the
settings it was left with. In ECO mode nothing is then sold, and only what
the house is short of is bought. -/
theorem comes_to_rest (inputs : List HenleyInput) (n : Nat) (hn : 905 ≤ n) :
    let s := after inputs
    let k := atTick inputs n
    k.settings = s.settings ∧ k.AtRest ∧ k.calculatePowerFlow = k ∧
      (s.charges = true → k.gridPower = min 0 s.balance) := by
  intro s k
  have hk : k = calculatePowerFlow^[n] s := atTick_eq_iterate inputs n
  obtain ⟨hrests, hrest⟩ :=
    (within_after inputs).comesToRest (tens_after inputs) hn
  rw [← hk] at hrests hrest
  have hsettings : k.settings = s.settings := by
    rw [hk]
    exact settings_iterate s n
  refine ⟨hsettings, hrest, hrest.tick_eq hrests, ?_⟩
  intro hcharges
  have hgrid := hrest.grid
  rw [hrest.ev, (finalEv_congr hsettings).1, finalEv_of_charges hcharges,
    (balance_congr hsettings).2] at hgrid
  omega


/-- The sun is out and the house is off: with the charger in ECO mode the car
takes all of it. -/
theorem comes_to_rest_in_sun :
    let inputs : List HenleyInput := [.scene (.cloudCover (.notch 10)),
      .toggleChargerOnOff, .toggleChargerMode]
    (atTick inputs 905).calculatePowerFlow = atTick inputs 905 ∧
      (atTick inputs 905).gridPower = 0 := by
  intro inputs
  obtain ⟨-, -, htick, hgrid⟩ := comes_to_rest inputs 905 (Nat.le_refl 905)
  have hbalance : min 0 (after inputs).balance = 0 := by decide
  have hcharges : (after inputs).charges = true := by decide
  exact ⟨htick, (hgrid hcharges).trans hbalance⟩

end Henley

end SmartHome.Inverter
