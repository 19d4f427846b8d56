import Mathlib.Tactic.SplitIfs
import SmartHome.Machine.Settle
import SmartHome.Proofs.Tracking

/-!
# A battery that is left alone comes to rest

Where the panels and the house leave the same balance tick after tick, what
is measured is that balance less what the battery takes of it. This file
shows that the battery then gets to where it neither gives nor takes, full if
there is a surplus and empty if there is a shortage, and how soon.

It does not go there straight. It is stepped towards the demand, in both
directions, and all the while the percentage moves with it; when that runs
past an end the power is thrown back to zero, wherever it was. `rank` counts
the ticks that are left, at most, in each of the phases: coming up from below
zero, level with the demand or below it and charging, and above it. The law
of the battery is symmetric (`regulate_mirror`), so only the case of a surplus
and that of a balance are looked at.
-/

namespace SmartHome.Inverter

open Machine Control

/-! ## The battery, left alone -/

namespace Battery

/-- The battery seen the other way round. -/
def mirror (b : Battery) : Battery :=
  ⟨-b.batteryPower, 100 - b.batteryPercentage⟩

variable {b : Battery}

theorem level_mirror (b : Battery) : b.mirror.level = 100 - b.level := by
  show 100 - b.batteryPercentage + (-b.batteryPower).sign =
    100 - (b.batteryPercentage + b.batteryPower.sign)
  rw [Int.sign_neg]
  omega

theorem carried_mirror (b : Battery) : b.mirror.carried = -b.carried := by
  unfold carried
  rw [level_mirror]
  split
  next h => rw [if_pos (by omega)]; rfl
  next h => rw [if_neg (by omega)]; rfl

/-- Charging and discharging follow the same law. -/
theorem regulate_mirror (measured : Int) (b : Battery) :
    b.mirror.regulate (-measured) = (b.regulate measured).mirror := by
  apply Battery.ext
  · show _ = -(b.regulate measured).batteryPower
    rw [regulate_power, regulate_power, demand, demand, level_mirror,
      carried_mirror]
    split <;> split <;> split <;> omega
  · show _ = 100 - (b.regulate measured).batteryPercentage
    rw [regulate_percentage, regulate_percentage, level_mirror]
    omega

theorem Within.mirror (h : b.Within) : b.mirror.Within := by
  obtain ⟨h0, h100, hge, hle, htens⟩ := h
  constructor <;> unfold Battery.mirror <;> dsimp only <;> omega

/-! ### One tick, by which way the power flows and which way it is to go -/

variable {measured : Int}

theorem Within.charging_surplus (h : b.Within) (hp : 0 < b.batteryPower)
    (hm : 0 < measured) :
    (99 ≤ b.batteryPercentage ∧ (b.regulate measured).batteryPower = 0 ∧
        (b.regulate measured).batteryPercentage = 100) ∨
      b.batteryPercentage < 99 ∧
        (b.regulate measured).batteryPower = b.batteryPower + 10 ∧
        (b.regulate measured).batteryPercentage = b.batteryPercentage + 1 := by
  obtain ⟨h0, h100, -, -, -⟩ := h
  have hlevel := b.level_cases
  rw [regulate_power, regulate_percentage, demand, carried, if_pos hm]
  split_ifs <;> omega

theorem Within.charging_short (h : b.Within) (hp : 0 < b.batteryPower)
    (hm : measured < 0) :
    (b.batteryPercentage = 100 ∧ (b.regulate measured).batteryPower = -10 ∧
        (b.regulate measured).batteryPercentage = 100) ∨
      b.batteryPercentage < 100 ∧
        (b.regulate measured).batteryPower = b.batteryPower - 10 ∧
        (b.regulate measured).batteryPercentage = b.batteryPercentage + 1 := by
  obtain ⟨h0, h100, -, -, -⟩ := h
  have hlevel := b.level_cases
  rw [regulate_power, regulate_percentage, demand, carried,
    if_neg (by omega), if_pos hm]
  split_ifs <;> omega

theorem Within.charging_even (h : b.Within) (hp : 0 < b.batteryPower) :
    (b.batteryPercentage = 100 ∧ (b.regulate 0).batteryPower = 0 ∧
        (b.regulate 0).batteryPercentage = 100) ∨
      b.batteryPercentage < 100 ∧
        (b.regulate 0).batteryPower = b.batteryPower ∧
        (b.regulate 0).batteryPercentage = b.batteryPercentage + 1 := by
  obtain ⟨h0, h100, -, -, -⟩ := h
  have hlevel := b.level_cases
  rw [regulate_power, regulate_percentage, demand, carried,
    if_neg (by omega), if_neg (by omega)]
  split_ifs <;> omega

theorem Within.idle_surplus (h : b.Within) (hp : b.batteryPower = 0)
    (hm : 0 < measured) :
    (b.batteryPercentage = 100 ∧ (b.regulate measured).batteryPower = 0 ∧
        (b.regulate measured).batteryPercentage = 100) ∨
      b.batteryPercentage < 100 ∧
        (b.regulate measured).batteryPower = 10 ∧
        (b.regulate measured).batteryPercentage = b.batteryPercentage := by
  obtain ⟨h0, h100, -, -, -⟩ := h
  have hlevel := b.level_cases
  rw [regulate_power, regulate_percentage, demand, carried, if_pos hm]
  split_ifs <;> omega

theorem Within.idle_even (h : b.Within) (hp : b.batteryPower = 0) :
    (b.regulate 0).batteryPower = 0 ∧
      (b.regulate 0).batteryPercentage = b.batteryPercentage := by
  obtain ⟨h0, h100, -, -, -⟩ := h
  have hlevel := b.level_cases
  rw [regulate_power, regulate_percentage, demand, carried,
    if_neg (by omega), if_neg (by omega)]
  split_ifs <;> omega

theorem mirror_numbers (b : Battery) :
    b.mirror.batteryPower = -b.batteryPower ∧
      b.mirror.batteryPercentage = 100 - b.batteryPercentage := ⟨rfl, rfl⟩

/-! The other way round. -/

theorem Within.discharging_short (h : b.Within) (hp : b.batteryPower < 0)
    (hm : measured < 0) :
    (b.batteryPercentage ≤ 1 ∧ (b.regulate measured).batteryPower = 0 ∧
        (b.regulate measured).batteryPercentage = 0) ∨
      1 < b.batteryPercentage ∧
        (b.regulate measured).batteryPower = b.batteryPower - 10 ∧
        (b.regulate measured).batteryPercentage = b.batteryPercentage - 1 := by
  have hb := b.mirror_numbers
  have hnext := (b.regulate measured).mirror_numbers
  have hmirror := @Within.charging_surplus _ (-measured) h.mirror (by omega)
    (by omega)
  rw [regulate_mirror] at hmirror
  omega

theorem Within.discharging_surplus (h : b.Within) (hp : b.batteryPower < 0)
    (hm : 0 < measured) :
    (b.batteryPercentage = 0 ∧ (b.regulate measured).batteryPower = 10 ∧
        (b.regulate measured).batteryPercentage = 0) ∨
      0 < b.batteryPercentage ∧
        (b.regulate measured).batteryPower = b.batteryPower + 10 ∧
        (b.regulate measured).batteryPercentage = b.batteryPercentage - 1 := by
  have hb := b.mirror_numbers
  have hnext := (b.regulate measured).mirror_numbers
  have hmirror := @Within.charging_short _ (-measured) h.mirror (by omega)
    (by omega)
  rw [regulate_mirror] at hmirror
  omega

theorem Within.discharging_even (h : b.Within) (hp : b.batteryPower < 0) :
    (b.batteryPercentage = 0 ∧ (b.regulate 0).batteryPower = 0 ∧
        (b.regulate 0).batteryPercentage = 0) ∨
      0 < b.batteryPercentage ∧
        (b.regulate 0).batteryPower = b.batteryPower ∧
        (b.regulate 0).batteryPercentage = b.batteryPercentage - 1 := by
  have hb := b.mirror_numbers
  have hnext := (b.regulate 0).mirror_numbers
  have hmirror := h.mirror.charging_even (by omega)
  rw [← Int.neg_zero, regulate_mirror] at hmirror
  omega

theorem Within.idle_short (h : b.Within) (hp : b.batteryPower = 0)
    (hm : measured < 0) :
    (b.batteryPercentage = 0 ∧ (b.regulate measured).batteryPower = 0 ∧
        (b.regulate measured).batteryPercentage = 0) ∨
      0 < b.batteryPercentage ∧
        (b.regulate measured).batteryPower = -10 ∧
        (b.regulate measured).batteryPercentage = b.batteryPercentage := by
  have hb := b.mirror_numbers
  have hnext := (b.regulate measured).mirror_numbers
  have hmirror := @Within.idle_surplus _ (-measured) h.mirror (by omega)
    (by omega)
  rw [regulate_mirror] at hmirror
  omega


/-! ### Left alone -/

variable {balance : Int}

/-- A tick of the battery when the panels and the house leave `balance`: what
the clamp has measured is that, less what the battery takes. -/
def left (balance : Int) (b : Battery) : Battery :=
  b.regulate (balance - b.batteryPower)

theorem left_mirror (balance : Int) (b : Battery) :
    b.mirror.left (-balance) = (b.left balance).mirror := by
  rw [left, left, ← regulate_mirror]
  congr 1
  show -balance - -b.batteryPower = _
  omega

theorem Within.left (h : b.Within) (balance : Int) :
    (b.left balance).Within := h.regulate _

/-! ### A surplus -/

/-- At most so many ticks are left until the battery is full and at rest. -/
def rank (balance : Int) (b : Battery) : Nat :=
  (if b.batteryPower < 0 then 102 - b.batteryPower / 10
  else if b.batteryPower = 0 then
    if b.batteryPercentage = 100 then 0 else 102 - b.batteryPercentage
  else if b.batteryPower ≤ balance then 101 - b.batteryPercentage
  else 204 - b.batteryPercentage).toNat

theorem Within.rank_le (h : b.Within) : b.rank balance ≤ 204 := by
  obtain ⟨h0, h100, hge, hle, htens⟩ := h
  unfold rank
  split
  · omega
  · split
    · split <;> omega
    · split <;> omega

theorem Within.rank_down (h : b.Within) (hbalance : 10 ∣ balance)
    (hpos : 0 < balance) :
    (b.left balance).rank balance ≤ b.rank balance - 1 := by
  have h0 := h.percentage_nonneg
  have h100 := h.percentage_le
  have htens := h.tens
  unfold rank Battery.left
  rcases Int.lt_trichotomy b.batteryPower 0 with hp | hp | hp
  · have hm : 0 < balance - b.batteryPower := by omega
    have hnext := h.discharging_surplus hp hm
    split_ifs <;> omega
  · rw [hp, Int.sub_zero]
    have hnext := h.idle_surplus hp hpos
    split_ifs <;> omega
  · rcases Int.lt_trichotomy (balance - b.batteryPower) 0 with hm | hm | hm
    · have hnext := h.charging_short hp hm
      split_ifs <;> omega
    · rw [hm]
      have hnext := h.charging_even hp
      split_ifs <;> omega
    · have hnext := h.charging_surplus hp hm
      split_ifs <;> omega

theorem rank_eq_zero : b.rank balance = 0 → b.Within →
    b.batteryPower = 0 ∧ b.batteryPercentage = 100 := by
  intro hrank h
  have h0 := h.percentage_nonneg
  have h100 := h.percentage_le
  have htens := h.tens
  unfold rank at hrank
  split_ifs at hrank <;> omega

/-! ### A balance -/

/-- At most so many ticks are left until the battery is at rest, when it is
to give and to take nothing. It is one more if the percentage runs past an
end on the way. -/
def rankEven (b : Battery) : Nat :=
  b.batteryPower.natAbs / 10 +
    if (b.batteryPower < 0 ∧ 10 * b.batteryPercentage < -b.batteryPower) ∨
      (0 < b.batteryPower ∧ 10 * (100 - b.batteryPercentage) < b.batteryPower)
    then 1 else 0

theorem Within.rankEven_le (h : b.Within) : b.rankEven ≤ 102 := by
  obtain ⟨h0, h100, hge, hle, htens⟩ := h
  unfold rankEven
  split <;> omega

theorem Within.rankEven_down (h : b.Within) :
    (b.left 0).rankEven ≤ b.rankEven - 1 := by
  have h0 := h.percentage_nonneg
  have h100 := h.percentage_le
  have htens := h.tens
  unfold rankEven Battery.left
  rw [Int.zero_sub]
  rcases Int.lt_trichotomy b.batteryPower 0 with hp | hp | hp
  · have hnext := h.discharging_surplus hp (Int.neg_pos.mpr hp)
    split_ifs <;> omega
  · rw [hp, Int.neg_zero]
    have hnext := h.idle_even hp
    split_ifs <;> omega
  · have hnext := h.charging_short hp (Int.neg_neg_iff_pos.mpr hp)
    split_ifs <;> omega

theorem rankEven_eq_zero (h : b.Within) (hrank : b.rankEven = 0) :
    b.batteryPower = 0 := by
  have htens := h.tens
  unfold rankEven at hrank
  split at hrank <;> omega

/-! ### The battery at rest -/

/-- The battery neither gives nor takes, and is at the end where it would. -/
structure AtRest (balance : Int) (b : Battery) : Prop where
  power : b.batteryPower = 0
  full : 0 < balance → b.batteryPercentage = 100
  empty : balance < 0 → b.batteryPercentage = 0

/-- At rest it stays as it is. -/
theorem AtRest.regulate_eq_self (h : b.AtRest balance) (hb : b.Within) :
    b.regulate balance = b := by
  obtain ⟨hp, hfull, hempty⟩ := h
  rcases Int.lt_trichotomy balance 0 with hneg | rfl | hpos
  · have hnext := hb.idle_short hp hneg
    exact Battery.ext (by omega) (by omega)
  · obtain ⟨hpower, hpercentage⟩ := hb.idle_even hp
    exact Battery.ext (hpower.trans hp.symm) hpercentage
  · have hnext := hb.idle_surplus hp hpos
    exact Battery.ext (by omega) (by omega)

theorem AtRest.left_eq_self (h : b.AtRest balance) (hb : b.Within) :
    b.left balance = b := by
  rw [left, h.power, Int.sub_zero, h.regulate_eq_self hb]

theorem AtRest.mirror (h : b.mirror.AtRest (-balance)) : b.AtRest balance := by
  obtain ⟨hpower, hfull, hempty⟩ := h
  unfold Battery.mirror at hpower hfull hempty
  dsimp only at hpower hfull hempty
  constructor <;> omega

theorem iterate_left_mirror (n : Nat) :
    ((Battery.left balance)^[n] b).mirror =
      (Battery.left (-balance))^[n] b.mirror := by
  have hsemiconj : Function.Semiconj Battery.mirror (Battery.left balance)
      (Battery.left (-balance)) := fun b => (left_mirror balance b).symm
  exact hsemiconj.iterate_right n b

theorem Within.atRest_of_surplus (h : b.Within) (hbalance : 10 ∣ balance)
    (hpos : 0 < balance) {n : Nat} (hn : 204 ≤ n) :
    ((Battery.left balance)^[n] b).AtRest balance := by
  have hinv (b : Battery) (h : b.Within) : (b.left balance).Within := h.left _
  have hzero := settles hinv (fun b h => h.rank_down hbalance hpos) h
    (Nat.le_trans h.rank_le hn)
  obtain ⟨hpower, hfull⟩ := rank_eq_zero hzero (iterate_inv hinv h n)
  exact ⟨hpower, fun _ => hfull, fun hneg => by omega⟩

theorem Within.atRest (h : b.Within) (hbalance : 10 ∣ balance) {n : Nat}
    (hn : 204 ≤ n) : ((Battery.left balance)^[n] b).AtRest balance := by
  rcases Int.lt_trichotomy balance 0 with hneg | rfl | hpos
  · apply AtRest.mirror
    rw [iterate_left_mirror]
    exact h.mirror.atRest_of_surplus (Int.dvd_neg.mpr hbalance) (by omega) hn
  · have hinv (b : Battery) (h : b.Within) : (b.left 0).Within := h.left _
    have hzero := settles hinv (fun b h => h.rankEven_down) h
      (Nat.le_trans h.rankEven_le (Nat.le_trans (by decide) hn))
    have hpower := rankEven_eq_zero (iterate_inv hinv h n) hzero
    exact ⟨hpower, fun h => by omega, fun h => by omega⟩
  · exact h.atRest_of_surplus hbalance hpos hn

end Battery

/-! ## An output that approaches its target -/

/-- An output that is stepped towards a target is there after as many ticks
as there are steps in between. -/
theorem approaches_settles {σ : Type _} {step : σ → σ} {output : σ → Int}
    {target : Int} {Inv : σ → Prop} (hinv : ∀ s, Inv s → Inv (step s))
    (happroaches : ∀ s, Inv s →
      Approaches 10 target (output s) (output (step s)))
    (htens : ∀ s, Inv s → 10 ∣ target - output s) {s : σ} (hs : Inv s)
    {n : Nat} (hn : (target - output s).natAbs ≤ 10 * n) :
    output (step^[n] s) = target := by
  have hzero : (target - output (step^[n] s)).natAbs / 10 = 0 := by
    refine @settles σ step Inv (fun s => (target - output s).natAbs / 10) hinv
      ?_ s hs n (by omega)
    intro s hs
    have htens := htens s hs
    have hstep := happroaches s hs
    unfold Approaches at hstep
    omega
  have htens := htens _ (iterate_inv hinv hs n)
  omega

end SmartHome.Inverter
