import SmartHome.Machine.Run
import SmartHome.Proofs.Envelope

/-!
# The flows that `standard.html` shows

Two things are expected of the arrows on the page: that they balance, and
that equipment which is not there carries nothing. Neither holds.

A tick computes `gridPower` from the charger's power of the tick before and
then sets the charger; Henley's tick does it the other way round. So the
flows balance after a tick exactly when the tick does not move the charger.
And taking the inverter away clears the panels but not the battery, and the
charger is asked whether it is on but never whether it is there.

For both, the state that a tick finds decides what it leaves: `Settled` and
`NothingLeftOn` are the exact conditions, tick by tick, over every run.
-/

namespace SmartHome.Inverter.Standard

open Machine

def AfterEachTick (P : Standard → Prop) (inputs : List StandardInput) :
    Prop :=
  ∀ pre post, inputs = pre ++ .scene .tick :: post →
    P (after (pre ++ [.scene .tick]))

def BeforeEachTick (P : Standard → Prop) (inputs : List StandardInput) :
    Prop :=
  ∀ pre post, inputs = pre ++ .scene .tick :: post → P (after pre)

/-- What a tick leaves, read off what it finds, over a whole run. -/
theorem afterEachTick_iff {P Q : Standard → Prop}
    (h : ∀ s : Standard, s.Within → (P s.calculatePowerFlow ↔ Q s))
    (inputs : List StandardInput) :
    AfterEachTick P inputs ↔ BeforeEachTick Q inputs := by
  refine forall_congr' fun pre => forall_congr' fun post => ?_
  rw [after_tick]
  exact imp_congr_right fun _ => h _ (within_after pre)

/-! ## Balance -/

def Balanced (s : Standard) : Prop :=
  s.gridPower = s.pvPower - s.batteryPower - s.housePower - s.evPower

instance : DecidablePred Balanced := fun _ =>
  inferInstanceAs (Decidable (_ = _))

/-- The power of a battery whose inverter has been taken away. -/
def stale (s : Standard) : Int :=
  if s.showInverter then 0 else s.batteryPower

/-- What the panels are going to give beyond the battery and the house, by
what the page shows now. -/
def spare (s : Standard) : Int :=
  let battery :=
    if s.showBattery && s.showInverterClamp then
      s.toBattery.demand s.gridPower
    else 0
  let solar := if s.showInverter then 10 * s.cloudCover.value - battery else 0
  solar - if s.isHouseTurnedOn then housePowerConsumption else 0

theorem surplus_eq (s : Standard) : s.surplus = s.spare := by
  rw [surplus, nextHouse, spare, nextSolar, nextPv, nextBattery]
  dsimp only
  split
  · split
    · rw [Battery.regulate_power]
    · rfl
  · rfl

/-- The charger draws what its mode makes it draw anyway, a stale battery
being counted as part of it. In ECO mode, where it is stepped, that is what
there is to draw, and without an inverter there is nothing. -/
def Settled (s : Standard) : Prop :=
  if s.isChargerTurnedOn then
    if s.isChargerEcoModeTurnedOn then
      if s.showChargerClamp then
        if s.showInverter then s.evPower = max 0 s.spare
        else s.batteryPower = min s.evPower 10
      else s.evPower = s.stale
    else s.evPower = evFastPowerConsumption + s.stale
  else s.evPower = s.stale

theorem balanced_tick (s : Standard) : s.calculatePowerFlow.Balanced ↔
    s.evPower = s.nextEv (s.surplus - s.evPower) + s.stale := by
  rw [calculatePowerFlow_eq, Balanced]
  dsimp only
  unfold surplus nextSolar stale nextPv nextBattery
  split <;> omega

theorem spare_of_no_inverter {s : Standard} (h : s.showInverter = false) :
    s.spare ≤ 0 := by
  rw [spare, if_neg (ne_true_of_eq_false h)]
  split <;> decide

theorem balanced_tick_iff {s : Standard} (h : s.Within) :
    s.calculatePowerFlow.Balanced ↔ s.Settled := by
  have hev := h.ev_nonneg
  rw [balanced_tick, surplus_eq, Settled, nextEv]
  split
  next =>
    split
    next =>
      split
      next =>
        cases hinv : s.showInverter with
        | true =>
            have hstale : s.stale = 0 := if_pos hinv
            rw [hstale, if_pos rfl]
            split
            next => omega
            next => split <;> omega
        | false =>
            have hstale : s.stale = s.batteryPower :=
              if_neg (ne_true_of_eq_false hinv)
            have hspare := spare_of_no_inverter hinv
            rw [hstale, if_neg Bool.false_ne_true]
            split
            next => omega
            next => split <;> omega
      next => rw [Int.zero_add]
    next => exact Iff.rfl
  next => rw [Int.zero_add]

/-- In every run: the flows balance immediately after every tick, exactly
when every tick finds the charger settled. -/
theorem balanced_iff_settled (inputs : List StandardInput) :
    AfterEachTick Balanced inputs ↔ BeforeEachTick Settled inputs :=
  afterEachTick_iff (fun _ h => balanced_tick_iff h) inputs

/-- A charger is fitted and switched on. The next tick shows it drawing
seven kilowatts, and the meter the house alone. -/
theorem unbalanced_full :
    let inputs : List StandardInput :=
      [.toggleEVCharger, .toggleChargerOnOff, .scene .tick]
    Along step Offered {} inputs ∧ ¬ AfterEachTick Balanced inputs ∧
      (after inputs).gridPower = -500 ∧ (after inputs).evPower = 7000 := by
  refine ⟨by decide, fun h => ?_, by decide, by decide⟩
  exact absurd (h [.toggleEVCharger, .toggleChargerOnOff] [] rfl) (by decide)

/-! ## Equipment that is not there -/

structure NoPowerUnfitted (s : Standard) : Prop where
  inverter : s.showInverter = false →
    s.pvPower = 0 ∧ s.solarSystemPower = 0 ∧ s.batteryPower = 0
  battery :
    (s.showInverter && s.showBattery && s.showInverterClamp) = false →
      s.batteryPower = 0
  charger : s.showCharger = false → s.evPower = 0

/-- Nothing that was taken away was left running: the battery of a missing
inverter is at zero, and a missing charger is off, or is in ECO mode and
cannot draw. -/
def NothingLeftOn (s : Standard) : Prop :=
  (s.showInverter = true ∨ s.batteryPower = 0) ∧
    (s.showCharger = true ∨ s.isChargerTurnedOn = false ∨
      (s.isChargerEcoModeTurnedOn = true ∧
        (s.showChargerClamp = false ∨ (s.evPower ≤ 10 ∧ s.spare ≤ 0))))

theorem nextEv_eq_zero {s : Standard} (h : s.Within) :
    s.nextEv (s.surplus - s.evPower) = 0 ↔
      s.isChargerTurnedOn = false ∨ (s.isChargerEcoModeTurnedOn = true ∧
        (s.showChargerClamp = false ∨ (s.evPower ≤ 10 ∧ s.spare ≤ 0))) := by
  have hev := h.ev_nonneg
  have htens := h.ev_tens
  have hspare := h.surplus_tens
  rw [surplus_eq] at hspare ⊢
  unfold nextEv
  cases s.isChargerTurnedOn with
  | false => simp
  | true =>
      cases s.isChargerEcoModeTurnedOn with
      | false => simp [evFastPowerConsumption]
      | true =>
          cases s.showChargerClamp with
          | false => simp
          | true =>
              simp only [if_true, Bool.true_eq_false, false_or, true_and]
              split
              next => omega
              next => split <;> omega

theorem nextBattery_of_inverter {s : Standard} (h : s.showInverter = true)
    (hnot : (s.showBattery && s.showInverterClamp) = false) :
    s.nextBattery.batteryPower = 0 := by
  rw [nextBattery, if_pos h, if_neg (ne_true_of_eq_false hnot)]

theorem noPowerUnfitted_tick_iff {s : Standard} (h : s.Within) :
    s.calculatePowerFlow.NoPowerUnfitted ↔ s.NothingLeftOn := by
  rw [calculatePowerFlow_eq, NothingLeftOn, ← nextEv_eq_zero h]
  constructor
  · intro hboth
    obtain ⟨hinverter, -, hcharger⟩ := hboth
    refine ⟨?_, ?_⟩
    · cases hinv : s.showInverter with
      | true => exact Or.inl rfl
      | false =>
          have hzero : s.nextBattery.batteryPower = 0 := (hinverter hinv).2.2
          rw [nextBattery_of_no_inverter hinv] at hzero
          exact Or.inr hzero
    · cases hfit : s.showCharger with
      | true => exact Or.inl rfl
      | false => exact Or.inr (hcharger hfit)
  · intro hboth
    obtain ⟨hbattery, hcharger⟩ := hboth
    have hoff : s.showInverter = false → s.nextBattery.batteryPower = 0 := by
      intro hinv
      rw [nextBattery_of_no_inverter hinv]
      exact hbattery.resolve_left (ne_true_of_eq_false hinv)
    refine ⟨fun hinv => ⟨?_, ?_, hoff hinv⟩, fun hnot => ?_, fun hfit => ?_⟩
    · exact if_neg (ne_true_of_eq_false hinv)
    · exact if_neg (ne_true_of_eq_false hinv)
    · cases hinv : s.showInverter with
      | false => exact hoff hinv
      | true =>
          refine nextBattery_of_inverter hinv ?_
          simpa [hinv] using hnot
    · exact hcharger.resolve_left (ne_true_of_eq_false hfit)

/-- In every run: nothing flows through equipment that is not fitted
immediately after every tick, exactly when every tick finds nothing left
on. -/
theorem noPowerUnfitted_iff_nothingLeftOn (inputs : List StandardInput) :
    AfterEachTick NoPowerUnfitted inputs ↔
      BeforeEachTick NothingLeftOn inputs :=
  afterEachTick_iff (fun _ h => noPowerUnfitted_tick_iff h) inputs

/-- The inverter is taken away while the battery is discharging into the
house, and the battery's arrow stays. -/
theorem battery_left_discharging :
    let inputs : List StandardInput :=
      [.toggleInverter, .toggleBattery, .toggleInverterClamp, .scene .tick,
        .scene .tick, .toggleInverter, .scene .tick]
    Along step Offered {} inputs ∧ ¬ AfterEachTick NoPowerUnfitted inputs ∧
      (after inputs).showInverter = false ∧
      (after inputs).batteryPower = -10 := by
  refine ⟨by decide, fun h => ?_, by decide, by decide⟩
  have hlast := h [.toggleInverter, .toggleBattery, .toggleInverterClamp,
    .scene .tick, .scene .tick, .toggleInverter] [] rfl
  exact absurd (hlast.inverter rfl).2.2 (by decide)

end SmartHome.Inverter.Standard
