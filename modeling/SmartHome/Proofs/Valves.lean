import SmartHome.HeatingLayout.Splan

/-!
# What the drawing shows of the two valves

The pipes of one valve are only ever touched by its own toggle, so they show
it, whatever happens to the other. The common pipe and the radiators' labels
belong to both. Opening a valve adds the class to the common pipe, which is
right, and closing one takes it away, which is right if the other is closed;
a call that comes while both are open leaves the common pipe still with one
valve open. The labels get the temperature of the boiler, and that is empty
only while both valves are closed; a call after which the hot water valve
alone is open leaves them at seventy degrees with the heating off.

These two calls are all that goes wrong. An element is changed by a toggle
without regard to the others, so what is shown of the page is shown of each
of its elements.
-/

namespace SmartHome.HeatingLayout

open Browser Machine

/-! ## The pipes

Either toggle is the same, seen from its own valve: `own` are its pipes and
`other` those of the other valve. -/

section Pipes

variable {own other : String} {isOwnOn isOtherOn : Bool} {e : Element}

/-- What the pipes show of the valves. -/
structure Shows (own other : String) (isOwnOn isOtherOn : Bool)
    (e : Element) : Prop where
  common : commonPipe ∈ e.classList →
    (hotWaterFlowing ∈ e.classList ↔ (isOwnOn = true ∨ isOtherOn = true))
  own : own ∈ e.classList →
    (hotWaterFlowing ∈ e.classList ↔ isOwnOn = true)
  other : other ∈ e.classList →
    (hotWaterFlowing ∈ e.classList ↔ isOtherOn = true)

theorem Shows.symm (h : Shows own other isOwnOn isOtherOn e) :
    Shows other own isOtherOn isOwnOn e :=
  ⟨fun hcommon => (h.common hcommon).trans Or.comm, h.other, h.own⟩

/-- What `switchPipes` does to an element. -/
def switchElement (pipe : String) (isOn : Bool) (e : Element) : Element :=
  if isOn then
    (e.ifHas commonPipe (Element.remove hotWaterFlowing)).ifHas pipe
      (Element.remove hotWaterFlowing)
  else
    (e.ifHas commonPipe (Element.add hotWaterFlowing)).ifHas pipe
      (Element.add hotWaterFlowing)

/-- Every class but the one it is about stays as it is. -/
theorem mem_switchElement {c : String} (hc : c ≠ hotWaterFlowing) :
    c ∈ (switchElement own isOwnOn e).classList ↔ c ∈ e.classList := by
  cases isOwnOn <;> simp [switchElement, Element.mem_ifHas, hc]

theorem flowing_switchElement (hown : own ≠ hotWaterFlowing) :
    hotWaterFlowing ∈ (switchElement own isOwnOn e).classList ↔
      if isOwnOn then
        hotWaterFlowing ∈ e.classList ∧ commonPipe ∉ e.classList ∧
          own ∉ e.classList
      else
        hotWaterFlowing ∈ e.classList ∨ commonPipe ∈ e.classList ∨
          own ∈ e.classList := by
  by_cases hcommon : commonPipe ∈ e.classList <;>
    by_cases hmem : own ∈ e.classList <;>
    cases isOwnOn <;>
    simp [switchElement, Element.mem_ifHas, hown, hcommon, hmem]

/-- A toggle of the own valve goes wrong on a common pipe with both valves
open, and nowhere else. -/
theorem shows_switchElement_iff (hown : own ≠ hotWaterFlowing)
    (hother : other ≠ hotWaterFlowing)
    (honly : other ∈ e.classList →
      commonPipe ∉ e.classList ∧ own ∉ e.classList)
    (h : Shows own other isOwnOn isOtherOn e) :
    Shows own other (!isOwnOn) isOtherOn (switchElement own isOwnOn e) ↔
      (isOwnOn = true → isOtherOn = true → commonPipe ∉ e.classList) := by
  have hcommon : commonPipe ≠ hotWaterFlowing := by decide
  constructor
  · intro hshows hon hon' hmem
    have hflow := hshows.common ((mem_switchElement hcommon).mpr hmem)
    rw [flowing_switchElement hown, hon, hon'] at hflow
    simp [hmem] at hflow
  · intro hsafe
    constructor
    case common =>
      intro hmem
      rw [mem_switchElement hcommon] at hmem
      rw [flowing_switchElement hown]
      cases isOwnOn with
      | false => simp [hmem]
      | true =>
          have hoff : isOtherOn ≠ true := fun hon => hsafe rfl hon hmem
          simp [hmem, hoff]
    case own =>
      intro hmem
      rw [mem_switchElement hown] at hmem
      rw [flowing_switchElement hown]
      cases isOwnOn <;> simp [hmem]
    case other =>
      intro hmem
      rw [mem_switchElement hother] at hmem
      rw [flowing_switchElement hown]
      cases isOwnOn <;> simp [honly hmem, h.other hmem]

end Pipes

/-! ## One element of the page -/

/-- What an element shows of the valves: the pipes, and the labels of the
radiators. -/
structure Agrees (isHeatingOn isHotWaterOn : Bool) (e : Element) : Prop
    extends Shows radiatorPipe hotWaterPipe isHeatingOn isHotWaterOn e where
  label : radiatorTemperatureLabel ∈ e.classList → isHeatingOn = false →
    e.nodeValue = ""

/-- The element's texts are set to `temp`, if it is a label. -/
def relabel (temp : String) (e : Element) : Element :=
  e.ifHas radiatorTemperatureLabel (Element.setText temp)

section Relabel

variable {temp : String} {isHeatingOn isHotWaterOn : Bool} {e : Element}

@[simp] theorem mem_relabel {c : String} :
    c ∈ (relabel temp e).classList ↔ c ∈ e.classList := by
  simp [relabel, Element.mem_ifHas]

theorem nodeValue_relabel (h : radiatorTemperatureLabel ∈ e.classList) :
    (relabel temp e).nodeValue = temp := by
  rw [relabel, Element.ifHas_of_mem h, Element.nodeValue_setText]

theorem waterTemperature_eq_empty :
    Splan.waterTemperature isHeatingOn isHotWaterOn = "" ↔
      isHeatingOn = false ∧ isHotWaterOn = false := by
  cases isHeatingOn <;> cases isHotWaterOn <;> decide

/-- Relabelled, an element agrees if its pipes do and it is not a label with
the hot water alone. -/
theorem agrees_relabel_iff :
    Agrees isHeatingOn isHotWaterOn
        (relabel (Splan.waterTemperature isHeatingOn isHotWaterOn) e) ↔
      Shows radiatorPipe hotWaterPipe isHeatingOn isHotWaterOn e ∧
        (isHeatingOn = false → isHotWaterOn = true →
          radiatorTemperatureLabel ∉ e.classList) := by
  constructor
  · intro h
    refine ⟨⟨by simpa using h.common, by simpa using h.own,
      by simpa using h.other⟩, ?_⟩
    intro hoff hon hlabel
    have hempty := h.label (mem_relabel.mpr hlabel) hoff
    rw [nodeValue_relabel hlabel, waterTemperature_eq_empty, hon] at hempty
    exact Bool.noConfusion hempty.2
  · intro h
    obtain ⟨hshows, halone⟩ := h
    refine ⟨⟨by simpa using hshows.common, by simpa using hshows.own,
      by simpa using hshows.other⟩, ?_⟩
    intro hlabel hoff
    rw [mem_relabel] at hlabel
    rw [nodeValue_relabel hlabel, waterTemperature_eq_empty]
    refine ⟨hoff, Bool.eq_false_iff.mpr ?_⟩
    intro hon
    exact halone hoff hon hlabel

end Relabel

section Toggle

variable {isHeatingOn isHotWaterOn : Bool} {e : Element}

theorem agrees_heating_iff (hkind : OneKind e)
    (h : Shows radiatorPipe hotWaterPipe isHeatingOn isHotWaterOn e) :
    Agrees (!isHeatingOn) isHotWaterOn
        (relabel (Splan.waterTemperature (!isHeatingOn) isHotWaterOn)
          (switchElement radiatorPipe isHeatingOn e)) ↔
      (isHeatingOn = true → isHotWaterOn = true →
        commonPipe ∉ e.classList ∧
          radiatorTemperatureLabel ∉ e.classList) := by
  have honly : hotWaterPipe ∈ e.classList →
      commonPipe ∉ e.classList ∧ radiatorPipe ∉ e.classList :=
    fun hmem => ⟨fun hc => hkind.common_hotWater ⟨hc, hmem⟩,
      fun hr => hkind.radiator_hotWater ⟨hr, hmem⟩⟩
  rw [agrees_relabel_iff, mem_switchElement (by decide),
    shows_switchElement_iff (by decide) (by decide) honly h]
  cases isHeatingOn <;> cases isHotWaterOn <;> simp

theorem agrees_hotWater_iff (hkind : OneKind e)
    (h : Shows radiatorPipe hotWaterPipe isHeatingOn isHotWaterOn e) :
    Agrees isHeatingOn (!isHotWaterOn)
        (relabel (Splan.waterTemperature isHeatingOn (!isHotWaterOn))
          (switchElement hotWaterPipe isHotWaterOn e)) ↔
      (isHotWaterOn = true → isHeatingOn = true →
        commonPipe ∉ e.classList) ∧
        (isHeatingOn = false → isHotWaterOn = false →
          radiatorTemperatureLabel ∉ e.classList) := by
  have honly : radiatorPipe ∈ e.classList →
      commonPipe ∉ e.classList ∧ hotWaterPipe ∉ e.classList :=
    fun hmem => ⟨fun hc => hkind.common_radiator ⟨hc, hmem⟩,
      fun hw => hkind.radiator_hotWater ⟨hmem, hw⟩⟩
  have hswitch := shows_switchElement_iff (e := e) (by decide) (by decide)
    honly h.symm
  rw [agrees_relabel_iff, mem_switchElement (by decide), ← hswitch]
  constructor
  · intro hboth
    refine ⟨hboth.1.symm, ?_⟩
    intro hoff hoff'
    exact hboth.2 hoff (by rw [hoff']; rfl)
  · intro hboth
    refine ⟨hboth.1.symm, ?_⟩
    intro hoff hon
    exact hboth.2 hoff (by simpa using hon)

end Toggle

/-! ## The page -/

namespace Splan

/-- After a call every element is to show the valves as they are then. -/
def AgreesAll (p : Splan) : Prop :=
  ∀ e ∈ p.elements, Agrees p.isHeatingOn p.isHotWaterOn e

/-- What every toggle needs of the page. -/
def ShowsAll (p : Splan) : Prop :=
  ∀ e ∈ p.elements, OneKind e ∧
    Shows radiatorPipe hotWaterPipe p.isHeatingOn p.isHotWaterOn e

/-- With both valves open a call comes only if there is no common pipe, and
if it is for the heating valve, no label either; and with both closed one for
the hot water valve comes only if there is no label. -/
def Safe (p : Splan) : Valve → Prop
  | .heating => p.isHeatingOn = true → p.isHotWaterOn = true →
      ∀ e ∈ p.elements, commonPipe ∉ e.classList ∧
        radiatorTemperatureLabel ∉ e.classList
  | .hotWater =>
      (p.isHotWaterOn = true → p.isHeatingOn = true →
        ∀ e ∈ p.elements, commonPipe ∉ e.classList) ∧
        (p.isHeatingOn = false → p.isHotWaterOn = false →
          ∀ e ∈ p.elements, radiatorTemperatureLabel ∉ e.classList)

theorem switchPipes_eq (pipe : String) (isOn : Bool) (p : Splan) :
    p.switchPipes pipe isOn =
      { p with elements := p.elements.map (switchElement pipe isOn) } := by
  cases isOn <;> simp [switchPipes, addClass, removeClass, forClass,
    switchElement, Function.comp_def]

theorem elements_heating (p : Splan) :
    p.toggleHeatingValve.elements =
      p.elements.map fun e =>
        relabel (waterTemperature (!p.isHeatingOn) p.isHotWaterOn)
          (switchElement radiatorPipe p.isHeatingOn e) := by
  rw [toggleHeatingValve, switchPipes_eq]
  exact List.map_map

theorem elements_hotWater (p : Splan) :
    p.toggleHotWaterValve.elements =
      p.elements.map fun e =>
        relabel (waterTemperature p.isHeatingOn (!p.isHotWaterOn))
          (switchElement hotWaterPipe p.isHotWaterOn e) := by
  rw [toggleHotWaterValve, switchPipes_eq]
  exact List.map_map

theorem valves_heating (p : Splan) :
    p.toggleHeatingValve.isHeatingOn = !p.isHeatingOn ∧
      p.toggleHeatingValve.isHotWaterOn = p.isHotWaterOn := by
  rw [toggleHeatingValve, switchPipes_eq]
  exact ⟨rfl, rfl⟩

theorem valves_hotWater (p : Splan) :
    p.toggleHotWaterValve.isHeatingOn = p.isHeatingOn ∧
      p.toggleHotWaterValve.isHotWaterOn = !p.isHotWaterOn := by
  rw [toggleHotWaterValve, switchPipes_eq]
  exact ⟨rfl, rfl⟩

theorem oneKind_relabel_switchElement {temp own : String} {isOn : Bool}
    {e : Element} (h : OneKind e) :
    OneKind (relabel temp (switchElement own isOn e)) := by
  obtain ⟨hcr, hcw, hrw⟩ := h
  constructor <;>
    rw [mem_relabel, mem_relabel, mem_switchElement (by decide),
      mem_switchElement (by decide)] <;>
    assumption

theorem oneKind_step {p : Splan} (h : p.ShowsAll) (v : Valve) :
    ∀ e ∈ (p.step v).elements, OneKind e := by
  have hmap {f : Element → Element} (hf : ∀ e, OneKind e → OneKind (f e)) :
      ∀ e ∈ p.elements.map f, OneKind e := by
    intro e he
    obtain ⟨e₀, hmem, rfl⟩ := List.mem_map.mp he
    exact hf e₀ (h e₀ hmem).1
  cases v with
  | heating =>
      rw [step, elements_heating]
      exact hmap fun _ => oneKind_relabel_switchElement
  | hotWater =>
      rw [step, elements_hotWater]
      exact hmap fun _ => oneKind_relabel_switchElement

/-- A page that shows the valves shows them again after a call if that is a
safe one. -/
theorem agreesAll_step_iff {p : Splan} (h : p.ShowsAll) (v : Valve) :
    (p.step v).AgreesAll ↔ p.Safe v := by
  cases v with
  | heating =>
      obtain ⟨hheating, hhotWater⟩ := valves_heating p
      rw [AgreesAll, step, elements_heating, List.forall_mem_map, hheating,
        hhotWater, Safe]
      constructor
      · intro hagrees hon hon' e he
        exact (agrees_heating_iff (h e he).1 (h e he).2).mp (hagrees e he)
          hon hon'
      · intro hsafe e he
        exact (agrees_heating_iff (h e he).1 (h e he).2).mpr
          fun hon hon' => hsafe hon hon' e he
  | hotWater =>
      obtain ⟨hheating, hhotWater⟩ := valves_hotWater p
      rw [AgreesAll, step, elements_hotWater, List.forall_mem_map, hheating,
        hhotWater, Safe]
      constructor
      · intro hagrees
        have hboth (e : Element) (he : e ∈ p.elements) :=
          (agrees_hotWater_iff (h e he).1 (h e he).2).mp (hagrees e he)
        exact ⟨fun hon hon' e he => (hboth e he).1 hon hon',
          fun hoff hoff' e he => (hboth e he).2 hoff hoff'⟩
      · intro hsafe e he
        exact (agrees_hotWater_iff (h e he).1 (h e he).2).mpr
          ⟨fun hon hon' => hsafe.1 hon hon' e he,
            fun hoff hoff' => hsafe.2 hoff hoff' e he⟩

theorem showsAll_step {p : Splan} {v : Valve} (h : p.ShowsAll)
    (hagrees : (p.step v).AgreesAll) : (p.step v).ShowsAll :=
  fun e he => ⟨oneKind_step h v e he, (hagrees e he).toShows⟩

end Splan

/-- No water flows on the page as it is loaded, and no valve is open. -/
theorem showsAll_load (d : Drawing) : d.load.ShowsAll := by
  intro e he
  have hstill : IsPipe e → hotWaterFlowing ∉ e.classList := d.still e he
  refine ⟨d.oneKind e he, ?_⟩
  constructor
  case common =>
    intro hmem
    exact iff_of_false (hstill (Or.inl hmem)) (by simp [Drawing.load])
  case own =>
    intro hmem
    exact iff_of_false (hstill (Or.inr (Or.inl hmem)))
      (by simp [Drawing.load])
  case other =>
    intro hmem
    exact iff_of_false (hstill (Or.inr (Or.inr hmem)))
      (by simp [Drawing.load])

/-- The drawing agrees with the valves after each call exactly if every call
is a safe one, on every drawing and over every sequence of calls. -/
theorem drawing_agrees_iff (d : Drawing) (calls : List Valve) :
    Along Splan.step (fun p v => (p.step v).AgreesAll) d.load calls ↔
      Along Splan.step Splan.Safe d.load calls := by
  have hstep (p : Splan) (v : Valve) (h : p.ShowsAll)
      (hagrees : (p.step v).AgreesAll) : (p.step v).ShowsAll :=
    Splan.showsAll_step h hagrees
  have hiff (p : Splan) (v : Valve) (h : p.ShowsAll) :
      (p.step v).AgreesAll ↔ p.Safe v :=
    Splan.agreesAll_step_iff h v
  exact along_congr hstep hiff (showsAll_load d) calls

/-- A drawing of a single pipe. -/
def onePipe : Drawing where
  elements := [{ classList := [commonPipe] }]
  oneKind := by
    intro e he
    rw [List.mem_singleton.mp he]
    constructor <;> decide
  still := by
    intro e he _
    rw [List.mem_singleton.mp he]
    decide

/-- With both valves open the heating is turned off: the water still flows,
but not on the drawing. -/
theorem drawing_does_not_always_agree :
    ¬ ∀ (d : Drawing) (calls : List Valve),
      Along Splan.step (fun p v => (p.step v).AgreesAll) d.load calls := by
  intro h
  obtain ⟨-, -, hagrees, -⟩ := h onePipe [.heating, .hotWater, .heating]
  have hcommon := (hagrees { classList := [commonPipe] } (by decide)).common
  exact absurd (hcommon (by decide)) (by decide)

end SmartHome.HeatingLayout
