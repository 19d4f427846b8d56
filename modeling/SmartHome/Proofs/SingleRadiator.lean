import SmartHome.HeatingLayout.SingleRadiator
import SmartHome.Proofs.Valves

/-!
# The script on a page that lacks a button

Whether the buttons are there makes no difference to the drawing: the script
comes to them last. So what a call makes of the valves, the pipes and the
labels is what it makes of them on the S-plan's page (`SameDrawing.step`), and
what is known of that page is known of this one. On the circuit with the
radiators alone only the heating can be turned on, which is the harmless half
of it, and the drawing is right after every call.

The button is not. The call ends at the missing button for the hot water,
which comes first, and the one for the heating keeps the text that it was
loaded with.
-/

namespace SmartHome.HeatingLayout

open Browser Machine

namespace Page

/-! ## A call as far as the buttons -/

/-- The valve is toggled and its pipes are switched. -/
def switched (p : Page) : Valve → Page
  | .heating =>
      { p with
        elements := p.elements.map (switchElement radiatorPipe p.isHeatingOn)
        isHeatingOn := !p.isHeatingOn }
  | .hotWater =>
      { p with
        elements := p.elements.map (switchElement hotWaterPipe p.isHotWaterOn)
        isHotWaterOn := !p.isHotWaterOn }

def temperature (p : Page) : String :=
  Splan.waterTemperature p.isHeatingOn p.isHotWaterOn

/-- The boiler and the radiators have their labels. -/
def labelled (p : Page) : Page :=
  { p.setText .boilerTemperatureLabel p.temperature with
    elements := p.elements.map (relabel p.temperature) }

/-- What a call has drawn when it comes to the buttons. -/
def drawn (p : Page) (v : Valve) : Page := (p.switched v).labelled

/-- What is left to do then. -/
def buttons (p : Page) : Call := do
  assign .hotWaterButton
    (if p.isHotWaterOn then "Stop Calling For Hot Water"
    else "Start Calling For Hot Water")
  assign .heatingButton
    (if p.isHeatingOn then "Stop Calling For Heat"
    else "Start Calling For Heat")

section Run

variable {p : Page} {id : Id} {text old : String}

theorem texts_setText_of_ne {id' : Id} (h : id' ≠ id) :
    (p.setText id text).texts id' = p.texts id' := by
  simp [setText, h]

theorem run_assign_of_some (h : p.texts id = some old) :
    (assign id text).run p = .ok ⟨⟩ (p.setText id text) := by
  rw [assign, run_bind_of_ok (EStateM.run_get p), h]
  rfl

theorem run_assign_of_none (h : p.texts id = none) :
    (assign id text).run p = .error .null p := by
  rw [assign, run_bind_of_ok (EStateM.run_get p), h]
  rfl

theorem run_updateBoilerWaterTemperature
    (h : p.texts .boilerTemperatureLabel = some old) :
    updateBoilerWaterTemperature.run p = (buttons p).run p.labelled := by
  rw [updateBoilerWaterTemperature, run_bind_of_ok (EStateM.run_get p)]
  show (assign .boilerTemperatureLabel p.temperature >>= _).run p = _
  rw [run_bind_of_ok (run_assign_of_some h),
    run_bind_of_ok (EStateM.run_modify _ _)]
  rfl

theorem switchPipes_eq (pipe : String) (isOn : Bool) :
    (switchPipes pipe isOn).run p =
      .ok ⟨⟩ { p with elements := p.elements.map (switchElement pipe isOn) } := by
  cases isOn <;> simp [switchPipes, EStateM.run_modify, forClass,
    switchElement, Function.comp_def]

theorem run_call (h : p.texts .boilerTemperatureLabel = some old)
    (v : Valve) :
    (call v).run p = (buttons (p.drawn v)).run (p.drawn v) := by
  cases v with
  | heating =>
      rw [call, toggleHeatingValve, run_bind_of_ok (EStateM.run_get p),
        run_bind_of_ok (switchPipes_eq _ _),
        run_bind_of_ok (EStateM.run_modify _ _)]
      exact run_updateBoilerWaterTemperature h
  | hotWater =>
      rw [call, toggleHotWaterValve, run_bind_of_ok (EStateM.run_get p),
        run_bind_of_ok (switchPipes_eq _ _),
        run_bind_of_ok (EStateM.run_modify _ _)]
      exact run_updateBoilerWaterTemperature h

end Run

end Page

/-! ## Next to the page of the S-plan -/

/-- The two pages show the same, but for their buttons. -/
structure SameDrawing (p : Page) (s : Splan) : Prop where
  elements : p.elements = s.elements
  isHeatingOn : p.isHeatingOn = s.isHeatingOn
  isHotWaterOn : p.isHotWaterOn = s.isHotWaterOn
  label : p.texts .boilerTemperatureLabel = some s.boilerTemperatureLabel

namespace SameDrawing

variable {p : Page} {s : Splan}

theorem drawn (h : SameDrawing p s) (v : Valve) :
    SameDrawing (p.drawn v) (s.step v) := by
  obtain ⟨helements, hheating, hhotWater, -⟩ := h
  cases v with
  | heating =>
      obtain ⟨hopen, hother⟩ := Splan.valves_heating s
      refine ⟨?_, ?_, ?_, ?_⟩
      · rw [Splan.step, Splan.elements_heating, ← helements, ← hheating,
          ← hhotWater]
        exact List.map_map
      · rw [Splan.step, hopen, ← hheating]
        rfl
      · rw [Splan.step, hother, ← hhotWater]
        rfl
      · rw [Splan.step, Splan.toggleHeatingValve, Splan.switchPipes_eq]
        simp [Page.drawn, Page.labelled, Page.setText, Page.temperature,
          Page.switched, Splan.updateBoilerWaterTemperature, hheating,
          hhotWater]
  | hotWater =>
      obtain ⟨hother, hopen⟩ := Splan.valves_hotWater s
      refine ⟨?_, ?_, ?_, ?_⟩
      · rw [Splan.step, Splan.elements_hotWater, ← helements, ← hheating,
          ← hhotWater]
        exact List.map_map
      · rw [Splan.step, hother, ← hheating]
        rfl
      · rw [Splan.step, hopen, ← hhotWater]
        rfl
      · rw [Splan.step, Splan.toggleHotWaterValve, Splan.switchPipes_eq]
        simp [Page.drawn, Page.labelled, Page.setText, Page.temperature,
          Page.switched, Splan.updateBoilerWaterTemperature, hheating,
          hhotWater]

/-- A button is no part of the drawing. -/
theorem keeps_assign {id : Id} (hid : id ≠ .boilerTemperatureLabel)
    (text : String) :
    Keeps (fun q => SameDrawing q s) (Page.assign id text) := by
  intro q h
  cases hid' : q.texts id with
  | none =>
      rw [left_of_error (Page.run_assign_of_none hid')]
      exact h
  | some old =>
      rw [left_of_ok (Page.run_assign_of_some hid')]
      refine ⟨h.elements, h.isHeatingOn, h.isHotWaterOn, ?_⟩
      exact (Page.texts_setText_of_ne hid.symm).trans h.label

theorem keeps_buttons (q : Page) :
    Keeps (fun q => SameDrawing q s) q.buttons :=
  (keeps_assign (by decide) _).bind fun _ => keeps_assign (by decide) _

/-- Whatever buttons there are, a call draws what it draws on the S-plan's
page. -/
theorem step (h : SameDrawing p s) (v : Valve) :
    SameDrawing (p.step v) (s.step v) := by
  rw [Page.step, left, Page.run_call h.label]
  exact keeps_buttons _ _ (h.drawn v)

end SameDrawing

theorem sameDrawing_load (d : Drawing) :
    SameDrawing d.singleRadiator d.load := ⟨rfl, rfl, rfl, rfl⟩

theorem sameDrawing_run (d : Drawing) (calls : List Valve) :
    SameDrawing (run Page.step d.singleRadiator calls)
      (run Splan.step d.load calls) := by
  have hload := sameDrawing_load d
  generalize d.singleRadiator = p at hload ⊢
  generalize d.load = s at hload ⊢
  induction calls generalizing p s with
  | nil => exact hload
  | cons v calls ih => exact ih _ _ (hload.step v)

/-! ## Without a button for the hot water -/

/-- The call stops short, with the drawing right, and the button for the
heating as it was. -/
structure StopsShort (p : Page) (v : Valve) : Prop where
  throws : ¬ Completes (Page.call v) p
  heating : (p.step v).isHeatingOn = !p.isHeatingOn
  agrees : ∀ e ∈ (p.step v).elements, Agrees (p.step v).isHeatingOn
    (p.step v).isHotWaterOn e
  button : (p.step v).texts .heatingButton = some "Start Calling For Heat"

section NoButton

variable {p : Page} {s : Splan}

theorem run_call_of_no_button (h : SameDrawing p s)
    (hbutton : p.texts .hotWaterButton = none) (v : Valve) :
    (Page.call v).run p = .error .null (p.drawn v) := by
  have hnone : (p.drawn v).texts .hotWaterButton = none := by
    cases v <;> exact hbutton
  rw [Page.run_call h.label, Page.buttons]
  exact run_bind_of_error (Page.run_assign_of_none hnone)

/-- What the page is like after any number of clicks. -/
structure Heating (p : Page) (s : Splan) : Prop where
  same : SameDrawing p s
  shows : s.ShowsAll
  hotWater : s.isHotWaterOn = false
  noButton : p.texts .hotWaterButton = none
  button : p.texts .heatingButton = some "Start Calling For Heat"

theorem Heating.step (h : Heating p s) :
    Heating (p.step .heating) (s.step .heating) ∧ StopsShort p .heating := by
  have hrun := run_call_of_no_button h.same h.noButton .heating
  have hleft : p.step .heating = p.drawn .heating := left_of_error hrun
  have hsame := h.same.step .heating
  have hsafe : s.Safe .heating := by
    intro _ hon
    rw [h.hotWater] at hon
    exact Bool.noConfusion hon
  have hagrees := (Splan.agreesAll_step_iff h.shows .heating).mpr hsafe
  refine ⟨?_, ?_⟩
  · refine ⟨hsame, Splan.showsAll_step h.shows hagrees, ?_, ?_, ?_⟩
    · exact (Splan.valves_heating s).2.trans h.hotWater
    · rw [hleft]
      exact h.noButton
    · rw [hleft]
      exact h.button
  · refine ⟨not_completes_of_error hrun, ?_, ?_, ?_⟩
    · rw [hleft]
      rfl
    · rw [hsame.elements, hsame.isHeatingOn, hsame.isHotWaterOn]
      exact hagrees
    · rw [hleft]
      exact h.button

end NoButton

/-- On the circuit with the radiators alone the script draws what it draws on
the S-plan's page, whichever valves are called for. Calling for heat, any
number of times, toggles the heating and leaves the drawing right every time;
and every time the call throws, and the button still offers to start. -/
theorem draws_and_stops_short (d : Drawing) (calls : List Valve) (n : Nat) :
    SameDrawing (run Page.step d.singleRadiator calls)
        (run Splan.step d.load calls) ∧
      Along Page.step StopsShort d.singleRadiator
        (List.replicate n .heating) := by
  refine ⟨sameDrawing_run d calls, ?_⟩
  have hload : Heating d.singleRadiator d.load :=
    ⟨sameDrawing_load d, showsAll_load d, rfl, rfl, rfl⟩
  generalize d.singleRadiator = p at hload
  generalize d.load = s at hload
  induction n generalizing p s with
  | zero => exact trivial
  | succ n ih =>
      obtain ⟨hnext, hshort⟩ := hload.step
      exact ⟨hshort, ih _ _ hnext⟩

end SmartHome.HeatingLayout
