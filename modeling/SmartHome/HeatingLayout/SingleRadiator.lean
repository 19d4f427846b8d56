import SmartHome.HeatingLayout.Splan
import SmartHome.Machine.Program

/-!
# Heating layout: `single_radiator.html`

The drawing of a circuit with the radiators alone, and the same script as on
the drawing of the S-plan, word for word. But it has no button for the hot
water, and where the script looks for one it finds `null`. So this is the
script once more, on a page of which it is not known what is there: the
elements that it looks up by their id may be missing, and assigning to what
is missing is a `TypeError`, which ends the call where it stands.
-/

namespace SmartHome.HeatingLayout

open Browser Machine

/-- The elements that are looked up by their id. -/
inductive Id where
  | boilerTemperatureLabel
  | hotWaterButton
  | heatingButton
deriving DecidableEq, Repr

structure Page where
  elements : List Element
  isHeatingOn : Bool := false
  isHotWaterOn : Bool := false
  /-- `none` for an element that the markup does not have. -/
  texts : Id → Option String

/-- A property of `null` is assigned. -/
inductive TypeError where
  | null
deriving DecidableEq, Repr

abbrev Call := EStateM TypeError Page Unit

namespace Page

def setText (id : Id) (text : String) (p : Page) : Page :=
  { p with texts := fun id' => if id' = id then some text else p.texts id' }

/-- `document.getElementById(id)`, and its text is set. -/
def assign (id : Id) (text : String) : Call := do
  let p ← get
  match p.texts id with
  | some _ => set (p.setText id text)
  | none => throw .null

def updateBoilerWaterTemperature : Call := do
  let p ← get
  let temp := Splan.waterTemperature p.isHeatingOn p.isHotWaterOn
  assign .boilerTemperatureLabel temp
  modify fun p => { p with
    elements :=
      forClass radiatorTemperatureLabel (Element.setText temp) p.elements }
  assign .hotWaterButton
    (if p.isHotWaterOn then "Stop Calling For Hot Water"
    else "Start Calling For Hot Water")
  assign .heatingButton
    (if p.isHeatingOn then "Stop Calling For Heat"
    else "Start Calling For Heat")

/-- `removeClass` or `addClass`, for the common pipe and the valve's own. -/
def switchPipes (pipe : String) (isOn : Bool) : Call :=
  modify fun p => { p with
    elements :=
      let change :=
        if isOn then Element.remove hotWaterFlowing
        else Element.add hotWaterFlowing
      forClass pipe change (forClass commonPipe change p.elements) }

def toggleHotWaterValve : Call := do
  switchPipes hotWaterPipe (← get).isHotWaterOn
  modify fun p => { p with isHotWaterOn := !p.isHotWaterOn }
  updateBoilerWaterTemperature

def toggleHeatingValve : Call := do
  switchPipes radiatorPipe (← get).isHeatingOn
  modify fun p => { p with isHeatingOn := !p.isHeatingOn }
  updateBoilerWaterTemperature

def call : Valve → Call
  | .heating => toggleHeatingValve
  | .hotWater => toggleHotWaterValve

/-- A handler is called. What it throws is only logged. -/
def step (p : Page) (v : Valve) : Page := left (call v) p

end Page

/-- The page as it is loaded, without a button for the hot water. -/
def Drawing.singleRadiator (d : Drawing) : Page where
  elements := d.elements
  texts
    | .boilerTemperatureLabel => some "-"
    | .hotWaterButton => none
    | .heatingButton => some "Start Calling For Heat"

end SmartHome.HeatingLayout
