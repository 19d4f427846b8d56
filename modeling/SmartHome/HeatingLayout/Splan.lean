import SmartHome.Browser.Classes
import SmartHome.Machine.Run

/-!
# Heating layout: `splan.html`

A drawing of an S-plan: a boiler, the radiators behind one valve and the hot
water cylinder behind another. Clicking a valve toggles it, and the script
shows where the water flows by the class `hot-water-flowing`, and how warm it
is by the labels.

Which pipes and labels there are is up to the markup, so the page is over an
arbitrary drawing. What the type of it says is that a pipe is of one kind and
that no water flows when the page is loaded. `addClass` and `removeClass`
have a branch for elements without a `classList`, which no element is in a
browser that knows `let` and `for … of`.
-/

namespace SmartHome.HeatingLayout

open Browser

def commonPipe : String := "common-pipe"
def radiatorPipe : String := "radiator-pipe"
def hotWaterPipe : String := "hot-water-pipe"
def radiatorTemperatureLabel : String := "radiator-temperature-label"
def hotWaterFlowing : String := "hot-water-flowing"

/-- The element is no pipe of two kinds. -/
structure OneKind (e : Element) : Prop where
  common_radiator : ¬ (commonPipe ∈ e.classList ∧ radiatorPipe ∈ e.classList)
  common_hotWater : ¬ (commonPipe ∈ e.classList ∧ hotWaterPipe ∈ e.classList)
  radiator_hotWater :
    ¬ (radiatorPipe ∈ e.classList ∧ hotWaterPipe ∈ e.classList)

def IsPipe (e : Element) : Prop :=
  commonPipe ∈ e.classList ∨ radiatorPipe ∈ e.classList ∨
    hotWaterPipe ∈ e.classList

/-- The elements that the page is loaded with. -/
structure Drawing where
  elements : List Element
  oneKind : ∀ e ∈ elements, OneKind e
  still : ∀ e ∈ elements, IsPipe e → hotWaterFlowing ∉ e.classList

structure Splan where
  elements : List Element
  isHeatingOn : Bool := false
  isHotWaterOn : Bool := false
  boilerTemperatureLabel : String := "-"
  hotWaterButton : String := "Start Calling For Hot Water"
  heatingButton : String := "Start Calling For Heat"
deriving DecidableEq, Repr

namespace Splan

/-- `addClass(document.getElementsByClassName(c), className)` -/
def addClass (c className : String) (p : Splan) : Splan :=
  { p with elements := forClass c (Element.add className) p.elements }

/-- `removeClass(document.getElementsByClassName(c), className)` -/
def removeClass (c className : String) (p : Splan) : Splan :=
  { p with elements := forClass c (Element.remove className) p.elements }

/-- The value of `temp`. -/
def waterTemperature (isHeatingOn isHotWaterOn : Bool) : String :=
  if isHotWaterOn then "70" else if isHeatingOn then "40" else ""

def updateBoilerWaterTemperature (p : Splan) : Splan :=
  let temp := waterTemperature p.isHeatingOn p.isHotWaterOn
  { p with
    boilerTemperatureLabel := temp
    elements :=
      forClass radiatorTemperatureLabel (Element.setText temp) p.elements
    hotWaterButton :=
      if p.isHotWaterOn then "Stop Calling For Hot Water"
      else "Start Calling For Hot Water"
    heatingButton :=
      if p.isHeatingOn then "Stop Calling For Heat"
      else "Start Calling For Heat" }

/-- The first half of either toggle: the valve of the pipes `pipe` is open
now, or is not. -/
def switchPipes (pipe : String) (isOn : Bool) (p : Splan) : Splan :=
  if isOn then
    (p.removeClass commonPipe hotWaterFlowing).removeClass pipe
      hotWaterFlowing
  else
    (p.addClass commonPipe hotWaterFlowing).addClass pipe hotWaterFlowing

def toggleHotWaterValve (p : Splan) : Splan :=
  let p := p.switchPipes hotWaterPipe p.isHotWaterOn
  let p := { p with isHotWaterOn := !p.isHotWaterOn }
  p.updateBoilerWaterTemperature

def toggleHeatingValve (p : Splan) : Splan :=
  let p := p.switchPipes radiatorPipe p.isHeatingOn
  let p := { p with isHeatingOn := !p.isHeatingOn }
  p.updateBoilerWaterTemperature

end Splan

inductive Valve where
  | heating
  | hotWater
deriving DecidableEq, Repr

/-- The valve's button, or the valve itself, is clicked. -/
def Splan.step (p : Splan) : Valve → Splan
  | .heating => p.toggleHeatingValve
  | .hotWater => p.toggleHotWaterValve

/-- The page as it is loaded. -/
def Drawing.load (d : Drawing) : Splan where
  elements := d.elements

end SmartHome.HeatingLayout
