import Mathlib

/-!
# Inverter simulators: `energyflow-component`

Both pages show a power by a row of chevrons on a canvas, which move along a
line while it is not zero. The component is the same on either page but for
the watcher of the prop `power`: on `henley.html` it looks at
`positive-direction`, and on `standard.html` it does not.

The numbers of this component are not whole ones, and neither are they on
the page. They are real numbers here, and what the browser rounds is not in
the model. Of the canvas there is what is on it, chevron by chevron.

A component that is taken off the page goes on rendering. What it renders
then nobody sees, and it is left out.
-/

namespace SmartHome.Inverter

noncomputable section

def pixelsPerSecond : ℝ := 20
def fadeLength : ℝ := 20
def chevronSpace : ℝ := 12
def chevronAngle : ℝ := 0.7 * Real.pi

/-! ## Numbers -/

/-- `Math.atan2(y, x)` -/
def atan2 (y x : ℝ) : ℝ := Complex.arg ⟨x, y⟩

/-- `x % y`, for an `x` that is not negative. -/
def remainder (x y : ℝ) : ℝ := x - ⌊x / y⌋ * y

/-! ## The component -/

/-- The attributes. `height` is that of a vertical component, and `width`
that of a horizontal one, which is one without an `orientation` as well. -/
structure FlowProps where
  vertical : Bool
  /-- `positive-direction` is `left`. -/
  positiveLeft : Bool := false
  width : Int := 0
  height : Int := 0
  alwaysNegative : Bool := false
deriving DecidableEq, Repr

@[ext] structure Point where
  x : ℝ
  y : ℝ

/-- What one round of the loop in `render` puts on the canvas: two strokes,
and the power as a text. -/
structure Chevron where
  first : Point
  center : Point
  last : Point
  red : Nat
  green : Nat
  opacity : ℝ
  watts : Nat
  textX : Nat

/-- What `mounted` gives a value is zero before that. -/
structure Energyflow where
  props : FlowProps
  power : Int
  prevTimestamp : Option ℝ := none
  offset : ℝ := 0
  chevronLength : ℝ := 20
  x0 : ℝ := 0
  y0 : ℝ := 0
  x1 : ℝ := 0
  y1 : ℝ := 0
  length : ℝ := 0
  angle : ℝ := 0
  startX : ℝ := 0
  startY : ℝ := 0
  endX : ℝ := 0
  endY : ℝ := 0
  canvas : List Chevron := []

namespace Energyflow

def computeDirection (e : Energyflow) : Energyflow :=
  let l := |0.05 * (e.power : ℝ)|
  let l := if l < 5 then 5 else if l > 30 then 30 else l
  let angle := atan2 (e.y1 - e.y0) (e.x1 - e.x0)
  { e with
    chevronLength := l
    angle
    startX := Real.cos (angle - chevronAngle) * l
    startY := Real.sin (angle - chevronAngle) * l
    endX := Real.cos (angle + chevronAngle) * l
    endY := Real.sin (angle + chevronAngle) * l }

/-- From the top to the bottom, or the other way. -/
def aimVertically (down : Bool) (e : Energyflow) : Energyflow :=
  if down then { e with x0 := 20, x1 := 20, y0 := 0, y1 := e.props.height }
  else { e with x0 := 20, x1 := 20, y0 := e.props.height, y1 := 0 }

/-- From the right to the left, or the other way. -/
def aimHorizontally (left : Bool) (e : Energyflow) : Energyflow :=
  if left then { e with x0 := e.props.width, x1 := 0 }
  else { e with x0 := 0, x1 := e.props.width }

def mounted (props : FlowProps) (power : Int) : Energyflow :=
  let e : Energyflow := { props, power }
  let e :=
    if props.vertical then e.aimVertically (power > 0)
    else ({ e with y0 := 50, y1 := 50 }).aimHorizontally (power > 0)
  let e :=
    { e with
      length := Real.sqrt ((e.x0 - e.x1) * (e.x0 - e.x1) +
        (e.y0 - e.y1) * (e.y0 - e.y1)) }
  e.computeDirection

/-! ## The watcher -/

/-- The watcher, with the direction of a positive power. -/
def watchPower (left : Bool) (newValue : Int) (e : Energyflow) :
    Energyflow :=
  let e := { e with power := newValue }
  let e :=
    if e.props.vertical then e.aimVertically (newValue > 0)
    else e.aimHorizontally (if newValue > 0 then left else !left)
  e.computeDirection

end Energyflow

/-- The two pages. -/
inductive FlowPage where
  | standard
  | henley
deriving DecidableEq, Repr

/-- `power(newValue)` -/
def FlowPage.power (page : FlowPage) (newValue : Int) (e : Energyflow) :
    Energyflow :=
  match page with
  | .standard => e.watchPower true newValue
  | .henley => e.watchPower e.props.positiveLeft newValue

/-! ## Rendering -/

namespace Energyflow

/-- One round of the loop in `render`. -/
def chevron (e : Energyflow) (n i : Nat) : Chevron :=
  let offsetX := e.offset * Real.cos e.angle
  let offsetY := e.offset * Real.sin e.angle
  let x := e.x0 + (e.x1 - e.x0) * i / n + offsetX
  let y := e.y0 + (e.y1 - e.y0) * i / n + offsetY
  let dist := min (i * chevronSpace + e.offset)
    (n * chevronSpace - (i * chevronSpace + e.offset))
  { first := ⟨x + e.startX, y + e.startY⟩
    center := ⟨x, y⟩
    last := ⟨x + e.endX, y + e.endY⟩
    red := if e.props.alwaysNegative then 200
      else if e.power < 0 then 200 else 0
    green := if e.props.alwaysNegative then 0
      else if e.power > 0 then 200 else 0
    opacity := min 1 (dist / fadeLength)
    watts := e.power.natAbs
    textX := if e.props.vertical then 50 else 20 }

/-- The time since the last frame, if there was one. -/
def delta (e : Energyflow) (timestamp : ℝ) : ℝ :=
  match e.prevTimestamp with
  | some prev => if prev = 0 then 0 else timestamp - prev
  | none => 0

def advance (e : Energyflow) (delta : ℝ) : ℝ :=
  let offset := e.offset + pixelsPerSecond * delta / 1000
  if offset ≥ chevronSpace then remainder offset chevronSpace else offset

def render (e : Energyflow) (timestamp : ℝ) : Energyflow :=
  let n := ⌊e.length / chevronSpace⌋₊
  { e with
    prevTimestamp := some timestamp
    canvas := if e.power = 0 then [] else (List.range n).map (e.chevron n)
    offset := e.advance (e.delta timestamp) }

end Energyflow

/-- What comes to a component: a new value of its prop `power`, and the
browser's frames. -/
inductive FlowInput where
  | power (newValue : Int)
  | frame (timestamp : ℝ)

namespace FlowPage

def step (page : FlowPage) (e : Energyflow) : FlowInput → Energyflow
  | .power newValue => page.power newValue e
  | .frame timestamp => e.render timestamp

/-- The components in the page's markup, in their order. -/
def flows : FlowPage → List FlowProps
  | .standard =>
      [{ vertical := false, width := 150 },
        { vertical := false, width := 160 },
        { vertical := false, width := 100 },
        { vertical := true, height := 130 },
        { vertical := true, width := 150, height := 140,
          alwaysNegative := true },
        { vertical := true, width := 150, height := 190,
          alwaysNegative := true }]
  | .henley =>
      [{ vertical := false, positiveLeft := true, width := 110 },
        { vertical := false, positiveLeft := true, width := 120 },
        { vertical := false, positiveLeft := true, width := 100 },
        { vertical := true, height := 130 },
        { vertical := false, positiveLeft := true, width := 165,
          height := 140 },
        { vertical := false, positiveLeft := true, width := 150,
          height := 140, alwaysNegative := true }]

end FlowPage

end

end SmartHome.Inverter
