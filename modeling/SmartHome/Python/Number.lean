import Mathlib.Data.Rat.Floor

/-!
# Numbers in Python

An `int` is any whole number, and a `float` is the machine's, which Lean has
too. What makes the two one kind of thing is that they may be mixed: a
comparison of an `int` with a `float` is exact, a sum of the two is a `float`.

A `float` that got too large is an infinity and raises nothing, until it is to
be made an `int` again. An `int` may be too large to be divided.
-/

namespace SmartHome.Python

open Float.Model (UnpackedFloat)

inductive Exception where
  | jsonDecodeError
  | typeError
  | valueError
  | overflowError
  | keyError (key : String)
  | indexError
deriving DecidableEq, Repr

inductive Number where
  | int (n : Int)
  | float (x : Float)
deriving DecidableEq

namespace Number

/-- What the number is exactly, if it is finite. -/
def rat? : Number → Option ℚ
  | .int n => some n
  | .float x =>
      match x.toModel.unpack with
      | .zero _ => some 0
      | .finite sign mantissa exponent _ =>
          some (sign.apply (mantissa : Int) * 2 ^ exponent)
      | .infinity _ | .notANumber => none

def isNaN : Number → Bool
  | .int _ => false
  | .float x => x.isNaN

/-- `x == y` -/
def eq (x y : Number) : Bool :=
  match x.rat?, y.rat? with
  | some p, some q => p == q
  | none, none => x = y && !x.isNaN
  | _, _ => false

/-- `x + y`. The script adds no other `int` to a `float` than 0, so that it
does not matter here that one may be too large for it. -/
def add : Number → Number → Number
  | .int n, .int m => .int (n + m)
  | .int n, .float y => .float (.ofInt n + y)
  | .float x, .int m => .float (x + .ofInt m)
  | .float x, .float y => .float (x + y)

instance : Add Number := ⟨add⟩

/-- The whole number with all of its digits. -/
def unpackInt (n : Int) : UnpackedFloat :=
  if h : 0 < n.natAbs then
    .finite (if n < 0 then .negative else .positive) n.natAbs 0 h
  else .zero .positive

/-- The `float` next to the quotient, or an infinity. -/
def intQuotient (n m : Int) : Float :=
  .ofModel (.pack (.div .binary64 (unpackInt n) (unpackInt m)))

/-- `x / m`, for an `m` that is not 0. -/
def div (x : Number) (m : Int) : Except Exception Number :=
  match x with
  | .int n =>
      if (intQuotient n m).isInf then .error .overflowError
      else .ok (.float (intQuotient n m))
  | .float x => .ok (.float (x / .ofInt m))

/-- The whole number next to `q`, and the even one of two. -/
def roundHalfEven (q : ℚ) : Int :=
  if q - ⌊q⌋ < 1 / 2 then ⌊q⌋
  else if 1 / 2 < q - ⌊q⌋ then ⌊q⌋ + 1
  else if ⌊q⌋ % 2 = 0 then ⌊q⌋
  else ⌊q⌋ + 1

/-- `round(x)` -/
def round (x : Number) : Except Exception Int :=
  match x.rat? with
  | some q => .ok (roundHalfEven q)
  | none => if x.isNaN then .error .valueError else .error .overflowError

theorem isOk_round (x : Number) : x.round.isOk = x.rat?.isSome := by
  rw [round]
  cases x.rat? with
  | some q => rfl
  | none => cases x.isNaN <;> rfl

theorem eq_of_rat? {x y : Number} {p q : ℚ} (hx : x.rat? = some p)
    (hy : y.rat? = some q) : x.eq y = (p == q) := by
  rw [eq, hx, hy]

/-- A tenth and two tenths, and the ties of `round`. -/
example : (Number.float 0.1 + .float 0.2).eq (.float 0.3) = false ∧
    (Number.float 2.5).round = .ok 2 ∧ (Number.float 3.5).round = .ok 4 := by
  decide +kernel

end Number

end SmartHome.Python
