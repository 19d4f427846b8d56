import SmartHome.Python.Number

/-!
# JSON values in Python

What `response.json()` returns is a nest of dictionaries, lists and scalars,
and a script that goes into it takes every one of its steps on trust: an index
into something that is no dictionary, a key that is not there, a quotient of
something that is no number are exceptions. These are the steps, each with the
exception that it raises on a value of the wrong kind. Only to be compared all
values are of the right kind.

A dictionary has each of its keys once, in the order they came in. A truth
value is a number where one is asked for, as it is in Python.
-/

namespace SmartHome.Python

inductive Json where
  | null
  | bool (b : Bool)
  | num (x : Number)
  | str (s : String)
  | arr (items : List Json)
  | obj (fields : List (String × Json))

namespace Json

/-- The value of an `int`. -/
def ofInt (n : Int) : Json := .num (.int n)

/-- `j[key]` -/
def getItem (j : Json) (key : String) : Except Exception Json :=
  match j with
  | .obj fields =>
      match fields.lookup key with
      | some value => .ok value
      | none => .error (.keyError key)
  | _ => .error .typeError

/-- `key in j`, for a dictionary. -/
def hasKey (j : Json) (key : String) : Bool :=
  match j with
  | .obj fields => (fields.lookup key).isSome
  | _ => false

/-- `j[0]` -/
def first : Json → Except Exception Json
  | .arr (item :: _) => .ok item
  | .arr [] => .error .indexError
  | .str s =>
      match s.toList with
      | c :: _ => .ok (.str (String.singleton c))
      | [] => .error .indexError
  | .obj _ => .error (.keyError "0")
  | _ => .error .typeError

/-- What `for item in j` goes through. -/
def iter : Json → Except Exception (List Json)
  | .arr items => .ok items
  | .str s => .ok (s.toList.map fun c => .str (String.singleton c))
  | .obj fields => .ok (fields.map fun field => .str field.1)
  | _ => .error .typeError

/-- The string that can be added to another. -/
def asStr : Json → Except Exception String
  | .str s => .ok s
  | _ => .error .typeError

def number? : Json → Option Number
  | .num x => some x
  | .bool b => some (.int (if b then 1 else 0))
  | _ => none

/-- `j / m` -/
def div (j : Json) (m : Int) : Except Exception Number :=
  match j.number? with
  | some x => x.div m
  | none => .error .typeError

def isNaN (j : Json) : Bool := j.number?.any Number.isNaN

-- The items of two lists, and the values of two dictionaries, are the same if
-- they are one object, and every NaN that JSON is read into is.
mutual

/-- `i == j` -/
def eq : Json → Json → Bool
  | .arr items, .arr items' => eqItems items items'
  | .obj fields, .obj fields' =>
      fields.length == fields'.length && eqFields fields fields'
  | .str s, .str s' => s == s'
  | .null, .null => true
  | i, j =>
      match i.number?, j.number? with
      | some x, some y => x.eq y
      | _, _ => false

def eqItems : List Json → List Json → Bool
  | [], [] => true
  | i :: items, j :: items' =>
      (i.isNaN && j.isNaN || i.eq j) && eqItems items items'
  | _, _ => false

def eqFields : List (String × Json) → List (String × Json) → Bool
  | [], _ => true
  | (key, i) :: fields, fields' =>
      (match fields'.lookup key with
        | some j => i.isNaN && j.isNaN || i.eq j
        | none => false) &&
        eqFields fields fields'

end

theorem getItem_of_lookup {fields : List (String × Json)} {key : String}
    {value : Json} (h : fields.lookup key = some value) :
    (obj fields).getItem key = .ok value := by
  rw [getItem, h]

theorem getItem_of_not_mem {fields : List (String × Json)} {key : String}
    (h : fields.lookup key = none) :
    (obj fields).getItem key = .error (.keyError key) := by
  rw [getItem, h]

theorem eq_num (x y : Number) : (num x).eq (num y) = x.eq y := rfl

end Json

end SmartHome.Python
