/-!
# Elements and their class lists

What a script sees of an element when all it does is to switch classes and to
set a text: the class list, and the text that is the element's first child.
A class list has each class once, so `add` does nothing where the class is
there, and `remove` nothing where it is not.

`forClass c f` does `f` to each of the elements that
`document.getElementsByClassName(c)` finds. The collection that it returns is
a live one, but that can only be told by a script that changes who has the
class `c` itself.
-/

namespace SmartHome.Browser

structure Element where
  classList : List String
  /-- `childNodes[0].nodeValue` -/
  nodeValue : String := ""
deriving DecidableEq, Repr

namespace Element

/-- `classList.add` -/
def add (className : String) (e : Element) : Element :=
  if className ∈ e.classList then e
  else { e with classList := e.classList ++ [className] }

/-- `classList.remove` -/
def remove (className : String) (e : Element) : Element :=
  { e with classList := e.classList.filter (· ≠ className) }

def setText (text : String) (e : Element) : Element :=
  { e with nodeValue := text }

/-- Do `f` to an element that has the class `c`. -/
def ifHas (c : String) (f : Element → Element) (e : Element) : Element :=
  if c ∈ e.classList then f e else e

variable {c className text : String} {e : Element}

@[simp] theorem mem_add :
    c ∈ (e.add className).classList ↔ c ∈ e.classList ∨ c = className := by
  unfold add
  by_cases h : className ∈ e.classList
  · rw [if_pos h]
    constructor
    · exact Or.inl
    · intro hmem
      rcases hmem with hmem | hsame
      · exact hmem
      · rw [hsame]
        exact h
  · rw [if_neg h]
    simp

@[simp] theorem mem_remove :
    c ∈ (e.remove className).classList ↔
      c ∈ e.classList ∧ c ≠ className := by
  simp [remove]

@[simp] theorem nodeValue_add :
    (e.add className).nodeValue = e.nodeValue := by
  unfold add
  split <;> rfl

@[simp] theorem nodeValue_remove :
    (e.remove className).nodeValue = e.nodeValue := rfl

@[simp] theorem classList_setText :
    (e.setText text).classList = e.classList := rfl

@[simp] theorem nodeValue_setText : (e.setText text).nodeValue = text := rfl

theorem ifHas_of_mem {f : Element → Element} (h : c ∈ e.classList) :
    e.ifHas c f = f e := if_pos h

/-- What `f` does to one class, and only to it, it does where `c` is. -/
theorem mem_ifHas {f : Element → Element} {d : String} :
    d ∈ (e.ifHas c f).classList ↔
      if c ∈ e.classList then d ∈ (f e).classList else d ∈ e.classList := by
  unfold ifHas
  split <;> rfl

end Element

/-- Do `f` to every element that has the class `c`. -/
def forClass (c : String) (f : Element → Element) (elements : List Element) :
    List Element :=
  elements.map (Element.ifHas c f)

end SmartHome.Browser
