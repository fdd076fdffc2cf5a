import TestImpact.Data.Basic

/-!
# Values that hold themselves

A knot is a list or mapping that is met again inside itself. `Data.untie` opens a knot by one level:
what is in it holds the whole knot again. The parts of an opened knot are knots of their own, so the
text of a part shows where that part is met again.
-/

namespace TestImpact.Data

def isMapping : Data → Bool
  | map _ => true
  | _ => false

mutual

/-- A value inside knots with the given labels: a knot that is met again is only named. -/
def retie (around : List Nat) : Data → Data
  | list items => list (retieItems around items)
  | tuple items => tuple (retieItems around items)
  | map entries => map (retieEntries around entries)
  | knot label value =>
    if around.contains label then again label value.isMapping
    else knot label (retie (label :: around) value)
  | value => value

def retieItems (around : List Nat) : List Data → List Data
  | [] => []
  | item :: items => retie around item :: retieItems around items

def retieEntries (around : List Nat) : List (Data × Data) → List (Data × Data)
  | [] => []
  | (key, value) :: entries => (key, retie around value) :: retieEntries around entries

end

mutual

/-- Puts a knot in the places that name it; `around` are the labels of the knots around the value.
-/
def expand (label : Nat) (whole : Data) (around : List Nat) : Data → Data
  | list items => list (expandItems label whole around items)
  | tuple items => tuple (expandItems label whole around items)
  | map entries => map (expandEntries label whole around entries)
  | knot l value => knot l (expand label whole (l :: around) value)
  | again l isMap => if l = label then retie around whole else again l isMap
  | value => value

def expandItems (label : Nat) (whole : Data) (around : List Nat) : List Data → List Data
  | [] => []
  | item :: items => expand label whole around item :: expandItems label whole around items

def expandEntries (label : Nat) (whole : Data) (around : List Nat) :
    List (Data × Data) → List (Data × Data)
  | [] => []
  | (key, value) :: entries =>
    (key, expand label whole around value) :: expandEntries label whole around entries

end

/-- The list or mapping that a knot is, with the knot itself inside it. -/
def untie : Data → Data
  | knot label value => expand label (knot label value) [] value
  | value => value

mutual

/-- Whether following a value to its end never ends. -/
def isEndless : Data → Bool
  | list items | tuple items => anyEndless items
  | map entries => anyEndlessEntry entries
  | knot .. | again .. => true
  | _ => false

def anyEndless : List Data → Bool
  | [] => false
  | item :: items => isEndless item || anyEndless items

def anyEndlessEntry : List (Data × Data) → Bool
  | [] => false
  | (_, value) :: entries => isEndless value || anyEndlessEntry entries

end

end TestImpact.Data
