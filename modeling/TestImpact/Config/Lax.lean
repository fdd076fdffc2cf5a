import TestImpact.Config.Integer
import TestImpact.Config.Library
import TestImpact.Data.Knot
import TestImpact.Text.Utf8

/-!
# Near values

The checks of single values in their lax form, as the library (`pydantic`, version 2.5 or later) has
them unless it is told to be strict. Values of a near type are taken where they have one reading: an
integer in a text, a truth value in a word. The items of a set are listed as the set is written; the
library lists them in an order of its own.
-/

namespace TestImpact.Config

namespace Lax

def text : Data → Checked String
  | .text s => .ok s
  | .bytes b =>
    match Text.decode b with
    | .ok s => .ok s
    | .error _ => .refuse .textNotDecodable (.bytes b)
  | value => .refuse .notText value

def intInText (value : Data) (s : String) : Checked Int :=
  match intOfText s with
  | .ok n => .ok n
  | .error kind => .refuse kind value

def int : Data → Checked Int
  | .int n => .ok n
  | .bool b => .ok (if b then 1 else 0)
  | .float x =>
    if !x.isFinite then .refuse .notFinite (.float x)
    else
      match x.toInt? with
      | none => .refuse .intWithFraction (.float x)
      | some n => if n.natAbs < Nat.pow 2 63 then .ok n else .refuse .intTooLarge (.float x)
  | .text s => intInText (.text s) s
  | .bytes b =>
    match Text.decode b with
    | .ok s => intInText (.bytes b) s
    | .error _ => .refuse .intNotReadable (.bytes b)
  | value => .refuse .notInt value

/-- The words for the two truth values, in lower case. -/
def trueWords : List String := ["1", "t", "true", "y", "yes", "on"]

def falseWords : List String := ["0", "f", "false", "n", "no", "off"]

def asciiLower (s : String) : String :=
  String.ofList (s.toList.map fun c => if 'A' ≤ c ∧ c ≤ 'Z' then Char.ofNat (c.toNat + 32) else c)

def boolOfText (value : Data) (s : String) : Checked Bool :=
  if trueWords.contains (asciiLower s) then .ok true
  else if falseWords.contains (asciiLower s) then .ok false
  else .refuse .boolNotReadable value

/-- The truth value of an integer; other integers are unreadable if they are near and no truth
values if they are far from zero. -/
def boolOfInt (value : Data) (near : Bool) (n : Int) : Checked Bool :=
  if n == 1 then .ok true
  else if n == 0 then .ok false
  else if near then .refuse .boolNotReadable value
  else .refuse .notBool value

def bool : Data → Checked Bool
  | .bool b => .ok b
  | .int n => boolOfInt (.int n) (-(Nat.pow 2 63 : Int) ≤ n && n < Nat.pow 2 63) n
  | .float x =>
    match x.toInt? with
    | some n => boolOfInt (.float x) (n.natAbs < Nat.pow 2 63) n
    | none => .refuse .notBool (.float x)
  | .text s => boolOfText (.text s) s
  | .bytes b =>
    match Text.decode b with
    | .ok s => boolOfText (.bytes b) s
    | .error _ => .refuse .boolNotReadable (.bytes b)
  | value => .refuse .notBool value

def path : Data → Checked Path
  | .path p => .ok p
  | .text s => .ok (Path.ofText s)
  | value => .refuse .notPath value

def word (words : List String) : Data → Checked String
  | .text s => if words.contains s then .ok s else .refuse (.notChoice words) (.text s)
  | value => .refuse (.notChoice words) value

def items (value : Data) : Checked (List Data) :=
  match value.untie with
  | .list items | .tuple items | .set items => .ok items
  | _ => .refuse .notList value

/-- The entries of a mapping, or the issue about another value. -/
def entriesOr (issue : IssueKind) (value : Data) : Checked (List (Data × Data)) :=
  match value.untie with
  | .map entries => .ok entries
  | _ => .refuse issue value

end Lax

/-- The library as it checks values unless it is told to be strict. -/
def Library.lax : Library where
  text := Lax.text
  int := Lax.int
  bool := Lax.bool
  path := Lax.path
  word := Lax.word
  items := Lax.items
  entries := Lax.entriesOr .notMapping
  fields name := Lax.entriesOr (.notSection name)
  dump := Config.dump

end TestImpact.Config

