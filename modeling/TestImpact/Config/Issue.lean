import TestImpact.Fault

/-!
# Checking values

A check turns an untyped value into a typed one, or reports every issue that it finds, each with its
place in the value. Checks of the parts of a value are combined so that all issues are kept in
order. A fault ends a check at once. The codes and messages of issues are those of `pydantic`,
version 2.5 or later.
-/

namespace TestImpact

/-- Why a value is refused. -/
inductive IssueKind where
  | notText
  | textNotDecodable
  | notMapping
  | notSection (name : String)
  | notList
  | notPath
  | notChoice (choices : List String)
  | notAbsolute (destination : String)
  /-- A user's name holds a character that no name holds. -/
  | notName
  | intNotReadable
  | notInt
  | intWithFraction
  | intTooLarge
  | notFinite
  | boolNotReadable
  | notBool
  | unknownName
  deriving DecidableEq, Repr, Inhabited

/-- An issue: why the value at a place is refused. -/
structure Issue where
  place : List String
  kind : IssueKind
  value : Data
  deriving Inhabited

namespace IssueKind

def code : IssueKind → String
  | notText => "string_type"
  | textNotDecodable => "string_unicode"
  | notMapping => "dict_type"
  | notSection _ => "model_type"
  | notList => "list_type"
  | notPath => "path_type"
  | notChoice _ => "literal_error"
  | notAbsolute _ | notName => "value_error"
  | intNotReadable => "int_parsing"
  | notInt => "int_type"
  | intWithFraction => "int_from_float"
  | intTooLarge => "int_parsing_size"
  | notFinite => "finite_number"
  | boolNotReadable => "bool_parsing"
  | notBool => "bool_type"
  | unknownName => "extra_forbidden"

/-- Choices in quotes, the last one after an "or". -/
def choiceText : List String → String
  | [] => ""
  | [c] => s!"'{c}'"
  | [c, d] => s!"'{c}' or '{d}'"
  | c :: rest => s!"'{c}', {choiceText rest}"

def message : IssueKind → String
  | notText => "Input should be a valid string"
  | textNotDecodable =>
    "Input should be a valid string, unable to parse raw data as a unicode string"
  | notMapping => "Input should be a valid dictionary"
  | notSection name => s!"Input should be a valid dictionary or instance of {name}"
  | notList => "Input should be a valid list"
  | notPath => "Input is not a valid path for <class 'pathlib.Path'>"
  | notChoice choices => s!"Input should be {choiceText choices}"
  | notAbsolute text => s!"Value error, File destination must be absolute path: {text}"
  | notName => "Value error, embedded null byte"
  | intNotReadable => "Input should be a valid integer, unable to parse string as an integer"
  | notInt => "Input should be a valid integer"
  | intWithFraction => "Input should be a valid integer, got a number with a fractional part"
  | intTooLarge => "Unable to parse input string as an integer, exceeded maximum size"
  | notFinite => "Input should be a finite number"
  | boolNotReadable => "Input should be a valid boolean, unable to interpret input"
  | notBool => "Input should be a valid boolean"
  | unknownName => "Extra inputs are not permitted"

end IssueKind

namespace Issue

/-- The place as names with dots between them. -/
def placeText (i : Issue) : String := Text.joinText "." i.place

end Issue

/-- The result of a check. -/
inductive Checked (α : Type) where
  | ok (value : α)
  | refused (issues : List Issue)
  | fault (f : Fault)
  deriving Inhabited

namespace Checked

def refuse {α : Type} (kind : IssueKind) (value : Data) : Checked α :=
  .refused [⟨[], kind, value⟩]

def map {α β : Type} (f : α → β) : Checked α → Checked β
  | ok a => ok (f a)
  | refused issues => refused issues
  | fault f => fault f

/-- Goes on with the value of a check. -/
def andThen {α β : Type} (x : Checked α) (next : α → Checked β) : Checked β :=
  match x with
  | ok a => next a
  | refused issues => refused issues
  | fault f => fault f

/-- Both results, or the issues of both in order. -/
def both {α β : Type} (x : Checked α) (y : Checked β) : Checked (α × β) :=
  match x, y with
  | fault f, _ => fault f
  | _, fault f => fault f
  | refused issues, refused more => refused (issues ++ more)
  | refused issues, ok _ => refused issues
  | ok _, refused issues => refused issues
  | ok a, ok b => ok (a, b)

instance : Functor Checked := ⟨Checked.map, fun a => Checked.map fun _ => a⟩

instance : Applicative Checked where
  pure := ok
  seq f x := (f.both (x ())).map fun (f, a) => f a

/-- The issues of a part, placed in the whole. -/
def within {α : Type} (name : String) : Checked α → Checked α
  | ok a => ok a
  | refused issues => refused (issues.map fun i => ⟨name :: i.place, i.kind, i.value⟩)
  | fault f => fault f

/-- The results of checking a list item by item, from a position on. -/
def items {α : Type} (check : Data → Checked α) : Nat → List Data → Checked (List α)
  | _, [] => ok []
  | n, item :: rest =>
    List.cons <$> (check item).within (toString n) <*> items check (n + 1) rest

/-- The value of a field, or its default if it is absent. -/
def field {α : Type} (entries : List (Data × Data)) (name : String) (default : α)
    (check : Data → Checked α) : Checked α :=
  match Data.field? name entries with
  | some value => (check value).within name
  | none => ok default

end Checked

end TestImpact
