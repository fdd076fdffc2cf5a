import TestImpact.Data.Calendar
import TestImpact.Number.Binary64
import TestImpact.Path
import TestImpact.Text.Quoted

/-!
# Untyped values

The values that configuration files, environment variables and log calls carry before they are
checked, and those of a configuration that was checked. Mappings keep their entries in order. A
value that holds itself is written with labels. A value has two texts: `toText` shows it on its own
and `toNested` as part of another value; they differ for texts, paths and times.
-/

namespace TestImpact

/-- An untyped value. -/
inductive Data where
  | null
  | bool (b : Bool)
  | int (n : Int)
  | float (x : Binary64)
  | text (s : String)
  | bytes (bytes : List UInt8)
  | path (p : Path)
  | date (d : Date)
  | time (t : Timestamp)
  | list (items : List Data)
  | tuple (items : List Data)
  | set (items : List Data)
  | map (entries : List (Data × Data))
  /-- A list or mapping that holds itself, under a label. -/
  | knot (label : Nat) (value : Data)
  /-- The list or mapping around this place that has a label. -/
  | again (label : Nat) (isMap : Bool)
  deriving Repr, Inhabited

namespace Data

instance : Coe String Data := ⟨text⟩

/-- The entries of a mapping whose keys are texts. -/
def ofFields (fields : List (String × Data)) : Data :=
  map (fields.map fun (name, value) => (text name, value))

def ofTexts (texts : List String) : Data := list (texts.map text)

def ofOption (value : Option String) : Data := (value.map text).getD null

/-- The number that a key counts as: truth values count as one and zero. -/
inductive Number where
  | int (n : Int)
  | float (x : Binary64)

def number? : Data → Option Number
  | bool b => some (.int (if b then 1 else 0))
  | int n => some (.int n)
  | float x => some (.float x)
  | _ => none

def Number.same : Number → Number → Bool
  | .int m, .int n => m == n
  | .float x, .float y => x.sameNumber y
  | .int n, .float x | .float x, .int n => x.toInt? == some n

mutual

/-- Equality of values: numbers are compared by value and a set or mapping without its order. -/
def same (x y : Data) : Bool :=
  match x with
  | null => match y with | null => true | _ => false
  | bool b =>
    match y.number? with
    | some n => Number.same (.int (if b then 1 else 0)) n
    | none => false
  | int n =>
    match y.number? with
    | some m => Number.same (.int n) m
    | none => false
  | float x =>
    match y.number? with
    | some m => Number.same (.float x) m
    | none => false
  | text s => match y with | text t => s == t | _ => false
  | bytes b => match y with | bytes c => b == c | _ => false
  | path p => match y with | path q => p == q | _ => false
  | date d => match y with | date e => d == e | _ => false
  | time t => match y with | time u => t.same u | _ => false
  | list xs => match y with | list ys => sameItems xs ys | _ => false
  | tuple xs => match y with | tuple ys => sameItems xs ys | _ => false
  | set xs => match y with | set ys => xs.length == ys.length && allAmong xs ys | _ => false
  | map es => match y with | map fs => es.length == fs.length && allEntriesAmong es fs | _ => false
  | knot .. | again .. => false

def sameItems : List Data → List Data → Bool
  | [], [] => true
  | x :: xs, y :: ys => same x y && sameItems xs ys
  | _, _ => false

def allAmong : List Data → List Data → Bool
  | [], _ => true
  | x :: xs, ys => ys.any (fun y => same x y) && allAmong xs ys

def allEntriesAmong : List (Data × Data) → List (Data × Data) → Bool
  | [], _ => true
  | (k, v) :: es, fs => fs.any (fun f => same k f.1 && same v f.2) && allEntriesAmong es fs

end

mutual

/-- The text of a value inside another one. -/
def toNested : Data → String
  | null => "None"
  | bool true => "True"
  | bool false => "False"
  | int n => toString n
  | float x => x.toText
  | text s => Text.quoted s
  | bytes b => Text.quotedBytes b
  | path p => "PosixPath(" ++ Text.quoted p.toText ++ ")"
  | date d => d.toNested
  | time t => t.toNested
  | list items => "[" ++ Text.joinText ", " (nestedItems items) ++ "]"
  | tuple [item] => "(" ++ toNested item ++ ",)"
  | tuple items => "(" ++ Text.joinText ", " (nestedItems items) ++ ")"
  | set [] => "set()"
  | set items => "\x7b" ++ Text.joinText ", " (nestedItems items) ++ "\x7d"
  | map entries => "\x7b" ++ Text.joinText ", " (nestedEntries entries) ++ "\x7d"
  | knot _ value => toNested value
  | again _ false => "[...]"
  | again _ true => "\x7b...\x7d"

def nestedItems : List Data → List String
  | [] => []
  | item :: items => toNested item :: nestedItems items

def nestedEntries : List (Data × Data) → List String
  | [] => []
  | (key, value) :: entries => (toNested key ++ ": " ++ toNested value) :: nestedEntries entries

end

/-- The text of a value on its own. -/
def toText : Data → String
  | text s => s
  | path p => p.toText
  | date d => d.toText
  | time t => t.toText
  | value => value.toNested

/-- The name of the type of a value that is there and is no text. -/
def typeName? : Data → Option String
  | null | text _ => none
  | knot _ value => value.typeName?
  | again _ isMap => some (if isMap then "dict" else "list")
  | bool _ => some "bool"
  | int _ => some "int"
  | float _ => some "float"
  | bytes _ => some "bytes"
  | path _ => some "PosixPath"
  | date _ => some "datetime.date"
  | time _ => some "datetime.datetime"
  | list _ => some "list"
  | tuple _ => some "tuple"
  | set _ => some "set"
  | map _ => some "dict"

/-- The values that count as nothing: null, false, zeros and whatever is empty. -/
def isEmpty : Data → Bool
  | null | bool false | text "" | bytes [] | list [] | tuple [] | set [] | map [] => true
  | int n => n == 0
  | float x => x.isZero
  | _ => false

/-! ### Entries of a mapping -/

/-- The value at a key. -/
def lookup? (key : Data) : List (Data × Data) → Option Data
  | [] => none
  | (k, v) :: entries => if k.same key then some v else lookup? key entries

/-- The value at a text key. -/
def field? (name : String) (entries : List (Data × Data)) : Option Data :=
  lookup? (text name) entries

/-- Sets the value at a key. A key that is there keeps its place and its form. -/
def put (key value : Data) : List (Data × Data) → List (Data × Data)
  | [] => [(key, value)]
  | (k, v) :: entries =>
    if k.same key then (k, value) :: entries else (k, v) :: put key value entries

/-- Entries in the order of their first keys, each with its last value. -/
def ofEntries (entries : List (Data × Data)) : List (Data × Data) :=
  entries.foldl (fun done (key, value) => put key value done) []

/-- The entries of a mapping; any other value has none. -/
def entries : Data → List (Data × Data)
  | map es => es
  | _ => []

/-- The field of a mapping. -/
def get? (value : Data) (name : String) : Option Data := field? name value.entries

end Data

end TestImpact
