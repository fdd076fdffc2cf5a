import TestImpact.Data.Basic
import TestImpact.Number.Places

/-!
# Message templates

A template holds conversions, each a percent sign with flags, a width, a precision and a letter. The
values are taken in order, or by name from one mapping. A template that does not fit its values has
no text.
-/

namespace TestImpact.Log

structure Flags where
  left : Bool
  plus : Bool
  space : Bool
  alternate : Bool
  zeros : Bool
  deriving DecidableEq, Repr, Inhabited

structure Conversion where
  flags : Flags
  width : Nat
  precision : Option Nat
  letter : Char
  deriving DecidableEq, Repr, Inhabited

/-- The values that a template has left: those in order, and the mapping for values by name. With a
mapping there is no value that has to be used. -/
structure TemplateValues where
  inOrder : List Data
  byName : Option (List (Data × Data))
  deriving Inhabited

namespace TemplateValues

/-- A single mapping that is not empty gives the values by name. -/
def ofList : List Data → TemplateValues
  | [.map (e :: es)] => ⟨[.map (e :: es)], some (e :: es)⟩
  | values => ⟨values, none⟩

def next? (values : TemplateValues) : Option (Data × TemplateValues) :=
  match values.inOrder with
  | [] => none
  | value :: rest => some (value, { values with inOrder := rest })

end TemplateValues

namespace Template

/-- Flags in any order and number. -/
def readFlags (flags : Flags) : List Char → Flags × List Char
  | '-' :: r => readFlags { flags with left := true } r
  | '+' :: r => readFlags { flags with plus := true } r
  | ' ' :: r => readFlags { flags with space := true } r
  | '#' :: r => readFlags { flags with alternate := true } r
  | '0' :: r => readFlags { flags with zeros := true } r
  | r => (flags, r)

/-- A name in parentheses, which may hold matching parentheses; the text starts behind the first. -/
def readName (depth : Nat) : List Char → Option (List Char × List Char)
  | [] => none
  | ')' :: r =>
    match depth with
    | 0 => some ([], r)
    | depth + 1 => (readName depth r).map fun (name, rest) => (')' :: name, rest)
  | '(' :: r => (readName (depth + 1) r).map fun (name, rest) => ('(' :: name, rest)
  | c :: r => (readName depth r).map fun (name, rest) => (c :: name, rest)

/-- A width or precision: digits, or a star for the next value. -/
def readAmount (values : TemplateValues) : List Char → Option (Int × TemplateValues × List Char)
  | '*' :: r => do
    let (value, values) ← values.next?
    match value with
    | .int n => some (n, values, r)
    | .bool b => some (if b then 1 else 0, values, r)
    | _ => none
  | s =>
    some (Text.natOfDigits (s.takeWhile Text.isAsciiDigit), values,
      s.dropWhile Text.isAsciiDigit)

/-- A text filled up with blanks to its width. -/
def filled (c : Conversion) (s : List Char) : List Char :=
  let blanks := List.replicate (c.width - s.length) ' '
  if c.flags.left then s ++ blanks else blanks ++ s

/-- A number filled up to its width, with zeros between its sign and its digits if so asked. -/
def filledNumber (c : Conversion) (negative : Bool) (mark digits : List Char) : List Char :=
  let sign :=
    if negative then ['-'] else if c.flags.plus then ['+']
    else if c.flags.space then [' '] else []
  if c.flags.zeros && !c.flags.left then
    sign ++ mark ++ List.replicate (c.width - (sign ++ mark ++ digits).length) '0' ++ digits
  else filled c (sign ++ mark ++ digits)

def upperHex (s : List Char) : List Char := s.map Char.toUpper

def integer (c : Conversion) (base : Nat) (mark : List Char) (n : Int) : List Char :=
  let digits := Nat.toDigits base n.natAbs
  let digits := List.replicate (c.precision.getD 0 - digits.length) '0' ++ digits
  filledNumber c (n < 0) (if c.flags.alternate then mark else []) digits

def real (c : Conversion) (style : Binary64.DigitStyle) (x : Binary64) : List Char :=
  filledNumber c (x.isNegative && !x.isNaN) []
    (x.toPlaces style (c.precision.getD 6) c.flags.alternate)

/-- A number without its fraction. -/
def wholeOf? (x : Binary64) : Option Int :=
  if x.isFinite then
    let (num, den) := x.ratio
    some (if x.isNegative then -((num / den : Nat) : Int) else (num / den : Nat))
  else none

def wholeNumber? (value : Data) : Option Int :=
  match value.number? with
  | some (.int n) => some n
  | some (.float x) => wholeOf? x
  | none => none

def exactInteger? (value : Data) : Option Int :=
  match value.number? with
  | some (.int n) => some n
  | _ => none

def realNumber? (value : Data) : Option Binary64 :=
  match value.number? with
  | some (.int n) =>
    let x := Binary64.ofInt n
    if x.isFinite then some x else none
  | some (.float x) => some x
  | none => none

/-- A text with every character outside ASCII escaped. -/
def asciiOnly (s : List Char) : List Char :=
  s.flatMap fun c =>
    let n := c.toNat
    if n < 0x80 then [c]
    else if n < 0x100 then '\\' :: 'x' :: Text.hexDigits 2 n
    else if n < 0x10000 then '\\' :: 'u' :: Text.hexDigits 4 n
    else '\\' :: 'U' :: Text.hexDigits 8 n

def text (c : Conversion) (s : List Char) : List Char :=
  filled c (c.precision.elim s s.take)

/-- One character, given by itself or by its code point. -/
def character? (value : Data) : Option Char :=
  match value with
  | .text s =>
    match s.toList with
    | [ch] => some ch
    | _ => none
  | _ =>
    match exactInteger? value with
    | some (.ofNat n) => if n.isValidChar then some (Char.ofNat n) else none
    | _ => none

/-- The text of a value as a conversion asks for it. -/
def convert? (c : Conversion) (value : Data) : Option (List Char) :=
  match c.letter with
  | 's' => some (text c value.toText.toList)
  | 'r' => some (text c value.toNested.toList)
  | 'a' => some (text c (asciiOnly value.toNested.toList))
  | 'd' | 'i' | 'u' => (wholeNumber? value).map (integer c 10 [])
  | 'o' => (exactInteger? value).map (integer c 8 ['0', 'o'])
  | 'x' => (exactInteger? value).map (integer c 16 ['0', 'x'])
  | 'X' => (exactInteger? value).map fun n => upperHex (integer c 16 ['0', 'x'] n)
  | 'f' => (realNumber? value).map (real c .positional)
  | 'F' => (realNumber? value).map fun x => upperHex (real c .positional x)
  | 'e' => (realNumber? value).map (real c .scientific)
  | 'E' => (realNumber? value).map fun x => upperHex (real c .scientific x)
  | 'g' => (realNumber? value).map (real c .significant)
  | 'G' => (realNumber? value).map fun x => upperHex (real c .significant x)
  | 'c' => (character? value).map fun ch => filled c [ch]
  | _ => none

/-- One conversion, read behind its percent sign: its text, the values left and the rest. -/
def convertNext? (values : TemplateValues) (s : List Char) :
    Option (List Char × TemplateValues × List Char) := do
  let (named, s) ←
    match s with
    | '(' :: r => do
      let entries ← values.byName
      let (name, rest) ← readName 0 r
      let value ← Data.field? (String.ofList name) entries
      pure (some value, rest)
    | s => pure (none, s)
  let (flags, s) := readFlags default s
  let (width, values, s) ← readAmount values s
  let (precision, values, s) ←
    match s with
    | '.' :: r => do
      let (n, values, r) ← readAmount values r
      pure (some n.toNat, values, r)
    | s => pure (none, values, s)
  let s :=
    match s with
    | 'h' :: r | 'l' :: r | 'L' :: r => r
    | s => s
  match s with
  | [] => none
  | '%' :: rest => some (['%'], values, rest)
  | letter :: rest => do
    let flags := if width < 0 then { flags with left := true } else flags
    let conversion : Conversion := ⟨flags, width.natAbs, precision, letter⟩
    match named with
    | some value => some (← convert? conversion value, values, rest)
    | none => do
      let (value, values) ← values.next?
      some (← convert? conversion value, values, rest)

/-- The rest of a template with its values; the first argument bounds the number of characters. -/
def fillFrom : Nat → TemplateValues → List Char → Option (List Char)
  | 0, values, _ => if values.inOrder.isEmpty || values.byName.isSome then some [] else none
  | _ + 1, values, [] => if values.inOrder.isEmpty || values.byName.isSome then some [] else none
  | fuel + 1, values, c :: r =>
    if c = '%' then
      match convertNext? values r with
      | none => none
      | some (s, values, rest) => (fillFrom fuel values rest).map (s ++ ·)
    else (fillFrom fuel values r).map (c :: ·)

/-- A message with values in place of its conversions. Without values the message stands as it is.
-/
def fill? (message : String) (values : List Data) : Option String :=
  if values.isEmpty then some message
  else
    (fillFrom message.length (.ofList values) message.toList).map String.ofList

end Template

end TestImpact.Log
