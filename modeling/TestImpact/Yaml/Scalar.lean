import TestImpact.Data.Basic
import TestImpact.Number.Limit
import TestImpact.Number.Loose
import TestImpact.Text.Case
import TestImpact.Yaml.Cursor

/-!
# Kinds of plain scalars

A plain scalar without a tag has the kind that its text looks like: a truth value, a number, a date,
null, or else a text. `kindOf` tells the kind, and `Scalar.value` reads the text as a value of a
kind. A scalar whose kind is given by a tag need not look like it, and reading it may fail. The
kinds are those of the resolver of `PyYAML`, version 6.0 or later.
-/

namespace TestImpact.Yaml

/-- The kinds that values are made of. -/
inductive Kind where
  | null
  | bool
  | int
  | float
  | text
  | bytes
  | time
  | list
  | map
  | set
  | orderedMap
  | pairs
  /-- The sign of entries to be merged into a mapping. -/
  | merge
  /-- The sign of a default value. -/
  | default
  | unknown
  deriving DecidableEq, Repr, Inhabited

namespace Scalar

open Number (dropSign)

def isDigit (c : Char) : Bool := '0' ≤ c && c ≤ '9'

def isDigitOrGap (c : Char) : Bool := isDigit c || c = '_'

def trueWords : List String := ["yes", "Yes", "YES", "true", "True", "TRUE", "on", "On", "ON"]

def falseWords : List String := ["no", "No", "NO", "false", "False", "FALSE", "off", "Off", "OFF"]

def nullWords : List String := ["", "~", "null", "Null", "NULL"]

/-- One or more groups of one or two digits below sixty, each after a colon; and the rest. -/
def sixties : List Char → List Char
  | ':' :: a :: b :: r =>
    if '0' ≤ a && a ≤ '5' && isDigit b then sixties r
    else if isDigit a then (if b = ':' then sixties (b :: r) else b :: r)
    else ':' :: a :: b :: r
  | [':', a] => if isDigit a then [] else [':', a]
  | s => s

/-- Whether a text is an integer: binary, octal, decimal, hexadecimal, or in base sixty. -/
def isInt (s : List Char) : Bool :=
  match dropSign s with
  | '0' :: 'b' :: r => !r.isEmpty && r.all fun c => c = '0' || c = '1' || c = '_'
  | '0' :: 'x' :: r =>
    !r.isEmpty && r.all fun c =>
      isDigit c || ('a' ≤ c && c ≤ 'f') || ('A' ≤ c && c ≤ 'F') || c = '_'
  | ['0'] => true
  | '0' :: r => !r.isEmpty && r.all fun c => ('0' ≤ c && c ≤ '7') || c = '_'
  | c :: r =>
    let rest := r.dropWhile isDigitOrGap
    isDigit c && (rest.isEmpty || (sixties rest).isEmpty)
  | [] => false

/-- Whether a text is empty or an exponent with a sign. -/
def isExponent : List Char → Bool
  | [] => true
  | e :: sign :: r =>
    (e = 'e' || e = 'E') && (sign = '-' || sign = '+') && !r.isEmpty && r.all isDigit
  | _ => false

def isFloat (s : List Char) : Bool :=
  let unsigned := dropSign s
  if [".inf", ".Inf", ".INF"].contains (String.ofList unsigned) then true
  else if [".nan", ".NaN", ".NAN"].contains (String.ofList s) then true
  else
    match s with
    | '.' :: c :: r => isDigit c && isExponent (r.dropWhile isDigitOrGap)
    | _ =>
      match unsigned with
      | c :: r =>
        isDigit c &&
          match r.dropWhile isDigitOrGap with
          | '.' :: after => isExponent (after.dropWhile isDigitOrGap)
          | ':' :: after =>
            match sixties (':' :: after) with
            | '.' :: fraction => fraction.all isDigitOrGap
            | _ => false
          | _ => false
      | [] => false

/-- A number of exactly some digits, and the rest. -/
def digits? (count : Nat) (s : List Char) : Option (Nat × List Char) :=
  let taken := s.take count
  if taken.length = count && taken.all isDigit then some (Text.natOfDigits taken, s.drop count)
  else none

/-- A number of one or two digits, and the rest. -/
def oneOrTwo? (s : List Char) : Option (Nat × List Char) := (digits? 2 s).or (digits? 1 s)

def char? (c : Char) : List Char → Option (List Char)
  | d :: r => if d = c then some r else none
  | [] => none

/-- A zone after a time: nothing, `Z`, or hours and minutes with a sign; `none` if something else
stands there. -/
def zone? (s : List Char) : Option (Option (Bool × Nat × Nat)) :=
  if s.isEmpty then some none
  else
    match s.dropWhile fun c => c = ' ' || c = '\t' with
    | ['Z'] => some (some (false, 0, 0))
    | sign :: r =>
      if sign ≠ '-' && sign ≠ '+' then none
      else do
        let (hours, r) ← oneOrTwo? r
        match r with
        | [] => some (some (sign = '-', hours, 0))
        | ':' :: r =>
          match digits? 2 r with
          | some (minutes, []) => some (some (sign = '-', hours, minutes))
          | _ => none
        | _ => none
    | [] => none

/-- The fields of a date, and of a time if there is one. -/
structure TimeFields where
  date : Date
  clock : Option (Nat × Nat × Nat × List Char × Option (Bool × Nat × Nat))
  deriving Inhabited

/-- Reads a date and perhaps a time. -/
def timeFields? (s : List Char) : Option TimeFields := do
  let (year, r) ← digits? 4 s
  let r ← char? '-' r
  let (month, r) ← oneOrTwo? r
  let r ← char? '-' r
  let (day, r) ← oneOrTwo? r
  if r.isEmpty then some ⟨⟨year, month, day⟩, none⟩
  else
    let r ←
      match r with
      | 'T' :: r | 't' :: r => some r
      | c :: _ =>
        if c = ' ' || c = '\t' then some (r.dropWhile fun c => c = ' ' || c = '\t') else none
      | [] => none
    let (hour, r) ← oneOrTwo? r
    let r ← char? ':' r
    let (minute, r) ← digits? 2 r
    let r ← char? ':' r
    let (second, r) ← digits? 2 r
    let (fraction, r) :=
      match r with
      | '.' :: r => (r.takeWhile isDigit, r.dropWhile isDigit)
      | _ => ([], r)
    let zone ← zone? r
    some ⟨⟨year, month, day⟩, some (hour, minute, second, fraction, zone)⟩

/-- Whether a text looks like a date or a time. A date on its own has all its digits. -/
def isTime (s : List Char) : Bool :=
  match timeFields? s with
  | some ⟨_, none⟩ => s.length = 10
  | some _ => true
  | none => false

/-- A text without one line feed at its end. -/
def withoutFeed (s : List Char) : List Char := if s.getLast? = some '\n' then s.dropLast else s

/-- The kind that a scalar looks like. One line feed at its end does not count, if there is anything
before it. -/
def kindOf (s : List Char) : Kind :=
  let s := if s.length = 1 then s else withoutFeed s
  let word := String.ofList s
  if trueWords.contains word || falseWords.contains word then .bool
  else if isFloat s then .float
  else if isInt s then .int
  else if word = "<<" then .merge
  else if nullWords.contains word then .null
  else if isTime s then .time
  else if word = "=" then .default
  else .text

/-! ### Values -/

def badValue (text : String) : Defect := .fault (.badValue text)

/-- The most characters of a quoted text that a complaint about an integer shows. -/
def mostShown : Nat := 200

/-- The number of digits that count against the longest integer: those of base ten, and none of the
bases whose digits stand for bits. -/
def countedDigits (base : Nat) (s : List Char) : Nat :=
  let bare := dropSign (Text.trimBy Text.isWhiteSpace s)
  let lead := bare.takeWhile fun c => c = '_' || (Text.digitValue? c).isSome
  if base = 10 then lead.countP (· ≠ '_') else 0

/-- An integer of a base, as people write it. -/
def intOfText (limit : Number.DigitLimit) (base : Nat) (s : List Char) : Except Defect Int :=
  let digits := countedDigits base s
  if !limit.reads digits then .error (badValue (limit.readingComplaint digits))
  else
    match Number.looseInt? base s with
    | some n => .ok n
    | none =>
      let shown := String.ofList ((Text.quoted (String.ofList s)).toList.take mostShown)
      .error (badValue s!"invalid literal for int() with base {base}: {shown}")

/-- Digits in groups, each worth sixty times the next. -/
def baseSixty (groups : List Int) : Int := groups.foldl (fun n d => 60 * n + d) 0

def intValue (limit : Number.DigitLimit) (s : List Char) : Except Defect Int :=
  let bare := s.filter (· ≠ '_')
  let magnitude := dropSign bare
  let signed (n : Int) : Int := if bare.head? = some '-' then -n else n
  match magnitude with
  | [] => .error (.fault (.outOfRange "string index out of range"))
  | ['0'] => .ok 0
  | '0' :: 'b' :: r => (intOfText limit 2 r).map signed
  | '0' :: 'x' :: r => (intOfText limit 16 r).map signed
  | '0' :: _ => (intOfText limit 8 magnitude).map signed
  | _ =>
    if magnitude.contains ':' then
      ((Text.splitOn ':' magnitude).mapM (intOfText limit 10)).map fun groups =>
        signed (baseSixty groups)
    else (intOfText limit 10 magnitude).map signed

def floatOfText (s : List Char) : Except Defect Binary64 :=
  match Number.looseFloat? s with
  | some x => .ok x
  | none =>
    .error (badValue s!"could not convert string to float: {Text.quoted (String.ofList s)}")

/-- The sum of numbers, the last one taken once and each one before it sixty times the next. No
weight may be beyond the floating point numbers. -/
def sumSixty (groups : List Binary64) : Except Defect Binary64 := do
  let add (done : Binary64 × Int) (x : Binary64) : Except Defect (Binary64 × Int) :=
    let weight := Binary64.ofInt done.2
    if weight.isFinite then .ok (Binary64.add done.1 (Binary64.mul x weight), done.2 * 60)
    else .error (.fault (.tooLarge "int too large to convert to float"))
  return (← groups.reverse.foldlM add (Binary64.ofInt 0, (1 : Int))).1

def floatValue (s : List Char) : Except Defect Binary64 :=
  let bare := (Text.lower (String.ofList (s.filter (· ≠ '_')))).toList
  let magnitude := dropSign bare
  let signed (x : Binary64) : Binary64 := if bare.head? = some '-' then x.neg else x
  if bare.isEmpty then .error (.fault (.outOfRange "string index out of range"))
  else if magnitude = ".inf".toList then .ok (signed (.infinity false))
  else if magnitude = ".nan".toList then .ok .nan
  else if magnitude.contains ':' then do
    let groups ← (Text.splitOn ':' magnitude).mapM floatOfText
    return signed (← sumSixty groups)
  else (floatOfText magnitude).map signed

def microseconds (fraction : List Char) : Nat :=
  let digits := fraction.take 6
  Text.natOfDigits (digits ++ List.replicate (6 - digits.length) '0')

/-- The offset of a zone in minutes; a day or more is no offset. -/
def offsetOf (negative : Bool) (hours minutes : Nat) : Except Defect Int :=
  let total : Int := hours * 60 + minutes
  let offset := if negative then -total else total
  if total < 24 * 60 then .ok offset
  else
    let seconds := offset * 60
    let days := seconds.fdiv 86400
    let rest := seconds.fmod 86400
    let parts := Text.joinText ", " ((if days = 0 then [] else [s!"days={days}"]) ++
      (if rest = 0 then [] else [s!"seconds={rest}"]))
    .error (badValue ("offset must be a timedelta strictly between -timedelta(hours=24) and " ++
      s!"timedelta(hours=24), not datetime.timedelta({parts})."))

def timeValue (s : List Char) : Except Defect Data :=
  match timeFields? (withoutFeed s) with
  | none => .error (.fault (.badForm "'NoneType' object has no attribute 'groupdict'"))
  | some ⟨date, none⟩ =>
    match date.defect? with
    | some reason => .error (badValue reason)
    | none => .ok (.date date)
  | some ⟨date, some (hour, minute, second, fraction, zone)⟩ => do
    let offset ←
      match zone with
      | none => Except.ok none
      | some (negative, hours, minutes) => (offsetOf negative hours minutes).map some
    let t : Timestamp := ⟨date, hour, minute, second, microseconds fraction, offset⟩
    match t.defect? with
    | some reason => .error (badValue reason)
    | none => .ok (.time t)

def base64Digit? (c : Char) : Option Nat :=
  if 'A' ≤ c && c ≤ 'Z' then some (c.toNat - 65)
  else if 'a' ≤ c && c ≤ 'z' then some (c.toNat - 71)
  else if isDigit c then some (c.toNat + 4)
  else if c = '+' then some 62
  else if c = '/' then some 63
  else none

/-- Bytes in base 64. Other characters are skipped, and a group that is filled up ends the text. -/
def base64From (done : List UInt8) (group : List Nat) (pads : Nat) : List Char → Option (List UInt8)
  | [] => if group.isEmpty then some done else none
  | c :: r =>
    if c = '=' then
      if 2 ≤ group.length && 4 ≤ group.length + pads + 1 then some done
      else base64From done group (if 2 ≤ group.length then pads + 1 else pads) r
    else
      match base64Digit? c with
      | none => base64From done group pads r
      | some d =>
        match group with
        | [] => base64From done [d] 0 r
        | [a] => base64From (done ++ [UInt8.ofNat (a * 4 + d / 16)]) [a, d] 0 r
        | [a, b] => base64From (done ++ [UInt8.ofNat (b % 16 * 16 + d / 4)]) [a, b, d] 0 r
        | _ :: _ :: b :: _ => base64From (done ++ [UInt8.ofNat (b % 4 * 64 + d)]) [] 0 r

def bytesValue (s : List Char) : Except Defect (List UInt8) :=
  if s.any fun c => 128 ≤ c.toNat then .error .malformed
  else
    match base64From [] [] 0 s with
    | some bytes => .ok bytes
    | none => .error .malformed

def boolValue (s : List Char) : Except Defect Bool :=
  let word := Text.lower (String.ofList s)
  if ["yes", "true", "on"].contains word then .ok true
  else if ["no", "false", "off"].contains word then .ok false
  else .error (.fault (.badKey (Text.quoted word)))

/-- The value of a scalar of a kind. -/
def value (limit : Number.DigitLimit) (kind : Kind) (s : List Char) : Except Defect Data :=
  match kind with
  | .null => .ok .null
  | .bool => (boolValue s).map .bool
  | .int => (intValue limit s).map .int
  | .float => (floatValue s).map .float
  | .text => .ok (.text (String.ofList s))
  | .bytes => (bytesValue s).map .bytes
  | .time => timeValue s
  | _ => .error .malformed

end Scalar

end TestImpact.Yaml
