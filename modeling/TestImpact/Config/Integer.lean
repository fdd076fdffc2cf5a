import TestImpact.Config.Issue
import TestImpact.Text.Blank
import TestImpact.Text.Digits
import TestImpact.Text.Split

/-!
# Integers in texts

An integer in a text is plain, or plain after tidying: white space and a plus sign are dropped, and
so are zeros in front, a fraction of zeros and single underscores. Only the digits that are left
count against the longest integer. This is how `pydantic`, version 2.5 or later, reads integers.
-/

namespace TestImpact.Config

/-- Longest text of an integer, with its sign. -/
def maxIntText : Nat := 4300

/-- A plain integer: digits without a zero in front of others, after a minus sign or none. -/
def plainInt (s : List Char) : Except IssueKind Int :=
  let (negative, magnitude) :=
    match s with
    | '-' :: r => (true, r)
    | s => (false, s)
  let digits := magnitude.takeWhile Text.isAsciiDigit
  let signed (n : Nat) : Int := if negative then -(n : Int) else n
  match digits with
  | [] => .error .intNotReadable
  | '0' :: _ => if magnitude.length = 1 then .ok 0 else .error .intNotReadable
  | _ =>
    if maxIntText < s.length - (magnitude.length - digits.length) then .error .intTooLarge
    else if digits.length < magnitude.length then .error .intNotReadable
    else .ok (signed (Text.natOfDigits digits))

/-- Drops zeros and underscores after a first zero, up to another digit or a minus sign. One
character stays in front of a point and at the end. -/
def dropZeros (last : Char) : List Char → Option (List Char)
  | [] => some [last]
  | c :: r =>
    if c = '0' || c = '_' then dropZeros c r
    else if c = '.' then some (last :: c :: r)
    else if Text.isAsciiDigit c || c = '-' then some (c :: r)
    else none

/-- Drops a point with zeros after it. -/
def dropZeroFraction (s : List Char) : List Char :=
  match Text.cut? '.' s with
  | some (whole, fraction) => if !fraction.isEmpty && fraction.all (· = '0') then whole else s
  | none => s

/-- Whether two underscores stand side by side. -/
def hasDoubleGap : List Char → Bool
  | '_' :: '_' :: _ => true
  | _ :: r => hasDoubleGap r
  | [] => false

/-- Drops underscores, unless one is at an end or beside another. -/
def dropGaps (s : List Char) : List Char :=
  if s.head? = some '_' || s.getLast? = some '_' || hasDoubleGap s then s else s.filter (· ≠ '_')

/-- The plain form of an integer that is written with ornaments. -/
def tidyInt? (s : List Char) : Option (List Char) :=
  let bare? :=
    match Text.trimBy Text.isWhiteSpace s with
    | '+' :: '-' :: _ => none
    | '+' :: r => some r
    | s => some s
  let significant? := bare?.bind fun bare =>
    match bare with
    | '0' :: r => dropZeros '0' r
    | c :: r => if Text.isAsciiDigit c || c = '-' then some (c :: r) else none
    | [] => none
  significant?.map fun s => dropGaps (dropZeroFraction s)

/-- The integer in a text. -/
def intOfText (s : String) : Except IssueKind Int :=
  match plainInt s.toList with
  | .error .intNotReadable =>
    match tidyInt? s.toList with
    | some tidy => plainInt tidy
    | none => .error .intNotReadable
  | result => result

end TestImpact.Config
