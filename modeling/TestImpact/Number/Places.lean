import TestImpact.Number.Binary64

/-!
# Numbers to a given number of digits

A magnitude with a given number of digits after the point, either as it is or with an exponent. The
last digit is rounded from the exact value, and a tie goes to the even digit.
-/

namespace TestImpact.Binary64

/-- How a number is written to a given number of digits. -/
inductive DigitStyle where
  /-- All digits before the point. -/
  | positional
  /-- One digit before the point, and an exponent. -/
  | scientific
  /-- Significant digits, with an exponent only for numbers that are very large or small. -/
  | significant
  deriving DecidableEq, Repr

/-- Digits with a point before the last `places` of them. -/
def pointAt (places : Nat) (keepPoint : Bool) (digits : List Char) : List Char :=
  let padded := List.replicate (places + 1 - digits.length) '0' ++ digits
  let whole := padded.take (padded.length - places)
  let fraction := padded.drop (padded.length - places)
  if fraction.isEmpty && !keepPoint then whole else whole ++ '.' :: fraction

def positional (x : Binary64) (places : Nat) (keepPoint : Bool) : List Char :=
  let (num, den) := x.ratio
  pointAt places keepPoint (Nat.toDigits 10 (roundDiv (num * Nat.pow 10 places) den))

/-- The digits of a magnitude rounded to `count` of them, and the exponent of the first. -/
def rounded (x : Binary64) (count : Nat) : Nat × Int :=
  if x.isZero then (0, 0)
  else
    let (num, den) := x.ratio
    let lead := digitsBeforePoint num den - 1
    let shift : Int := (count : Int) - 1 - lead
    let digits := roundDiv (num * Nat.pow 10 shift.toNat) (den * Nat.pow 10 (-shift).toNat)
    if digits = Nat.pow 10 count then (digits / 10, lead + 1) else (digits, lead)

def withExponent (mantissa : List Char) (exponent : Int) : List Char :=
  let power := Nat.toDigits 10 exponent.natAbs
  mantissa ++ 'e' :: (if exponent < 0 then '-' else '+') ::
    (List.replicate (2 - power.length) '0' ++ power)

def scientific (x : Binary64) (places : Nat) (keepPoint : Bool) : List Char :=
  let (digits, exponent) := x.rounded (places + 1)
  withExponent (pointAt places keepPoint (Nat.toDigits 10 digits)) exponent

/-- A text without the zeros at the end of its fraction. -/
def dropZeros (s : List Char) : List Char :=
  if s.contains '.' then
    ((s.reverse.dropWhile (· = '0')).dropWhile (· = '.')).reverse
  else s

/-- `count` significant digits. Zeros at the end of a fraction are dropped unless the point is
kept. -/
def significant (x : Binary64) (count : Nat) (keepPoint : Bool) : List Char :=
  let count := max count 1
  let (digits, exponent) := x.rounded count
  let trim (s : List Char) : List Char := if keepPoint then s else dropZeros s
  if -4 ≤ exponent && exponent < count then
    trim (x.positional ((count : Int) - 1 - exponent).toNat keepPoint)
  else
    withExponent (trim (pointAt (count - 1) keepPoint (Nat.toDigits 10 digits))) exponent

/-- The text of a magnitude to a number of digits. -/
def toPlaces (x : Binary64) (style : DigitStyle) (digits : Nat) (keepPoint : Bool) : List Char :=
  if x.isNaN then "nan".toList
  else if x.isInfinite then "inf".toList
  else
    match style with
    | .positional => x.positional digits keepPoint
    | .scientific => x.scientific digits keepPoint
    | .significant => x.significant digits keepPoint

end TestImpact.Binary64
