import TestImpact.Text.Digits

/-!
# Double precision numbers

A 64-bit floating point number is kept as its bits and read as sign, significand and exponent of
two. A decimal is rounded to the nearest such number, with ties to the even one; written, a number
has the fewest significant digits that read back as the same number, and of those the nearest.
-/

namespace TestImpact

/-- A double precision number, by its bits. -/
structure Binary64 where
  bits : UInt64
  deriving DecidableEq, Repr, Inhabited

namespace Binary64

/-- Exponent of ten of the last digit, beside the digits: `digits · 10 ^ exponent`. -/
structure Decimal where
  digits : Nat
  exponent : Int
  deriving DecidableEq, Repr

def isNegative (x : Binary64) : Bool := x.bits.toNat / Nat.pow 2 63 == 1

def biasedExponent (x : Binary64) : Nat := x.bits.toNat / Nat.pow 2 52 % Nat.pow 2 11

def fraction (x : Binary64) : Nat := x.bits.toNat % Nat.pow 2 52

def isFinite (x : Binary64) : Bool := x.biasedExponent != 0x7FF

def isInfinite (x : Binary64) : Bool := !x.isFinite && x.fraction == 0

def isNaN (x : Binary64) : Bool := !x.isFinite && x.fraction != 0

def isZero (x : Binary64) : Bool := x.biasedExponent == 0 && x.fraction == 0

/-- The integer whose product with `2 ^ scale` is the magnitude of a finite number. -/
def significand (x : Binary64) : Nat :=
  if x.biasedExponent == 0 then x.fraction else x.fraction + Nat.pow 2 52

def scale (x : Binary64) : Int :=
  if x.biasedExponent == 0 then -1074 else (x.biasedExponent : Int) - 1075

def ofParts (negative : Bool) (magnitude : Nat) : Binary64 :=
  ⟨UInt64.ofNat ((if negative then Nat.pow 2 63 else 0) + magnitude)⟩

/-- The pattern of infinity without its sign. -/
def infinityMagnitude : Nat := 0x7FF * Nat.pow 2 52

def infinity (negative : Bool) : Binary64 := ofParts negative infinityMagnitude

def nan : Binary64 := ofParts false (infinityMagnitude + Nat.pow 2 51)

/-- `num / den` rounded to the nearest integer, a tie to the even neighbour. -/
def roundDiv (num den : Nat) : Nat :=
  let q := num / den
  let r := num % den
  if 2 * r < den then q
  else if den < 2 * r then q + 1
  else if q % 2 == 0 then q else q + 1

/-- The pattern of the magnitude nearest to `num / den`, a tie to the even one. Patterns of
consecutive magnitudes are consecutive, so a significand that rounds up to `2 ^ 53` carries into the
exponent. -/
def magnitudeOfRatio (num den : Nat) : Nat :=
  if num == 0 || den == 0 then 0
  else
    let rough : Int := (Nat.log2 num : Int) - Nat.log2 den
    let top : Int :=
      if den * Nat.pow 2 rough.toNat ≤ num * Nat.pow 2 (-rough).toNat then rough else rough - 1
    let shift : Int := max (top - 52) (-1074)
    let m := roundDiv (num * Nat.pow 2 (-shift).toNat) (den * Nat.pow 2 shift.toNat)
    min (m + (shift + 1074).toNat * Nat.pow 2 52) infinityMagnitude

/-- The number nearest to a signed decimal. -/
def ofDecimal (negative : Bool) (d : Decimal) : Binary64 :=
  ofParts negative
    (magnitudeOfRatio (d.digits * Nat.pow 10 d.exponent.toNat) (Nat.pow 10 (-d.exponent).toNat))

/-- The number nearest to a decimal whose exponent may be far out of range. -/
def ofDigits (negative : Bool) (digits : List Char) (exponent : Int) : Binary64 :=
  let significant := digits.dropWhile (· = '0')
  if significant.isEmpty then ofDecimal negative ⟨0, 0⟩
  else if 400 < exponent + significant.length then infinity negative
  else if exponent + significant.length < -400 then ofDecimal negative ⟨0, 0⟩
  else ofDecimal negative ⟨Text.natOfDigits significant, exponent⟩

def ofInt (n : Int) : Binary64 := ofDecimal (n < 0) ⟨n.natAbs, 0⟩

/-- Numerator and denominator of a finite magnitude. -/
def ratio (x : Binary64) : Nat × Nat :=
  (x.significand * Nat.pow 2 x.scale.toNat, Nat.pow 2 (-x.scale).toNat)

/-- The integer that a finite number is, if it has no fraction. -/
def toInt? (x : Binary64) : Option Int :=
  let (num, den) := x.ratio
  if x.isFinite && num % den == 0 then
    some (if x.isNegative then -((num / den : Nat) : Int) else ((num / den : Nat) : Int))
  else none

/-- The number of decimal digits before the point of `num / den`; zero or less for a fraction that
starts with zeros. -/
def digitsBeforePoint (num den : Nat) : Int :=
  let rough : Int := ((Nat.toDigits 10 num).length : Int) - (Nat.toDigits 10 den).length
  if den * Nat.pow 10 rough.toNat ≤ num * Nat.pow 10 (-rough).toNat then rough + 1 else rough

/-- The decimal of `count` digits that reads back as the magnitude `num / den` and is nearest to it,
if there is one: only the two neighbours of the magnitude on that grid can read back. -/
def shortestOfCount? (num den count : Nat) : Option Decimal :=
  let exponent : Int := digitsBeforePoint num den - count
  let scaledNum := num * Nat.pow 10 (-exponent).toNat
  let scaledDen := den * Nat.pow 10 exponent.toNat
  let below := scaledNum / scaledDen
  let pattern := magnitudeOfRatio num den
  let readsBack (digits : Nat) : Bool :=
    magnitudeOfRatio (digits * Nat.pow 10 exponent.toNat) (Nat.pow 10 (-exponent).toNat) == pattern
  let nearestFirst :=
    if roundDiv scaledNum scaledDen == below then [below, below + 1] else [below + 1, below]
  (nearestFirst.find? readsBack).map (⟨·, exponent⟩)

/-- The fewest digits that read back; seventeen always do. -/
def shortest (x : Binary64) : Decimal :=
  let (num, den) := x.ratio
  ((List.range 17).findSome? fun n => shortestOfCount? num den (n + 1)).getD ⟨0, 0⟩

/-- Digits and exponent with no zero at the end of the digits. -/
def stripZeros : Nat → Decimal → Decimal
  | 0, d => d
  | fuel + 1, d =>
    if d.digits != 0 && d.digits % 10 == 0 then stripZeros fuel ⟨d.digits / 10, d.exponent + 1⟩
    else d

/-- How numbers are written: the exponents of the first digit for which the point stands among the
digits, and the least number of digits of an exponent. -/
structure Layout where
  leastPositional : Int
  mostPositional : Int
  exponentWidth : Nat
  deriving DecidableEq, Repr

/-- Points stand among the digits from 10⁻⁴ up to 10¹⁶; an exponent has a sign and two digits. -/
def layout : Layout := ⟨-4, 15, 2⟩

/-- The digits of a positive decimal with a point or an exponent. -/
def renderDecimal (layout : Layout) (d : Decimal) : List Char :=
  let digits := Nat.toDigits 10 d.digits
  let lead : Int := d.exponent + digits.length - 1
  if layout.leastPositional ≤ lead && lead ≤ layout.mostPositional then
    if 0 ≤ d.exponent then digits ++ List.replicate d.exponent.toNat '0' ++ ['.', '0']
    else if 0 ≤ lead then
      digits.take (lead.toNat + 1) ++ '.' :: digits.drop (lead.toNat + 1)
    else ['0', '.'] ++ List.replicate (-lead - 1).toNat '0' ++ digits
  else
    let power := Nat.toDigits 10 lead.natAbs
    let padded := List.replicate (layout.exponentWidth - power.length) '0' ++ power
    let mantissa :=
      match digits with
      | [d] => [d]
      | d :: rest => d :: '.' :: rest
      | [] => []
    mantissa ++ 'e' :: (if lead < 0 then '-' else '+') :: padded

/-- A number in the fewest digits that read back. -/
def toText (x : Binary64) : String :=
  if x.isNaN then "nan"
  else
    let magnitude :=
      if x.isInfinite then "inf".toList
      else if x.isZero then "0.0".toList
      else renderDecimal layout (stripZeros 17 x.shortest)
    String.ofList (if x.isNegative then '-' :: magnitude else magnitude)

instance : ToString Binary64 := ⟨toText⟩

/-- Sameness of numbers as keys: the two zeros are the same. The only NaN that is ever a key is the one
that `.nan` stands for, so it is one key however often it is written. -/
def sameNumber (x y : Binary64) : Bool := x.bits == y.bits || (x.isZero && y.isZero)

def neg (x : Binary64) : Binary64 := ⟨x.bits ^^^ 0x8000000000000000⟩

/-- Sum, rounded to the nearest number. -/
def add (x y : Binary64) : Binary64 := ⟨(Float.ofBits x.bits + Float.ofBits y.bits).toBits⟩

/-- Product, rounded to the nearest number. -/
def mul (x y : Binary64) : Binary64 := ⟨(Float.ofBits x.bits * Float.ofBits y.bits).toBits⟩

end Binary64

end TestImpact
