import TestImpact.Child.Shell.Arithmetic
import TestImpact.Child.Utility.Program

/-!
# Sequences

`seq` prints numbers from a first to a last one.
-/

namespace TestImpact.Child.Utility

open Shell (digitsOf)

/-- A decimal number as its digits and how many of them stand behind the point. -/
def decimal? (s : Raw) : Option (Int × Nat) :=
  let (isNegative, t) :=
    match s with
    | '-' :: t => (true, t)
    | '+' :: t => (false, t)
    | t => (false, t)
  let (whole, fraction) := (Text.cut? '.' t).getD (t, [])
  if (whole ++ fraction).isEmpty || !(whole ++ fraction).all Char.isDigit then none
  else
    let n : Int := Text.natOfDigits (whole ++ fraction)
    some (if isNegative then -n else n, fraction.length)

/-- A number with digits behind the point, filled up with zeros to a width. -/
def decimalText (n : Int) (places width : Nat) : Raw :=
  let digits := digitsOf n.natAbs
  let digits := List.replicate (places + 1 - digits.length) '0' ++ digits
  let whole := digits.take (digits.length - places)
  let fraction := digits.drop (digits.length - places)
  let text := whole ++ (if places = 0 then [] else '.' :: fraction)
  let sign := if n < 0 then ['-'] else []
  sign ++ List.replicate (width - (sign.length + text.length)) '0' ++ text

/-- How many numbers a sequence may have. -/
def longestSequence : Nat := 1000000

def runSequence (name : Raw) (arguments : List Raw) : Action Unit := do
  let isNumber (a : Raw) : Bool := (decimal? a).isSome
  let options := arguments.takeWhile (!isNumber ·)
  let (found, extra) ← (⟨"w", "sf", []⟩ : OptionSpec).read name 1
    (if options.getLast?.any (fun o => o = ['-', 's']) then
      arguments.take (options.length + 1) else options)
  let numbers := if options.getLast?.any (fun o => o = ['-', 's']) then
      arguments.drop (options.length + 1) else extra ++ arguments.drop options.length
  match numbers.mapM decimal? with
  | none =>
    match numbers.find? (!isNumber ·) with
    | some bad => misuse name 1 ("invalid floating point argument: " ++ quoted bad)
    | none => pure ()
  | some values =>
    let sequence? : Option ((Int × Nat) × (Int × Nat) × (Int × Nat)) :=
      match values with
      | [last] => some ((1, 0), (1, 0), last)
      | [first, last] => some (first, (1, 0), last)
      | [first, increment, last] => some (first, increment, last)
      | _ => none
    match sequence? with
    | none =>
      if values.isEmpty then misuse name 1 "missing operand"
      else misuse name 1 ("extra operand " ++ quoted (numbers[3]?.getD []))
    | some ((a, p), (d, q), (b, r)) =>
      if d = 0 then misuse name 1 "invalid Zero increment value: '0'"
      let places := max p q
      let scale := max places r
      let up (n : Int) (k : Nat) : Int := n * Nat.pow 10 (scale - k)
      let first := up a p
      let step := up d q
      let last := up b r
      let count := if (0 < step && last < first) || (step < 0 && first < last) then 0
        else ((last - first) / step).toNat + 1
      let shown (width : Nat) (k : Nat) : Raw :=
        decimalText ((first + step * k) / (Nat.pow 10 (scale - places) : Int)) places width
      let width := if has found 'w' then max (shown 0 0).length (shown 0 (count - 1)).length else 0
      let all := (List.range (min count longestSequence)).map (shown width)
      let sep := (valueOf? found 's').getD ['\n']
      if !all.isEmpty then say (Raw.join sep all ++ ['\n'])
      setStatus 0

end TestImpact.Child.Utility
