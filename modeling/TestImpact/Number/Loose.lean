import TestImpact.Number.Binary64
import TestImpact.Text.Blank

/-!
# Numbers as people write them

Numbers in texts with white space around them, digits of any script, and single underscores between
digits. The information separators are blank but are no white space.
-/

namespace TestImpact.Number

def dropSign : List Char → List Char
  | '-' :: r => r
  | '+' :: r => r
  | s => s

/-- Digits of a base with single underscores between them; one may stand in front. -/
def looseDigits? (base : Nat) (s : List Char) : Option Nat :=
  let digit? (c : Char) : Option Nat :=
    match Text.digitValue? c with
    | some d => if d < base then some d else none
    | none => Text.digitInBase? base c
  let rec go (gap : Bool) (n : Nat) : List Char → Option Nat
    | [] => if gap then none else some n
    | '_' :: r => if gap then none else go true n r
    | c :: r => (digit? c).bind fun d => go false (base * n + d) r
  match s with
  | [] => none
  | s => go true 0 s

/-- The letter that marks a number of a base. -/
def baseMark? : Nat → Option Char
  | 2 => some 'b'
  | 8 => some 'o'
  | 16 => some 'x'
  | _ => none

/-- An integer of a base: white space around it, a sign and a mark of the base are allowed. -/
def looseInt? (base : Nat) (s : List Char) : Option Int :=
  let trimmed := Text.trimBy Text.isWhiteSpace s
  let magnitude := dropSign trimmed
  let bare :=
    match magnitude with
    | '0' :: m :: r =>
      if baseMark? base = some m.toLower then (match r with | '_' :: r => r | r => r) else magnitude
    | _ => magnitude
  (looseDigits? base bare).map fun n => if trimmed.head? = some '-' then -(n : Int) else n

/-- A floating point number in a text, with white space around it and underscores between digits. -/
def looseFloat? (s : List Char) : Option Binary64 :=
  let trimmed := Text.trimBy Text.isWhiteSpace s
  let magnitude := dropSign trimmed
  let negative := trimmed.head? = some '-'
  let word := (String.ofList magnitude).toLower
  if word = "inf" || word = "infinity" then some (Binary64.infinity negative)
  else if word = "nan" then some Binary64.nan
  else
    let plainDigit (c : Char) : Option Char :=
      (Text.digitValue? c).map fun d => Char.ofNat (48 + d)
    let ascii := magnitude.map fun c => (plainDigit c).getD c
    let rec tidy : List Char → Option (List Char)
      | a :: '_' :: b :: r =>
        if Text.isAsciiDigit a && Text.isAsciiDigit b then (tidy (b :: r)).map (a :: ·) else none
      | '_' :: _ => none
      | c :: r => (tidy r).map (c :: ·)
      | [] => some []
    match tidy ascii with
    | none => none
    | some text =>
      let whole := text.takeWhile Text.isAsciiDigit
      let rest := text.dropWhile Text.isAsciiDigit
      let (fraction, rest) :=
        match rest with
        | '.' :: r => (r.takeWhile Text.isAsciiDigit, r.dropWhile Text.isAsciiDigit)
        | _ => ([], rest)
      let exponent? : Option Int :=
        match rest with
        | [] => some 0
        | e :: r =>
          if e ≠ 'e' && e ≠ 'E' then none
          else
            let digits := dropSign r
            if digits.isEmpty || !digits.all Text.isAsciiDigit then none
            else
              let n : Int := Text.natOfDigits digits
              some (if r.head? = some '-' then -n else n)
      if whole.isEmpty && fraction.isEmpty then none
      else
        exponent?.map fun e => Binary64.ofDigits negative (whole ++ fraction) (e - fraction.length)

end TestImpact.Number
