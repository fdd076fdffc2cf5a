import TestImpact.Data.Basic
import TestImpact.Number.Limit
import TestImpact.Text.Digits

/-!
# Reading JSON

A JSON text is cut into tokens and the tokens are read as one value. Beyond the standard, the words
`NaN`, `Infinity` and `-Infinity` are numbers. A number with a point or an exponent is a floating
point number, and any other number with too many digits is not read; a name that is repeated in an
object keeps its first place and its last value.

Texts are sequences of characters, so that a surrogate on its own, which only an escape can write,
has no place in them: U+FFFD stands for it, here as in quoted YAML. A text with one is therefore not
told from the text with that character.
-/

namespace TestImpact.Json

inductive Token where
  | openMap
  | closeMap
  | openList
  | closeList
  | comma
  | colon
  | text (s : String)
  | scalar (value : Data)

/-- Code units to characters: a high and a low surrogate make one character, and U+FFFD stands for a
surrogate on its own. -/
def joinSurrogates : List Nat → List Char
  | [] => []
  | [n] => [if 0xD800 ≤ n && n < 0xE000 then '\uFFFD' else Char.ofNat n]
  | high :: low :: rest =>
    if 0xD800 ≤ high && high < 0xDC00 && 0xDC00 ≤ low && low < 0xE000 then
      Char.ofNat (0x10000 + (high - 0xD800) * 0x400 + (low - 0xDC00)) :: joinSurrogates rest
    else if 0xD800 ≤ high && high < 0xE000 then '\uFFFD' :: joinSurrogates (low :: rest)
    else Char.ofNat high :: joinSurrogates (low :: rest)

/-- The character that a letter after a backslash stands for. -/
def escape? : Char → Option Char
  | '"' => some '"'
  | '\\' => some '\\'
  | '/' => some '/'
  | 'b' => some '\x08'
  | 'f' => some '\x0c'
  | 'n' => some '\n'
  | 'r' => some '\r'
  | 't' => some '\t'
  | _ => none

/-- The code units up to the closing quote, in reverse, and what follows it. -/
def lexText (done : List Nat) : List Char → Option (List Nat × List Char)
  | [] => none
  | '"' :: r => some (done, r)
  | '\\' :: 'u' :: a :: b :: c :: d :: r =>
    match Text.natInBase? 16 [a, b, c, d] with
    | some n => lexText (n :: done) r
    | none => none
  | '\\' :: e :: r =>
    match escape? e with
    | some c => lexText (c.toNat :: done) r
    | none => none
  | c :: r => if c.toNat < 0x20 || c = '\\' then none else lexText (c.toNat :: done) r

/-- An optional fraction and an optional exponent: the digits after the point, the exponent, whether
any of the two is there, and the rest. -/
def lexFraction (s : List Char) : List Char × Int × Bool × List Char :=
  let (fraction, afterFraction) :=
    match s with
    | '.' :: r =>
      match r.takeWhile Text.isAsciiDigit with
      | [] => ([], s)
      | digits => (digits, r.dropWhile Text.isAsciiDigit)
    | _ => ([], s)
  let exponentOf (sign : Int) (r : List Char) : Option (Int × List Char) :=
    match r.takeWhile Text.isAsciiDigit with
    | [] => none
    | digits => some (sign * (Text.natOfDigits digits : Int), r.dropWhile Text.isAsciiDigit)
  let exponent? : Option (Int × List Char) :=
    match afterFraction with
    | 'e' :: '-' :: r | 'E' :: '-' :: r => exponentOf (-1) r
    | 'e' :: '+' :: r | 'E' :: '+' :: r => exponentOf 1 r
    | 'e' :: r | 'E' :: r => exponentOf 1 r
    | _ => none
  match exponent? with
  | some (e, rest) => (fraction, e, true, rest)
  | none => (fraction, 0, !fraction.isEmpty, afterFraction)

/-- A number without its sign. -/
def lexMagnitude (limit : Number.DigitLimit) (negative : Bool) (s : List Char) :
    Option (Data × List Char) :=
  let whole :=
    match s with
    | '0' :: _ => ['0']
    | _ => s.takeWhile Text.isAsciiDigit
  if whole.isEmpty then none
  else
    let (fraction, exponent, isFloat, rest) := lexFraction (s.drop whole.length)
    if isFloat then
      some (.float (.ofDigits negative (whole ++ fraction) (exponent - fraction.length)), rest)
    else if !limit.reads whole.length then none
    else
      let n : Int := Text.natOfDigits whole
      some (.int (if negative then -n else n), rest)

/-- The words that stand for values. -/
def words : List (List Char × Data) :=
  [("true".toList, .bool true), ("false".toList, .bool false), ("null".toList, .null),
   ("NaN".toList, .float Binary64.nan), ("Infinity".toList, .float (Binary64.infinity false)),
   ("-Infinity".toList, .float (Binary64.infinity true))]

def lexWord (s : List Char) : Option (Data × List Char) :=
  words.findSome? fun (word, value) => (Text.dropLead? word s).map (value, ·)

def lexScalar (limit : Number.DigitLimit) (s : List Char) : Option (Data × List Char) :=
  (lexWord s).or <|
    match s with
    | '-' :: r => lexMagnitude limit true r
    | _ => lexMagnitude limit false s

/-- The tokens of a text; the number bounds their number. -/
def lex (limit : Number.DigitLimit) : Nat → List Char → Option (List Token)
  | 0, s => if s.isEmpty then some [] else none
  | _ + 1, [] => some []
  | n + 1, c :: r =>
    if c = ' ' || c = '\t' || c = '\n' || c = '\r' then lex limit n r
    else if c = '\x7b' then (lex limit n r).map (.openMap :: ·)
    else if c = '\x7d' then (lex limit n r).map (.closeMap :: ·)
    else if c = '[' then (lex limit n r).map (.openList :: ·)
    else if c = ']' then (lex limit n r).map (.closeList :: ·)
    else if c = ',' then (lex limit n r).map (.comma :: ·)
    else if c = ':' then (lex limit n r).map (.colon :: ·)
    else if c = '"' then do
      let (units, rest) ← lexText [] r
      (lex limit n rest).map (.text (String.ofList (joinSurrogates units.reverse)) :: ·)
    else do
      let (value, rest) ← lexScalar limit (c :: r)
      (lex limit n rest).map (.scalar value :: ·)

mutual

/-- One value and the tokens after it; the first argument bounds the number of tokens. -/
def readValue : Nat → List Token → Option (Data × List Token)
  | _ + 1, .text s :: r => some (.text s, r)
  | _ + 1, .scalar value :: r => some (value, r)
  | _ + 1, .openList :: .closeList :: r => some (.list [], r)
  | n + 1, .openList :: r => readItems n [] r
  | _ + 1, .openMap :: .closeMap :: r => some (.map [], r)
  | n + 1, .openMap :: r => readMembers n [] r
  | _, _ => none

/-- The items of a list up to its end, after those that are `done` in reverse. -/
def readItems : Nat → List Data → List Token → Option (Data × List Token)
  | 0, _, _ => none
  | n + 1, done, tokens =>
    match readValue n tokens with
    | some (value, .comma :: r) => readItems n (value :: done) r
    | some (value, .closeList :: r) => some (.list (value :: done).reverse, r)
    | _ => none

def readMembers : Nat → List (Data × Data) → List Token → Option (Data × List Token)
  | n + 1, done, .text name :: .colon :: tokens =>
    match readValue n tokens with
    | some (value, .comma :: r) => readMembers n ((.text name, value) :: done) r
    | some (value, .closeMap :: r) =>
      some (.map (Data.ofEntries ((.text name, value) :: done).reverse), r)
    | _ => none
  | _, _, _ => none

end

/-- The value that a JSON text writes. -/
def read? (limit : Number.DigitLimit) (s : String) : Option Data := do
  let tokens ← lex limit (s.length + 1) s.toList
  match readValue (2 * tokens.length + 2) tokens with
  | some (value, []) => some value
  | _ => none

end TestImpact.Json
