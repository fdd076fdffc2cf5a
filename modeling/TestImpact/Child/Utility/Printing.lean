import TestImpact.Child.Shell.Arithmetic
import TestImpact.Child.Utility.Options
import TestImpact.Number.Places

/-!
# Printing

What `echo` and `printf` print. Both know escapes with a backslash; a format is used again until no
argument is left.
-/

namespace TestImpact.Child.Printing

open Shell

/-! ### Escapes -/

def isOctal (c : Char) : Bool := '0' ≤ c && c ≤ '7'

/-- Up to three octal digits as a character, and what follows them. -/
def readOctal (s : Raw) : Char × Raw :=
  let digits := (s.take 3).takeWhile isOctal
  let n := (Text.natInBase? 8 digits).getD 0
  (Char.ofNat (n % 256), s.drop digits.length)

/-- The characters that have an escape of one letter. -/
def escapes : List (Char × Char) :=
  [('\\', '\\'), ('a', '\x07'), ('b', '\x08'), ('e', '\x1b'), ('f', '\x0c'), ('n', '\n'),
   ('r', '\r'), ('t', '\t'), ('v', '\x0b')]

/-- The character of an escape behind its backslash, and what follows it. Any other character
leaves the backslash as it is. -/
def readEscape (s : Raw) : Char × Raw :=
  match s with
  | [] => ('\\', [])
  | c :: r =>
    if isOctal c then readOctal s
    else
      match escapes.lookup c with
      | some d => (d, r)
      | none => ('\\', s)

/-- A text with its escapes replaced; the flag says whether output ends there. The first number
bounds the characters. -/
def unescape : Nat → Raw → Raw × Bool
  | 0, _ => ([], false)
  | _ + 1, [] => ([], false)
  | n + 1, '\\' :: r =>
    match r with
    | 'c' :: _ => ([], true)
    | _ =>
      let digits :=
        match r with
        | '0' :: d :: _ => if isOctal d then r.tail else r
        | _ => r
      let (c, rest) := readEscape digits
      let (s, ends) := unescape n rest
      (c :: s, ends)
  | n + 1, c :: r =>
    let (s, ends) := unescape n r
    (c :: s, ends)

/-- A text with its escapes replaced. -/
def unescaped (s : Raw) : Raw × Bool := unescape (s.length + 1) s

/-- What the `echo` of the shell prints. -/
def echoText (arguments : List Raw) : Raw :=
  let (isBare, arguments) :=
    match arguments with
    | ['-', 'n'] :: rest => (true, rest)
    | _ => (false, arguments)
  let (s, ends) := unescaped (Raw.join [' '] arguments)
  if isBare || ends then s else s ++ ['\n']

/-- What the program of the same name prints: it takes escapes only if asked to. -/
def programEchoText (isBare escapes : Bool) : List Raw → Raw
  | [] => if isBare then [] else ['\n']
  | first :: rest =>
    let isFlag : Bool :=
      match first with
      | '-' :: c :: letters => (c :: letters).all "neE".toList.contains
      | _ => false
    if isFlag then
      programEchoText (isBare || first.contains 'n')
        (first.foldl (fun on c => if c = 'e' then true else if c = 'E' then false else on) escapes)
        rest
    else
      let text := Raw.join [' '] (first :: rest)
      let (s, ends) := if escapes then unescaped text else (text, false)
      if isBare || ends then s else s ++ ['\n']

/-! ### Formats -/

/-- How a value is shown: flags, the least width, and the number of digits or characters. -/
structure Layout where
  isLeft : Bool
  plus : Bool
  gap : Bool
  zero : Bool
  alternate : Bool
  width : Nat
  precision : Option Nat
  deriving DecidableEq, Repr, Inhabited

namespace Layout

/-- A sign or mark and text, filled up to the width. -/
def pad (l : Layout) (lead text : Raw) (fillsZeros : Bool) : Raw :=
  let missing := l.width - (lead.length + text.length)
  if l.isLeft then lead ++ text ++ List.replicate missing ' '
  else if fillsZeros && l.zero then lead ++ List.replicate missing '0' ++ text
  else List.replicate missing ' ' ++ lead ++ text

def sign (l : Layout) (isNegative : Bool) : Raw :=
  if isNegative then ['-'] else if l.plus then ['+'] else if l.gap then [' '] else []

/-- Digits with zeros in front up to the precision. -/
def digits (l : Layout) (base n : Nat) : Raw :=
  let plain := if n = 0 && l.precision = some 0 then [] else Nat.toDigits base n
  List.replicate (l.precision.getD 0 - plain.length) '0' ++ plain

def integer (l : Layout) (n : Int) : Raw :=
  l.pad (l.sign (n < 0)) (l.digits 10 n.natAbs) l.precision.isNone

def unsigned (l : Layout) (conversion : Char) (n : Nat) : Raw :=
  let base := if conversion = 'o' then 8 else if conversion = 'u' then 10 else 16
  let digits := l.digits base n
  let digits :=
    if conversion = 'o' && l.alternate && digits.head? ≠ some '0' then '0' :: digits else digits
  let lead := if base = 16 && l.alternate && n ≠ 0 then "0x".toList else []
  let shown := l.pad lead digits l.precision.isNone
  if conversion = 'X' then shown.map Char.toUpper else shown

def text (l : Layout) (s : Raw) : Raw := l.pad [] (l.precision.elim s s.take) false

def real (l : Layout) (conversion : Char) (x : Binary64) : Raw :=
  let style : Binary64.DigitStyle :=
    match conversion.toLower with
    | 'e' => .scientific
    | 'g' => .significant
    | _ => .positional
  let shown := x.toPlaces style (l.precision.getD 6) l.alternate
  let shown := l.pad (l.sign (x.isNegative && !x.isNaN)) shown x.isFinite
  if conversion.isUpper then shown.map Char.toUpper else shown

end Layout

/-- What is printed so far, the arguments that are left, and what was complained about. -/
structure Printed where
  text : Raw
  arguments : List Raw
  complaints : List Raw
  /-- Whether output ends here. -/
  ends : Bool
  /-- Whether the format cannot be used. -/
  fails : Bool
  deriving Inhabited

namespace Printed

def add (p : Printed) (s : Raw) : Printed := { p with text := p.text ++ s }

def warn (p : Printed) (s : Raw) : Printed := { p with complaints := p.complaints ++ [s] }

def fail (p : Printed) (s : Raw) : Printed := { p.warn s with fails := true }

/-- The next argument. -/
def next (p : Printed) : Option Raw × Printed :=
  (p.arguments.head?, { p with arguments := p.arguments.tail })

end Printed

/-- The character behind a quote, as a number. -/
def quotedNumber? (s : Raw) : Option Nat :=
  match s with
  | q :: r => if q = '"' || q = '\'' then some (r.head?.elim 0 Char.toNat) else none
  | [] => none

/-- The sign of a number at the start of a text, and the text behind it. -/
def readSign (s : Raw) : Bool × Raw :=
  let isSpace (c : Char) : Bool := c = ' ' || (9 ≤ c.toNat && c.toNat ≤ 13)
  match s.dropWhile isSpace with
  | '-' :: r => (true, r)
  | '+' :: r => (false, r)
  | r => (false, r)

/-- Complains about an argument that is no number as a whole. -/
def checkWhole (s rest : Raw) (isEmpty outOfRange : Bool) (p : Printed) : Printed :=
  if isEmpty && !s.isEmpty then p.warn (s ++ ": expected numeric value".toList)
  else if !rest.isEmpty && !s.isEmpty then p.warn (s ++ ": not completely converted".toList)
  else if outOfRange then p.warn (s ++ ": Numerical result out of range".toList)
  else p

/-- The next argument as a whole number. -/
def takeInteger (isSigned : Bool) (p : Printed) : Int × Printed :=
  match p.next with
  | (none, p) => (0, p)
  | (some s, p) =>
    match quotedNumber? s with
    | some n => (n, p)
    | none =>
      let (isNegative, digits) := readSign s
      if digits.head?.any Char.isDigit then
        let (n, rest) := readNatural digits
        let (low, high) : Int × Int :=
          if isSigned then (-greatest - 1, greatest) else (-greatestUnsigned, greatestUnsigned)
        let value := if isNegative then -(n : Int) else n
        let outOfRange := value < low || high < value
        let kept :=
          if isSigned then max low (min high value)
          else if outOfRange then high
          else value.emod (greatestUnsigned + 1)
        (kept, checkWhole s rest false outOfRange p)
      else (0, checkWhole s s true false p)

/-- A number with a point and an exponent at the start of a text, and what follows it. -/
def readReal (s : Raw) : Option (Binary64 × Raw) :=
  let (isNegative, r) := readSign s
  let lower := r.map Char.toLower
  let word (w : String) : Option Raw := (Text.dropLead? w.toList lower).map fun rest =>
    r.drop (r.length - rest.length)
  match (word "infinity").or (word "inf"), word "nan" with
  | some rest, _ => some (Binary64.infinity isNegative, rest)
  | none, some rest => some (Binary64.nan, rest)
  | none, none =>
    let whole := r.takeWhile Char.isDigit
    let rest := r.drop whole.length
    let fraction :=
      match rest with
      | '.' :: t => t.takeWhile Char.isDigit
      | _ => []
    if whole.isEmpty && fraction.isEmpty then none
    else
      let rest := if rest.head? = some '.' then rest.drop (fraction.length + 1) else rest
      let (exponent, rest) : Int × Raw :=
        match rest with
        | e :: t =>
          if e = 'e' || e = 'E' then
            let (isDown, digits) := readSign t
            let power := digits.takeWhile Char.isDigit
            if power.isEmpty || t.head? = some ' ' then (0, rest)
            else
              let n : Int := Text.natOfDigits power
              (if isDown then -n else n, digits.drop power.length)
          else (0, rest)
        | [] => (0, [])
      some (Binary64.ofDigits isNegative (whole ++ fraction) (exponent - fraction.length), rest)

/-- The next argument as a number. -/
def takeReal (p : Printed) : Binary64 × Printed :=
  match p.next with
  | (none, p) => (.ofInt 0, p)
  | (some s, p) =>
    match quotedNumber? s with
    | some n => (.ofInt n, p)
    | none =>
      match readReal s with
      | some (x, rest) => (x, checkWhole s rest false false p)
      | none => (.ofInt 0, checkWhole s s true false p)

/-- A width or a precision: a star takes the next argument. -/
def takeCount (s : Raw) (p : Printed) : Option Int × Raw × Printed :=
  match s with
  | '*' :: r =>
    let (n, p) := takeInteger true p
    (some n, r, p)
  | _ =>
    let digits := s.takeWhile Char.isDigit
    (if digits.isEmpty then none else some (Text.natOfDigits digits), s.drop digits.length, p)

/-- Fills in one conversion behind its sign. -/
def convert (s : Raw) (p : Printed) : Raw × Printed :=
  let flags := s.takeWhile "#-+ 0".toList.contains
  let (width, afterWidth, p) := takeCount (s.drop flags.length) p
  let (precision, rest, p) : Option Int × Raw × Printed :=
    match afterWidth with
    | '.' :: r =>
      let (n, rest, p) := takeCount r p
      (some (n.getD 0), rest, p)
    | r => (none, r, p)
  let layout : Layout := {
    isLeft := flags.contains '-' || width.any (· < 0)
    plus := flags.contains '+'
    gap := flags.contains ' '
    zero := flags.contains '0'
    alternate := flags.contains '#'
    width := (width.getD 0).natAbs
    precision := (precision.filter (0 ≤ ·)).map Int.toNat }
  match rest with
  | [] => ([], p.fail "missing format character".toList)
  | c :: rest =>
    match c with
    | 's' =>
      let (arg, p) := p.next
      (rest, p.add (layout.text (arg.getD [])))
    | 'b' =>
      let (arg, p) := p.next
      let (text, ends) := unescaped (arg.getD [])
      (rest, { p.add (layout.text text) with ends })
    | 'c' =>
      let (arg, p) := p.next
      let shown := (arg.bind List.head?).getD '\x00'
      (rest, p.add (layout.pad [] [shown] false))
    | 'd' | 'i' =>
      let (n, p) := takeInteger true p
      (rest, p.add (layout.integer n))
    | 'o' | 'u' | 'x' | 'X' =>
      let (n, p) := takeInteger false p
      (rest, p.add (layout.unsigned c n.toNat))
    | 'e' | 'E' | 'f' | 'F' | 'g' | 'G' =>
      let (x, p) := takeReal p
      (rest, p.add (layout.real c x))
    | c =>
      let written := s.take (s.length - rest.length - 1) ++ [c]
      (rest, p.fail ('%' :: written ++ ": invalid directive".toList))

/-- Uses a format once; the first number bounds its characters. -/
def fillOnce : Nat → Raw → Printed → Printed
  | 0, _, p => p
  | _ + 1, [], p => p
  | n + 1, '\\' :: r, p =>
    let (c, rest) := readEscape r
    fillOnce n rest (p.add [c])
  | n + 1, '%' :: '%' :: r, p => fillOnce n r (p.add ['%'])
  | n + 1, '%' :: r, p =>
    let (rest, p) := convert r p
    if p.ends || p.fails then p else fillOnce n rest p
  | n + 1, c :: r, p => fillOnce n r (p.add [c])

/-- Uses a format until no argument is left; the first number bounds how often. -/
def fill (format : Raw) : Nat → Printed → Printed
  | 0, p => p
  | n + 1, p =>
    let after := fillOnce (format.length + 1) format p
    if after.ends || after.fails || after.arguments.isEmpty ||
        after.arguments.length = p.arguments.length then after
    else fill format n after

/-- Prints a format with its arguments. -/
def runPrintf (arguments : List Raw) : Action Unit := do
  match ← Options.readNone arguments with
  | [] => fault "usage: printf format [arg ...]".toList
  | format :: arguments =>
    let p := fill format (arguments.length + 1) ⟨[], arguments, [], false, false⟩
    setStatus (if p.complaints.isEmpty then 0 else 1)
    say p.text
    for c in p.complaints do complain c
    if p.fails then
      setStatus 2
      throw .failed

end TestImpact.Child.Printing
