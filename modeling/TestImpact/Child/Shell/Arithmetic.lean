import TestImpact.Child.Shell.Syntax
import TestImpact.Text.Digits
import TestImpact.Text.Split

/-!
# Whole numbers in the shell

Expressions of whole numbers of 64 bits, with variables and assignments. An expression is evaluated
while it is read; an operand that does not count is read but has no effect.
-/

namespace TestImpact.Child.Shell

/-- A whole number in 64 bits. -/
def wrap (n : Int) : Int := (n + Nat.pow 2 63).emod (Nat.pow 2 64) - Nat.pow 2 63

def greatest : Int := Nat.pow 2 63 - 1

/-- The greatest number without a sign. -/
def greatestUnsigned : Int := Nat.pow 2 64 - 1

inductive NumberToken where
  | number (n : Int)
  | name (s : Raw)
  | sign (s : String)
  | ended
  | other
  deriving DecidableEq, Repr, Inhabited

/-- Why an expression has no value. -/
inductive NumberDefect where
  | expected (what : String)
  | divisionByZero
  /-- The value of a variable is no number. -/
  | noNumber (text : Raw)
  deriving DecidableEq, Repr, Inhabited

/-- The signs, those first that start with others. -/
def numberSigns : List String :=
  ["<<=", ">>=", "&&", "||", "==", "!=", "<=", ">=", "<<", ">>", "+=", "-=", "*=", "/=", "%=",
   "&=", "|=", "^=", "<", ">", "+", "-", "*", "/", "%", "&", "|", "^", "~", "!", "?", ":", "=",
   "(", ")"]

/-- A number at the start of a text, by the base that it is written in, and what follows it. -/
def readNatural (s : Raw) : Nat × Raw :=
  let ofBase (base : Nat) (s : Raw) : Nat × Raw :=
    let isDigit (c : Char) : Bool := (Text.digitInBase? base c).isSome
    ((Text.natInBase? base (s.takeWhile isDigit)).getD 0, s.dropWhile isDigit)
  match s with
  | '0' :: x :: d :: r =>
    if (x = 'x' || x = 'X') && (Text.digitInBase? 16 d).isSome then ofBase 16 (d :: r)
    else ofBase 8 s
  | '0' :: _ => ofBase 8 s
  | _ => ofBase 10 s

/-- The value of a text that is a number; an empty one is zero. -/
def wholeNumber? (s : Raw) : Option Int :=
  let isSpace (c : Char) : Bool := c = ' ' || (9 ≤ c.toNat && c.toNat ≤ 13)
  let s := s.dropWhile isSpace
  let (isNegative, digits) : Bool × Raw :=
    match s with
    | '-' :: r => (true, r)
    | '+' :: r => (false, r)
    | _ => (false, s)
  if s.isEmpty then some 0
  else if !digits.head?.any Char.isDigit then none
  else
    let (n, rest) := readNatural digits
    if rest.all isSpace then
      some (if isNegative then max (-(n : Int)) (-greatest - 1) else min n greatest)
    else none

/-- How far an expression was evaluated. -/
structure NumberState where
  rest : Raw
  token : NumberToken
  /-- The values of variables, the last ones first. -/
  assigned : List (Raw × Int)
  deriving Inhabited

abbrev NumberReader := StateT NumberState (Except NumberDefect)

/-- Reads the next token. -/
def nextNumberToken : NumberReader Unit :=
  modify fun s =>
    let text := s.rest.dropWhile fun c => isGap c || c = '\n'
    match text with
    | [] => { s with rest := [], token := .ended }
    | c :: r =>
      if c.isDigit then
        let (n, rest) := readNatural text
        { s with rest, token := .number (min n greatest) }
      else if isNameStart c then
        { s with rest := text.dropWhile isNameChar, token := .name (text.takeWhile isNameChar) }
      else
        let found := numberSigns.findSome? fun sign =>
          (Text.dropLead? sign.toList text).map (sign, ·)
        match found with
        | some (sign, rest) => { s with rest, token := .sign sign }
        | none => { s with rest := r, token := .other }

def ofBool (b : Bool) : Int := if b then 1 else 0

/-- How tightly an operator binds. -/
def rankOf? (sign : String) : Option Nat :=
  [("||", 1), ("&&", 2), ("|", 3), ("^", 4), ("&", 5), ("==", 6), ("!=", 6), ("<", 7), ("<=", 7),
   (">", 7), (">=", 7), ("<<", 8), (">>", 8), ("+", 9), ("-", 9), ("*", 10), ("/", 10),
   ("%", 10)].lookup sign

/-- The value of an operator between two numbers. -/
def applySign (sign : String) (m n : Int) : Except NumberDefect Int :=
  let bits (f : Nat → Nat → Nat) : Int :=
    wrap (f (m.emod (Nat.pow 2 64)).toNat (n.emod (Nat.pow 2 64)).toNat : Nat)
  let places := (n.emod 64).toNat
  match sign with
  | "+" => .ok (wrap (m + n))
  | "-" => .ok (wrap (m - n))
  | "*" => .ok (wrap (m * n))
  | "/" => if n = 0 then .error .divisionByZero else .ok (wrap (m.tdiv n))
  | "%" => if n = 0 then .error .divisionByZero else .ok (m.tmod n)
  | "<<" => .ok (wrap (m * Nat.pow 2 places))
  | ">>" => .ok (m.fdiv (Nat.pow 2 places))
  | "&" => .ok (bits Nat.land)
  | "|" => .ok (bits Nat.lor)
  | "^" => .ok (bits Nat.xor)
  | "<" => .ok (ofBool (m < n))
  | "<=" => .ok (ofBool (m ≤ n))
  | ">" => .ok (ofBool (n < m))
  | ">=" => .ok (ofBool (n ≤ m))
  | "==" => .ok (ofBool (m = n))
  | "!=" => .ok (ofBool (m ≠ n))
  | "&&" => .ok (ofBool (m ≠ 0 && n ≠ 0))
  | _ => .ok (ofBool (m ≠ 0 || n ≠ 0))

/-- The value of a variable. -/
def variableNumber (values : Raw → Option Raw) (name : Raw) : NumberReader Int := do
  match (← get).assigned.lookup name with
  | some n => return n
  | none =>
    let text := (values name).getD []
    match wholeNumber? text with
    | some n => return n
    | none => throw (.noNumber text)

/-- The operator of an assignment that is more than an equals sign. -/
def assigning? : NumberToken → Option (Option String)
  | .sign "=" => some none
  | .sign s =>
    if s.endsWith "=" && !(["==", "!=", "<=", ">="].contains s) then
      some (some (String.ofList s.toList.dropLast))
    else none
  | _ => none

mutual

/-- An assignment or a condition, from the token that was read last. `counts` says whether it has an
effect, and the first number bounds the depth. -/
def evalAssignment (values : Raw → Option Raw) : Nat → Bool → NumberReader Int
  | 0, _ => throw (.expected "primary")
  | fuel + 1, counts => do
    let before ← get
    match before.token with
    | .name name =>
      nextNumberToken
      match assigning? (← get).token with
      | some sign =>
        nextNumberToken
        let n ← evalAssignment values fuel counts
        if counts then
          let value ←
            match sign with
            | none => pure n
            | some sign => do
              let m ← variableNumber values name
              liftM (applySign sign m n)
          modify fun s => { s with assigned := (name, value) :: s.assigned }
          return value
        else return n
      | none =>
        set before
        evalCondition values fuel counts
    | _ => evalCondition values fuel counts

/-- Operators, or one of two values by a condition. -/
def evalCondition (values : Raw → Option Raw) : Nat → Bool → NumberReader Int
  | 0, _ => throw (.expected "primary")
  | fuel + 1, counts => do
    let a ← evalOperators values fuel 1 counts
    if (← get).token = .sign "?" then
      nextNumberToken
      let b ← evalAssignment values fuel (counts && a ≠ 0)
      if (← get).token ≠ .sign ":" then throw (.expected "':'")
      nextNumberToken
      let c ← evalCondition values fuel (counts && a = 0)
      return if a ≠ 0 then b else c
    else return a

/-- Operands with operators whose rank is at least the given one. -/
def evalOperators (values : Raw → Option Raw) : Nat → Nat → Bool → NumberReader Int
  | 0, _, _ => throw (.expected "primary")
  | fuel + 1, rank, counts => do
    let first ← evalOperand values fuel counts
    evalMore values fuel rank counts first

/-- Operators behind a first operand. -/
def evalMore (values : Raw → Option Raw) : Nat → Nat → Bool → Int → NumberReader Int
  | 0, _, _, n => pure n
  | fuel + 1, rank, counts, m => do
    match (← get).token with
    | .sign sign =>
      match (rankOf? sign).filter (rank ≤ ·) with
      | none => return m
      | some own =>
        nextNumberToken
        let needed := (sign ≠ "&&" || m ≠ 0) && (sign ≠ "||" || m = 0)
        let n ← evalOperators values fuel (own + 1) (counts && needed)
        let value ← if counts && needed then liftM (applySign sign m n)
          else pure (if sign = "||" then ofBool (m ≠ 0) else 0)
        evalMore values fuel rank counts value
    | _ => return m

def evalOperand (values : Raw → Option Raw) : Nat → Bool → NumberReader Int
  | 0, _ => throw (.expected "primary")
  | fuel + 1, counts => do
    match (← get).token with
    | .number n =>
      nextNumberToken
      return n
    | .name name =>
      let n ← if counts then variableNumber values name else pure 0
      nextNumberToken
      return n
    | .sign "(" =>
      nextNumberToken
      let n ← evalAssignment values fuel counts
      if (← get).token ≠ .sign ")" then throw (.expected "')'")
      nextNumberToken
      return n
    | .sign "+" =>
      nextNumberToken
      evalOperand values fuel counts
    | .sign "-" =>
      nextNumberToken
      return wrap (-(← evalOperand values fuel counts))
    | .sign "!" =>
      nextNumberToken
      return ofBool ((← evalOperand values fuel counts) = 0)
    | .sign "~" =>
      nextNumberToken
      return -(← evalOperand values fuel counts) - 1
    | _ => throw (.expected "primary")

end

/-- The value of an expression, and those of the variables that it sets, the last ones first. -/
def evalNumber (values : Raw → Option Raw) (text : Raw) :
    Except NumberDefect (Int × List (Raw × Int)) := do
  let read : NumberReader Int := do
    nextNumberToken
    let n ← evalAssignment values (8 * text.length + 16) true
    if (← get).token ≠ .ended then throw (.expected "EOF")
    return n
  let (n, s) ← read.run ⟨text, .ended, []⟩
  return (n, s.assigned)

/-- What is said about an expression without a value. -/
def NumberDefect.message (text : Raw) : NumberDefect → Raw
  | expected what =>
    s!"arithmetic expression: expecting {what}: \"".toList ++ text ++ ['"']
  | divisionByZero => "arithmetic expression: division by zero: \"".toList ++ text ++ ['"']
  | noNumber value => "Illegal number: ".toList ++ value

end TestImpact.Child.Shell
