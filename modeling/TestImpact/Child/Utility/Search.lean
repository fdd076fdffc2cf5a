import TestImpact.Child.Utility.Regex
import TestImpact.Child.Utility.TextTools

/-!
# Searching and calculating

`grep` prints the lines that a pattern is found in, and `expr` calculates with its arguments.
-/

namespace TestImpact.Child.Utility

open Shell (digitsOf digitsOfInt)

/-! ### Searching lines -/

/-- Reads the patterns, one in each line. -/
def readPatterns? (found : List (Char × Raw)) (texts : List Raw) : Option (List Regex) :=
  let lines := texts.flatMap fun t => Text.splitOn '\n' t
  let shape (r : Regex) : Regex :=
    if has found 'x' then .seq .lineStart (.seq r .lineEnd) else r
  let plain (c : Char) : Char := if has found 'i' then c.toLower else c
  lines.mapM fun t =>
    let t := t.map plain
    (if has found 'F' then some (Regex.literal t) else Regex.ofText? (has found 'E') t).map shape

/-- Whether a match stands for a word of its own. -/
def isWord (line found : Raw) (place : Nat) : Bool :=
  let isPart (c : Char) : Bool := c.isAlphanum || c = '_'
  !((line.take place).getLast?.any isPart) && !((line.drop (place + found.length)).head?.any isPart)

/-- Whether one of the patterns is found in a line. -/
def isFound (found : List (Char × Raw)) (patterns : List Regex) (line : Raw) : Bool :=
  let line := if has found 'i' then line.map Char.toLower else line
  if has found 'w' then
    patterns.any fun r => (List.range (line.length + 1)).any fun place =>
      (r.ends line.length ⟨line.drop place, none⟩).any fun p =>
        isWord line ((line.drop place).take (line.length - place - p.rest.length)) place
  else patterns.any (·.isIn line)

/-- The matches of the first pattern that has some. -/
def matchesIn (found : List (Char × Raw)) (patterns : List Regex) (line : Raw) : List Raw :=
  let shown := if has found 'i' then line.map Char.toLower else line
  ((patterns.map fun r => r.matchesFrom shown.length (shown.length + 1) shown).find?
    (!·.isEmpty)).getD []

def runGrep (name : Raw) (arguments : List Raw) : Action Unit := do
  let spec : OptionSpec :=
    ⟨"EFGivwxcnlLqshHoa", "em", [("quiet", 'q'), ("silent", 'q'), ("count", 'c'),
      ("invert-match", 'v'), ("ignore-case", 'i'), ("line-number", 'n')]⟩
  let (found, rest) ← spec.read name 2 arguments
  let given := (found.filter (·.1 = 'e')).map (·.2)
  let (texts, paths) := if given.isEmpty then (rest.take 1, rest.drop 1) else (given, rest)
  if texts.isEmpty then
    failWith name 2 "Usage: grep [OPTION]... PATTERNS [FILE]..."
  match readPatterns? found texts with
  | none => failWith name 2 "Invalid regular expression"
  | some patterns =>
    let most := (valueOf? found 'm').bind Shell.natural?
    let mut selected := false
    let mut failed := false
    for p in if paths.isEmpty then [['-']] else paths do
      match ← inputOf p with
      | .error why =>
        if !has found 's' then tell name (String.ofList p ++ ": " ++ why)
        failed := true
      | .ok text =>
        let title := if p = ['-'] then "(standard input)".toList else p
        let isTitled := (1 < paths.length || has found 'H') && !has found 'h'
        let lead : Raw := if isTitled then title ++ [':'] else []
        let lines := ((bareLines text).zipIdx 1).filter fun (line, _) =>
          isFound found patterns line != has found 'v'
        let lines := most.elim lines lines.take
        if !lines.isEmpty then selected := true
        if has found 'q' then pure ()
        else if has found 'c' then say (lead ++ digitsOf lines.length ++ ['\n'])
        else if has found 'l' || has found 'L' then
          if lines.isEmpty == has found 'L' then say (title ++ ['\n'])
        else
          for (line, n) in lines do
            let number := if has found 'n' then digitsOf n ++ [':'] else []
            let shown := if has found 'o' then matchesIn found patterns line else [line]
            for s in shown do say (lead ++ number ++ s ++ ['\n'])
    setStatus (if failed && !(selected && has found 'q') then 2 else if selected then 0 else 1)

/-! ### Calculating -/

/-- The number that an argument writes. -/
def integer? (s : Raw) : Option Int :=
  match s with
  | '-' :: digits => (Shell.natural? digits).map fun n => -(n : Int)
  | digits => (Shell.natural? digits).map Int.ofNat

/-- Whether a value counts as nothing. -/
def isNull (s : Raw) : Bool := s.isEmpty || integer? s = some 0

def ofBool (b : Bool) : Raw := if b then ['1'] else ['0']

/-- Why an expression has no value. -/
inductive ExprDefect where
  | wrong (text : String)
  deriving DecidableEq, Repr, Inhabited

/-- The operators by how they bind, the weakest ones first. -/
def operatorLevels : List (List String) :=
  [["|"], ["&"], ["<", "<=", "=", "==", "!=", ">=", ">"], ["+", "-"], ["*", "/", "%"], [":"]]

/-- The value of two operands. -/
def combine (operator : String) (a b : Raw) : Except ExprDefect Raw :=
  let numbers : Except ExprDefect (Int × Int) :=
    match integer? a, integer? b with
    | some m, some n => .ok (m, n)
    | _, _ => .error (.wrong "non-integer argument")
  let compare (numeric : Int → Int → Bool) (textual : Raw → Raw → Bool) : Except ExprDefect Raw :=
    match integer? a, integer? b with
    | some m, some n => .ok (ofBool (numeric m n))
    | _, _ => .ok (ofBool (textual a b))
  match operator with
  | "|" => .ok (if !isNull a then a else if b.isEmpty then ['0'] else b)
  | "&" => .ok (if isNull a || isNull b then ['0'] else a)
  | "<" => compare (· < ·) (· < ·)
  | "<=" => compare (· ≤ ·) fun a b => !decide (b < a)
  | "=" | "==" => compare (· = ·) (· = ·)
  | "!=" => compare (· ≠ ·) (· ≠ ·)
  | ">=" => compare (· ≥ ·) fun a b => !decide (a < b)
  | ">" => compare (· > ·) fun a b => b < a
  | "+" => numbers.map fun (m, n) => digitsOfInt (m + n)
  | "-" => numbers.map fun (m, n) => digitsOfInt (m - n)
  | "*" => numbers.map fun (m, n) => digitsOfInt (m * n)
  | "/" => do
    let (m, n) ← numbers
    if n = 0 then .error (.wrong "division by zero") else .ok (digitsOfInt (m.tdiv n))
  | "%" => do
    let (m, n) ← numbers
    if n = 0 then .error (.wrong "division by zero") else .ok (digitsOfInt (m.tmod n))
  | _ =>
    match Regex.ofText? false b with
    | some r =>
      let found := r.longestTaken? a.length a
      if r.hasGroup then .ok ((found.bind (·.2)).getD [])
      else .ok (digitsOf ((found.map (·.1.length)).getD 0))
    | none => .error (.wrong "Invalid regular expression")

mutual

/-- The value of operands joined by operators that bind at least as given; the number bounds the
arguments. -/
def evalFrom : Nat → List (List String) → List Raw → Except ExprDefect (Raw × List Raw)
  | 0, _, _ => .error (.wrong "syntax error")
  | n + 1, levels, args =>
    match levels, args with
    | [], [] => .error (.wrong "syntax error")
    | [], ['('] :: rest => do
      let (value, rest) ← evalBehind n ['('] operatorLevels rest
      match rest with
      | [')'] :: rest => .ok (value, rest)
      | found :: _ =>
        .error (.wrong ("syntax error: expecting ')' instead of " ++ quoted found))
      | [] =>
        .error (.wrong ("syntax error: expecting ')' after " ++ quoted (args.getLast?.getD [])))
    | [], name :: rest => evalWord n name rest
    | level :: levels, args => do
      let (first, rest) ← evalFrom n levels args
      evalMore n level levels first rest

/-- The value of operands that have to follow an argument. -/
def evalBehind : Nat → Raw → List (List String) → List Raw → Except ExprDefect (Raw × List Raw)
  | 0, _, _, _ => .error (.wrong "syntax error")
  | n + 1, before, levels, rest =>
    if rest.isEmpty then .error (.wrong ("syntax error: missing argument after " ++ quoted before))
    else evalFrom n levels rest

/-- The value of a single operand, or of a named operation on those that follow its name. -/
def evalWord : Nat → Raw → List Raw → Except ExprDefect (Raw × List Raw)
  | 0, _, _ => .error (.wrong "syntax error")
  | n + 1, name, rest =>
    match String.ofList name with
    | "+" =>
      match rest with
      | word :: rest => .ok (word, rest)
      | [] => .error (.wrong "syntax error: missing argument after '+'")
    | "length" => do
      let (a, rest) ← evalBehind n name [] rest
      .ok (digitsOf a.length, rest)
    | "match" => do
      let (a, rest) ← evalBehind n name [] rest
      let (b, rest) ← evalBehind n name [] rest
      let value ← combine ":" a b
      .ok (value, rest)
    | "index" => do
      let (a, rest) ← evalBehind n name [] rest
      let (b, rest) ← evalBehind n name [] rest
      .ok (digitsOf ((a.findIdx? b.contains).elim 0 (· + 1)), rest)
    | "substr" => do
      let (a, rest) ← evalBehind n name [] rest
      let (start, rest) ← evalBehind n name [] rest
      let (length, rest) ← evalBehind n name [] rest
      match integer? start, integer? length with
      | some (.ofNat (m + 1)), some (.ofNat l) => .ok ((a.drop m).take l, rest)
      | _, _ => .ok ([], rest)
    | _ => .ok (name, rest)

/-- More operands of one level. -/
def evalMore : Nat → List String → List (List String) → Raw → List Raw →
    Except ExprDefect (Raw × List Raw)
  | 0, _, _, _, _ => .error (.wrong "syntax error")
  | n + 1, level, levels, first, rest =>
    match rest with
    | operator :: more =>
      let operator := String.ofList operator
      if level.contains operator then do
        let (second, rest) ← evalBehind n operator.toList levels more
        let value ← combine operator first second
        evalMore n level levels value rest
      else .ok (first, rest)
    | [] => .ok (first, [])

end

def runExpr (name : Raw) (arguments : List Raw) : Action Unit := do
  let arguments := if arguments.head? = some ['-', '-'] then arguments.tail else arguments
  if arguments.isEmpty then misuse name 2 "missing operand"
  match evalFrom (32 * arguments.length + 64) operatorLevels arguments with
  | .error (.wrong text) => failWith name 2 text
  | .ok (value, []) =>
    say (value ++ ['\n'])
    setStatusIf !isNull value
  | .ok (_, extra :: _) =>
    failWith name 2 ("syntax error: unexpected argument " ++ quoted extra)

end TestImpact.Child.Utility
