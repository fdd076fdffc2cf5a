import TestImpact.Child.Shell.Arithmetic
import TestImpact.Child.Shell.Variables

/-!
# Conditions

The conditions of the `test` utility: about texts, numbers and files, negated, joined, and in
parentheses. A few arguments are read by their number, so that an operand may look like an operator.
-/

namespace TestImpact.Child.Condition

open Shell

/-- What an argument can be besides an operand. -/
inductive Sign where
  | unary (name : String)
  | binary (name : String)
  | not
  | and
  | or
  | opening
  | closing
  deriving DecidableEq, Repr, Inhabited

def unaryNames : List String :=
  ["-r", "-w", "-x", "-e", "-f", "-d", "-c", "-b", "-p", "-u", "-g", "-k", "-s", "-t", "-z", "-n",
   "-h", "-O", "-G", "-L", "-S"]

def binaryNames : List String :=
  ["=", "!=", "<", ">", "-eq", "-ne", "-ge", "-gt", "-le", "-lt", "-nt", "-ot", "-ef"]

/-- The sign that an argument looks like. -/
def sign? (s : Raw) : Option Sign :=
  match String.ofList s with
  | "!" => some .not
  | "-a" => some .and
  | "-o" => some .or
  | "(" => some .opening
  | ")" => some .closing
  | name =>
    if unaryNames.contains name then some (.unary name)
    else if binaryNames.contains name then some (.binary name)
    else none

def isBinary (s : Raw) : Bool :=
  match sign? s with
  | some (.binary _) => true
  | _ => false

/-- What an argument is, by those that follow it; `none` at the end. -/
inductive Lexeme where
  | ended
  | operand
  | sign (s : Sign)
  deriving DecidableEq, Repr, Inhabited

def lexeme : List Raw → Lexeme
  | [] => .ended
  | s :: rest =>
    match sign? s, rest with
    | some (.unary _), [] => .operand
    | some (.unary name), next :: _ :: _ =>
      if isBinary next then .operand else .sign (.unary name)
    | some .opening, [] => .operand
    | some sign, _ => .sign sign
    | none, _ => .operand

/-- What is wrong with a condition: the argument, if it is about one, and the reason. -/
structure Defect where
  operator : Option Raw
  reason : String
  deriving DecidableEq, Repr, Inhabited

/-- The reason, after the argument that it is about; an empty argument is not shown. -/
def Defect.message (d : Defect) : Raw :=
  match d.operator with
  | none | some [] => d.reason.toList
  | some argument => argument ++ ": ".toList ++ d.reason.toList

/-! ### Questions -/

/-- The entry at a path, with links followed or not. -/
def entryAt? (m : Machine) (follow : Bool) (p : Raw) : Option (Location × Entry) :=
  match m.world.files.locateText m.location follow (Raw.toText p) with
  | .ok ⟨l, some e⟩ => some (l, e)
  | _ => none

/-- A question about a text or a file. -/
def askFile (m : Machine) (name : String) (s : Raw) : Bool :=
  let followed := entryAt? m true s
  let isNull := followed.any fun e => e.1 = nullLocation
  match name with
  | "-n" => !s.isEmpty
  | "-z" => s.isEmpty
  | "-e" | "-r" | "-w" | "-O" | "-G" => followed.isSome
  | "-f" => followed.any (·.2.isFile) && !isNull
  | "-d" => followed.any (·.2 = .dir)
  | "-c" => isNull
  | "-L" | "-h" =>
    match entryAt? m false s with
    | some (_, .link _) => true
    | _ => false
  | "-s" =>
    match followed with
    | some (_, .file content _) => !content.isEmpty
    | some (_, .dir) => true
    | _ => false
  | "-x" =>
    match followed with
    | some (_, .file _ executable) => executable && !isNull
    | some (_, .dir) => true
    | _ => false
  | _ => false

/-- The whole number that a text is. -/
def number (s : Raw) : Except Defect Int :=
  let isSpace (c : Char) : Bool := c = ' ' || (9 ≤ c.toNat && c.toNat ≤ 13)
  let text := ((s.dropWhile isSpace).reverse.dropWhile isSpace).reverse
  let (isNegative, digits) : Bool × Raw :=
    match text with
    | '-' :: r => (true, r)
    | '+' :: r => (false, r)
    | _ => (false, text)
  match natural? digits with
  | none => .error ⟨none, "Illegal number: " ++ String.ofList s⟩
  | some n =>
    if greatest < n then .error ⟨none, "Illegal number: " ++ String.ofList s⟩
    else .ok (if isNegative then -(n : Int) else n)

/-- A question about one operand. No descriptor is a terminal, but it has to be a number. -/
def askOne (m : Machine) (name : String) (s : Raw) : Except Defect Bool :=
  if name = "-t" then (number s).map fun _ => false else .ok (askFile m name s)

/-- A question about two operands. -/
def askTwo (m : Machine) (left : Raw) (name : String) (right : Raw) : Except Defect Bool := do
  let compare (f : Int → Int → Bool) : Except Defect Bool := do
    let a ← number left
    let b ← number right
    return f a b
  let age? (p : Raw) : Option Nat :=
    (entryAt? m true p).map fun (l, _) => m.world.files.number l
  match name with
  | "=" => return left = right
  | "!=" => return left ≠ right
  | "<" => return decide (left < right)
  | ">" => return decide (right < left)
  | "-eq" => compare fun a b => a = b
  | "-ne" => compare fun a b => a ≠ b
  | "-lt" => compare fun a b => a < b
  | "-le" => compare fun a b => a ≤ b
  | "-gt" => compare fun a b => b < a
  | "-ge" => compare fun a b => b ≤ a
  | "-ef" => return (age? left).isSome && age? left = age? right
  | "-nt" =>
    match age? left, age? right with
    | some a, some b => return b < a
    | _, _ => return false
  | _ =>
    match age? left, age? right with
    | some a, some b => return a < b
    | _, _ => return false

/-! ### Reading -/

mutual

/-- Conditions of which one has to hold. Gives the answer and the arguments from the last one that
was read. -/
def anyOf (m : Machine) : Nat → Lexeme → List Raw → Except Defect (Bool × List Raw)
  | 0, _, args => .ok (false, args)
  | fuel + 1, next, args => do
    let (a, last) ← allOf m fuel next args
    if lexeme last.tail = .sign .or then
      let rest := last.drop 2
      let (b, last) ← anyOf m fuel (lexeme rest) rest
      return (a || b, last)
    else return (a, last)

/-- Conditions that all have to hold. -/
def allOf (m : Machine) : Nat → Lexeme → List Raw → Except Defect (Bool × List Raw)
  | 0, _, args => .ok (false, args)
  | fuel + 1, next, args => do
    let (a, last) ← negated m fuel next args
    if lexeme last.tail = .sign .and then
      let rest := last.drop 2
      let (b, last) ← allOf m fuel (lexeme rest) rest
      return (a && b, last)
    else return (a, last)

def negated (m : Machine) : Nat → Lexeme → List Raw → Except Defect (Bool × List Raw)
  | 0, _, args => .ok (false, args)
  | fuel + 1, next, args => do
    if next = .sign .not then
      let (a, last) ←
        match lexeme args.tail with
        | .ended => negated m fuel .ended args
        | next => negated m fuel next args.tail
      return (!a, last)
    else primary m fuel next args

def primary (m : Machine) : Nat → Lexeme → List Raw → Except Defect (Bool × List Raw)
  | 0, _, args => .ok (false, args)
  | fuel + 1, next, args => do
    match next, args with
    | .ended, _ => return (false, args)
    | .sign .opening, _ =>
      let inner := args.tail
      if lexeme inner = .sign .closing then return (false, inner)
      else
        let (a, last) ← anyOf m fuel (lexeme inner) inner
        let last := last.tail
        if lexeme last = .sign .closing then return (a, last)
        else .error ⟨none, "closing paren expected"⟩
    | .sign (.unary name), _ =>
      match args.tail with
      | [] => .error ⟨some name.toList, "argument expected"⟩
      | s :: rest => return (← askOne m name s, s :: rest)
    | _, left :: rest =>
      match lexeme rest, rest with
      | .sign (.binary name), _ :: [] => .error ⟨some name.toList, "argument expected"⟩
      | .sign (.binary name), _ :: right :: more =>
        return (← askTwo m left name right, right :: more)
      | _, _ => return (!left.isEmpty, args)
    | _, [] => return (false, [])

end

/-- The answer to a condition. -/
def hold (m : Machine) : List Raw → Except Defect Bool
  | [] => .ok false
  | first :: rest =>
    let args := first :: rest
    let ask (next : Lexeme) (args : List Raw) : Except Defect Bool := do
      let (a, last) ← anyOf m (8 * args.length + 16) next args
      match last with
      | s :: _ :: _ => .error ⟨some s, "unexpected operator"⟩
      | _ => .ok a
    let isShort := args.length = 3 || args.length = 4
    if args.length = 3 && rest.head?.any isBinary then ask .operand args
    else if isShort && first = ['('] && args.getLast? = some [')'] then
      let inner := rest.dropLast
      ask (lexeme inner) inner
    else if isShort && first = ['!'] then (hold m rest).map (!·)
    else ask (lexeme args) args

end TestImpact.Child.Condition
