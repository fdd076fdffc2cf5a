import TestImpact.Child.Shell.Variables

/-!
# Options of utilities

Options are letters behind a dash in the first arguments. Some take a value, which is the rest of
their argument or the next one. Two dashes end the options.
-/

namespace TestImpact.Child.Options

open Shell

/-- What is wrong with the options of a utility. -/
inductive Defect where
  | unknown (letter : Char)
  | noValue (letter : Char)
  deriving DecidableEq, Repr, Inhabited

/-- What was read: the options with their values, and what still belongs to options. -/
structure Progress where
  found : List (Char × Raw)
  /-- The option that waits for its value. -/
  open_ : Option Char

/-- Reads the letters of one argument. -/
def readLetters (plain valued : Raw) : Raw → Except Defect Progress
  | [] => .ok ⟨[], none⟩
  | c :: rest =>
    if valued.contains c then
      if rest.isEmpty then .ok ⟨[], some c⟩ else .ok ⟨[(c, rest)], none⟩
    else if plain.contains c then do
      let p ← readLetters plain valued rest
      return { p with found := (c, []) :: p.found }
    else .error (.unknown c)

/-- The options at the start of arguments, with their values, and the arguments behind them. -/
def split (plain valued : Raw) : List Raw → Except Defect (List (Char × Raw) × List Raw)
  | ('-' :: c :: letters) :: rest =>
    if c = '-' && letters.isEmpty then .ok ([], rest)
    else do
      let p ← readLetters plain valued (c :: letters)
      match p.open_, rest with
      | none, rest =>
        let (more, rest) ← split plain valued rest
        return (p.found ++ more, rest)
      | some d, value :: rest =>
        let (more, rest) ← split plain valued rest
        return (p.found ++ (d, value) :: more, rest)
      | some d, [] => .error (.noValue d)
  | arguments => .ok ([], arguments)

/-- The options of a utility of the shell. -/
def read (plain valued : String) (arguments : List Raw) :
    Action (List (Char × Raw) × List Raw) := do
  match split plain.toList valued.toList arguments with
  | .ok found => return found
  | .error (.unknown c) => fault ("Illegal option -".toList ++ [c])
  | .error (.noValue c) => fault ("No arg for -".toList ++ c :: " option".toList)

/-- The arguments of a utility that has no options. -/
def readNone (arguments : List Raw) : Action (List Raw) := do
  return (← read "" "" arguments).2

/-- Options anywhere among the arguments, as the programs of the system take them. -/
def splitAnywhere (plain valued : Raw) :
    Nat → List Raw → Except Defect (List (Char × Raw) × List Raw)
  | 0, arguments => .ok ([], arguments)
  | _ + 1, [] => .ok ([], [])
  | n + 1, first :: rest =>
    match first with
    | ['-', '-'] => .ok ([], rest)
    | '-' :: c :: letters => do
      let p ← readLetters plain valued (c :: letters)
      match p.open_, rest with
      | none, rest =>
        let (more, rest) ← splitAnywhere plain valued n rest
        return (p.found ++ more, rest)
      | some d, value :: rest =>
        let (more, rest) ← splitAnywhere plain valued n rest
        return (p.found ++ (d, value) :: more, rest)
      | some d, [] => .error (.noValue d)
    | _ => do
      let (found, others) ← splitAnywhere plain valued n rest
      return (found, first :: others)

end TestImpact.Child.Options
