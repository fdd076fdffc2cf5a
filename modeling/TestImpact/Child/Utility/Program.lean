import TestImpact.Child.Utility.Options

/-!
# Programs of the system

What the programs of the system have in common: how they read their options, and how they tell about
errors. They give their own name with an error, and quote the names of files.
-/

namespace TestImpact.Child.Utility

/-- The options of a program: those without and with a value, and long names for some. -/
structure OptionSpec where
  plain : String
  valued : String
  long : List (String × Char)

/-- Tells about an error. -/
def tell (name : Raw) (text : String) : Action Unit := warn (name ++ ": ".toList ++ text.toList)

/-- Tells about an error that ends the program. -/
def failWith {α : Type} (name : Raw) (status : Nat) (text : String) : Action α := do
  tell name text
  setStatus status
  throw .leave

/-- Tells about wrong use. -/
def misuse {α : Type} (name : Raw) (status : Nat) (text : String) : Action α :=
  failWith name status (text ++ "\nTry '" ++ String.ofList name ++ " --help' for more information.")

/-- Long options written as short ones. -/
def OptionSpec.shorten (spec : OptionSpec) : List Raw → List Raw
  | [] => []
  | first :: rest =>
    match first with
    | ['-', '-'] => first :: rest
    | '-' :: '-' :: written =>
      let (word, value) := (Text.cut? '=' written).elim (written, none) fun (w, v) => (w, some v)
      match spec.long.lookup (String.ofList word) with
      | some c => ('-' :: c :: value.getD []) :: spec.shorten rest
      | none => first :: spec.shorten rest
    | _ => first :: spec.shorten rest

/-- The options of a program and its other arguments. -/
def OptionSpec.read (spec : OptionSpec) (name : Raw) (status : Nat) (arguments : List Raw) :
    Action (List (Char × Raw) × List Raw) := do
  let arguments := spec.shorten arguments
  match Options.splitAnywhere spec.plain.toList spec.valued.toList
      (arguments.length + 1) arguments with
  | .ok found => return found
  | .error (.unknown '-') =>
    let word := (arguments.find? fun a => a.take 2 = ['-', '-'] && a.length ≠ 2).getD []
    misuse name status ("unrecognized option '" ++ String.ofList word ++ "'")
  | .error (.unknown c) => misuse name status ("invalid option -- '" ++ c.toString ++ "'")
  | .error (.noValue c) =>
    misuse name status ("option requires an argument -- '" ++ c.toString ++ "'")

/-- The name of a file as an error tells about it. -/
def quoted (s : Raw) : String := "'" ++ String.ofList s ++ "'"

/-- Tells that there are too few or too many operands; says whether their number is right. -/
def checkOperands (name : Raw) (least : Nat) (most : Option Nat) (operands : List Raw) :
    Action Unit := do
  if operands.length < least then
    match operands.getLast? with
    | none => misuse name 1 "missing operand"
    | some last => misuse name 1 ("missing operand after " ++ quoted last)
  else
    match most.bind fun n => operands[n]? with
    | some extra => misuse name 1 ("extra operand " ++ quoted extra)
    | none => pure ()

/-- Whether an option was given. -/
def has (found : List (Char × Raw)) (c : Char) : Bool := found.any (·.1 = c)

/-- The value of an option that was given last. -/
def valueOf? (found : List (Char × Raw)) (c : Char) : Option Raw := found.reverse.lookup c

end TestImpact.Child.Utility
