import TestImpact.Child.Machine

/-!
# Variables of the shell

Variables have values and may be exported to programs or protected from changes. Besides them there
are parameters for the arguments and the state of the shell. Errors are complained about with the
name of the shell and the line.
-/

namespace TestImpact.Child.Shell

/-- The number that digits write. -/
def natural? (s : Raw) : Option Nat :=
  if !s.isEmpty && s.all Char.isDigit then some (Text.natOfDigits s) else none

/-! ### Complaints -/

/-- Tells about an error in a line. -/
def complainAt (line : Nat) (text : Raw) : Action Unit := do
  let m ← get
  let utility := m.utility.elim [] (· ++ ": ".toList)
  warn (m.name ++ s!": {line}: ".toList ++ utility ++ text)

def complain (text : Raw) : Action Unit := do complainAt (← get).line text

/-- Tells about an error that ends the shell. -/
def fault {α : Type} (text : Raw) : Action α := do
  complain text
  setStatus 2
  throw .failed

/-! ### Variables -/

/-- The variables that a shell has by itself. The first ones are those that were met last. -/
def standardVariables : List (String × String) :=
  [("OPTIND", "1"), ("PS4", "+ "), ("PS2", "> "), ("PS1", "# "),
   ("PATH", "/usr/local/sbin:/usr/local/bin:/usr/sbin:/usr/bin:/sbin:/bin"), ("IFS", " \t\n")]

def value? (m : Machine) (name : Raw) : Option Raw :=
  (m.bindings.lookup name).bind (·.value)

/-- Puts a variable in place of another one of its name. -/
def putVariable (name : Raw) (v : Variable) : List (Raw × Variable) → List (Raw × Variable)
  | [] => [(name, v)]
  | (n, w) :: rest => if n = name then (n, v) :: rest else (n, w) :: putVariable name v rest

/-- Changes a variable whether or not it is protected. -/
def declare (name : Raw) (change : Variable → Variable) : Action Unit :=
  modify fun m =>
    let v := (m.bindings.lookup name).getD ⟨none, m.options.allExport, false⟩
    { m with bindings := putVariable name (change v) m.bindings }

/-- Fails for a variable that must not be changed. -/
def checkWritable (name : Raw) : Action Unit := do
  if ((← get).bindings.lookup name).any (·.isReadOnly) then
    fault (name ++ ": is read only".toList)

/-- Gives a variable a value. -/
def assign (name value : Raw) : Action Unit := do
  checkWritable name
  let m ← get
  declare name fun v =>
    { v with value := some value, isExported := v.isExported || m.options.allExport }
  if name = "OPTIND".toList then
    modify fun m => { m with nextOption := max 1 ((natural? value).getD 1), letter := none }

/-- Takes a variable away. -/
def unset (name : Raw) : Action Unit := do
  checkWritable name
  modify fun m => { m with bindings := m.bindings.filter (·.1 ≠ name) }

/-- The place of a variable among those that programs see. -/
def placeOf (name : Raw) : Nat :=
  ((name.head?.elim 0 fun c => c.toNat * 16) + (name.map Char.toNat).foldl (· + ·) 0) % 39

/-- The variables that programs see, in the order in which they see them. -/
def environment (m : Machine) : List (Raw × Raw) :=
  let exported := m.bindings.filterMap fun (name, v) =>
    if v.isExported then v.value.map (name, ·) else none
  exported.mergeSort fun a b => placeOf a.1 ≤ placeOf b.1

/-- The first character that separates fields, if there is one. -/
def separator (m : Machine) : Option Char :=
  match value? m "IFS".toList with
  | none => some ' '
  | some s => s.head?

/-- The characters that separate fields. -/
def separators (m : Machine) : Raw := (value? m "IFS".toList).getD " \t\n".toList

/-! ### Parameters -/

/-- All options: a letter, a name, whether it is set, and how to set it. -/
def optionTable : List (Char × String × (Options → Bool) × (Bool → Options → Options)) :=
  [('e', "errexit", (·.errorExit), fun b o => { o with errorExit := b }),
   ('f', "noglob", (·.noGlob), fun b o => { o with noGlob := b }),
   ('I', "ignoreeof", fun _ => false, fun _ o => o),
   ('i', "interactive", fun _ => false, fun _ o => o),
   ('m', "monitor", fun _ => false, fun _ o => o),
   ('n', "noexec", (·.noExec), fun b o => { o with noExec := b }),
   ('s', "stdin", fun _ => false, fun _ o => o),
   ('x', "xtrace", (·.trace), fun b o => { o with trace := b }),
   ('v', "verbose", (·.verbose), fun b o => { o with verbose := b }),
   ('V', "vi", fun _ => false, fun _ o => o),
   ('E', "emacs", fun _ => false, fun _ o => o),
   ('C', "noclobber", (·.noClobber), fun b o => { o with noClobber := b }),
   ('a', "allexport", (·.allExport), fun b o => { o with allExport := b }),
   ('b', "notify", fun _ => false, fun _ o => o),
   ('u', "nounset", (·.noUnset), fun b o => { o with noUnset := b }),
   ('p', "privileged", fun _ => false, fun _ o => o),
   ('\x00', "nolog", fun _ => false, fun _ o => o),
   ('\x00', "debug", fun _ => false, fun _ o => o)]

def Options.none : Options := ⟨false, false, false, false, false, false, false, false⟩

def digitsOf (n : Nat) : Raw := Nat.toDigits 10 n

def digitsOfInt (n : Int) : Raw := (toString n).toList

/-- The value of a parameter, if it is set. All arguments in one are joined by the separator. -/
def parameter? (m : Machine) (name : Raw) : Option Raw :=
  match name with
  | ['@'] | ['*'] => some (Raw.join (separator m).toList m.arguments)
  | ['#'] => some (digitsOf m.arguments.length)
  | ['?'] => some (digitsOf m.status)
  | ['$'] => some (digitsOf m.shellId)
  | ['!'] => m.lastJob.map digitsOf
  | ['-'] => some ((optionTable.filter fun (_, _, isSet, _) => isSet m.options).map (·.1)).reverse
  | _ =>
    match natural? name with
    | some 0 => some m.name
    | some n => m.arguments[n - 1]?
    | none => value? m name

/-- A text in single quotes, as the shell reads it. -/
def singleQuoted (s : Raw) : Raw :=
  match go s.length s with
  | [] => "''".toList
  | parts => parts
where
  go : Nat → Raw → Raw
    | 0, _ => []
    | _ + 1, [] => []
    | n + 1, s =>
      let plain := s.takeWhile (· ≠ '\'')
      let quotes := (s.drop plain.length).takeWhile (· = '\'')
      let rest := s.drop (plain.length + quotes.length)
      let first := if plain.isEmpty && quotes.isEmpty then [] else '\'' :: plain ++ ['\'']
      let second := if quotes.isEmpty then [] else '"' :: quotes ++ ['"']
      first ++ second ++ go n rest

end TestImpact.Child.Shell
