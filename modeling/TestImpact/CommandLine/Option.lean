import TestImpact.Text.Split

/-!
# Options of commands

What an option is called, what it takes, and how it is described. A command has options, and a group
has commands. How command lines are read, how their problems are worded and how help pages look
follows `click`, version 8.1 or later.
-/

namespace TestImpact.CommandLine

/-- What an option takes. -/
inductive OptionKind where
  | switch
  | help
  | version
  | text
  | number
  /-- A path that may lead to a file, to a directory, or to either. -/
  | path (files directories : Bool)
  deriving DecidableEq, Repr, Inhabited

/-- The word for a value in a help page; a switch takes no value. -/
def OptionKind.placeholder : OptionKind → Option String
  | switch | help | version => none
  | text => some "TEXT"
  | number => some "FLOAT"
  | path true true => some "PATH"
  | path true false => some "FILE"
  | path false _ => some "DIRECTORY"

def OptionKind.takesValue (k : OptionKind) : Bool := k.placeholder.isSome

/-- Options that act as soon as they are read, whatever else is given. -/
def OptionKind.actsFirst : OptionKind → Bool
  | help | version => true
  | _ => false

structure OptionSpec where
  /-- The names; the last one is the full name. -/
  names : List String
  kind : OptionKind
  required : Bool := false
  repeated : Bool := false
  /-- The value of an option that is not given. -/
  standard : Option String := none
  help : String := ""
  deriving DecidableEq, Repr, Inhabited

/-- The name under which an option is known. -/
def OptionSpec.name (o : OptionSpec) : String := o.names.getLastD ""

structure CommandSpec where
  /-- The words that call the command. -/
  call : String
  /-- What stands for the arguments in the usage line. -/
  arguments : String
  /-- The paragraphs that say what the command does. -/
  summary : List String
  options : List OptionSpec
  deriving DecidableEq, Repr, Inhabited

/-- A name of an option with one dash and one character. -/
def isShort (name : String) : Bool := name.length = 2 && name.toList.head? = some '-'

/-- The option of a name. -/
def CommandSpec.option? (c : CommandSpec) (name : String) : Option OptionSpec :=
  c.options.find? (·.names.contains name)

/-- The names of options that are longer than a dash and a character. -/
def CommandSpec.longNames (c : CommandSpec) : List String :=
  (c.options.flatMap (·.names)).filter (!isShort ·)

end TestImpact.CommandLine
