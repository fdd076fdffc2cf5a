import TestImpact.CommandLine.Problem

/-!
# Reading the words of a command line

Words are read from left to right. A word with a long name may hold a value behind an equals sign; a
word with one dash holds short names, and what follows a name that takes a value is its value.
Otherwise the value is the next word, whatever it looks like. Two dashes end the options (`click`,
version 8.1 or later).
-/

namespace TestImpact.CommandLine

/-- An option that was given, with its value; a switch has the empty one. -/
structure Given where
  option : OptionSpec
  value : String
  deriving DecidableEq, Repr, Inhabited

structure ReadWords where
  given : List Given
  /-- The words that belong to no option. -/
  rest : List String
  deriving DecidableEq, Repr, Inhabited

/-- What one word with options asks for: options with their values, and maybe a last one whose value
is the next word. -/
structure OptionWord where
  given : List Given
  pending : Option (OptionSpec × String)
  deriving DecidableEq, Repr, Inhabited

/-- Whether a word is read as options. -/
def isOptionWord (word : String) : Bool := word.toList.head? = some '-' && 1 < word.length

/-- Short names in one word, after the dash. -/
def readShort (c : CommandSpec) : List Char → Except Problem OptionWord
  | [] => .ok ⟨[], none⟩
  | ch :: r => do
    let name := String.ofList ['-', ch]
    match c.option? name with
    | none => .error (.noSuchOption name [])
    | some o =>
      if o.kind.takesValue then
        if r.isEmpty then .ok ⟨[], some (o, name)⟩ else .ok ⟨[⟨o, String.ofList r⟩], none⟩
      else
        let next ← readShort c r
        .ok { next with given := ⟨o, ""⟩ :: next.given }

/-- The option of a long name; a short name stands only among short names. -/
def longOption? (c : CommandSpec) (name : String) : Option OptionSpec :=
  if isShort name then none else c.option? name

/-- The name of an option in a word, and the value behind its equals sign. -/
def nameAndValue (word : String) : String × Option String :=
  match Text.cut? '=' word.toList with
  | some (before, after) => (String.ofList before, some (String.ofList after))
  | none => (word, none)

/-- A word that is read as options. -/
def readOptionWord (c : CommandSpec) (word : String) : Except Problem OptionWord :=
  let (name, value) := nameAndValue word
  match longOption? c name with
  | some o =>
    match o.kind.takesValue, value with
    | true, some value => .ok ⟨[⟨o, value⟩], none⟩
    | true, none => .ok ⟨[], some (o, name)⟩
    | false, none => .ok ⟨[⟨o, ""⟩], none⟩
    | false, some _ => .error (.takesNoValue name)
  | none =>
    match word.toList with
    | '-' :: '-' :: _ => .error (.noSuchOption name c.longNames)
    | _ :: names => readShort c names
    | [] => .ok ⟨[], none⟩

/-- Reads words. Options may follow other words only if `mixed` is set. -/
def readWords (c : CommandSpec) (mixed : Bool) : List String → Except Problem ReadWords
  | [] => .ok ⟨[], []⟩
  | word :: words =>
    if word = "--" then .ok ⟨[], words⟩
    else if isOptionWord word then
      match readOptionWord c word with
      | .error p => .error p
      | .ok ⟨given, none⟩ => do
        let next ← readWords c mixed words
        .ok { next with given := given ++ next.given }
      | .ok ⟨given, some (o, name)⟩ =>
        match words with
        | [] => .error (.needsValue name)
        | value :: words => do
          let next ← readWords c mixed words
          .ok { next with given := given ++ ⟨o, value⟩ :: next.given }
    else if mixed then do
      let next ← readWords c mixed words
      .ok { next with rest := word :: next.rest }
    else .ok ⟨[], word :: words⟩

/-- The values of an option, in the order in which they were given. -/
def ReadWords.values (r : ReadWords) (name : String) : List String :=
  (r.given.filter (·.option.name = name)).map (·.value)

/-- The options of a command in the order in which they are taken: those that act first, then those
that were given, each kind in the order of the words, then the others. -/
def ReadWords.order (r : ReadWords) (c : CommandSpec) : List OptionSpec :=
  let given := (r.given.map (·.option)).eraseDups
  let (first, later) := given.partition (·.kind.actsFirst)
  first ++ later ++ c.options.filter fun o => !given.contains o

end TestImpact.CommandLine
