import TestImpact.Child.Shell.Grammar
import TestImpact.Child.Utility.Options

/-!
# What a command is

The first word of a command is a function, a utility of the shell or a program, which is looked for
in the directories of a variable. `command` leaves functions out of account.
-/

namespace TestImpact.Child.Shell

/-- The utilities of the shell besides the special ones. -/
def plainUtilities : List String :=
  ["[", "alias", "bg", "cd", "chdir", "command", "echo", "false", "fg", "getopts", "hash", "jobs",
   "kill", "printf", "pwd", "read", "test", "true", "type", "ulimit", "umask", "unalias", "wait"]

def isSpecialUtility (name : Raw) : Bool := specialUtilities.contains (String.ofList name)

def isUtility (name : Raw) : Bool :=
  isSpecialUtility name || plainUtilities.contains (String.ofList name)

/-- The path on which all standard programs are found. -/
def wholePath : Raw := "/usr/local/sbin:/usr/local/bin:/usr/sbin:/usr/bin:/sbin:/bin".toList

/-- The words of a command without those that say how to look for it. -/
structure Target where
  words : List Raw
  skipsFunctions : Bool
  usesWholePath : Bool
  deriving DecidableEq, Repr, Inhabited

/-- What stands behind `command`, if it is not asked to tell about commands. -/
def behindCommand (usesWholePath : Bool) : List Raw → Option Target
  | [] => none
  | first :: rest =>
    match first with
    | ['-', '-'] => if rest.isEmpty then none else some ⟨rest, true, usesWholePath⟩
    | '-' :: c :: letters =>
      if (c :: letters).all (· = 'p') then behindCommand true rest else none
    | _ => some ⟨first :: rest, true, usesWholePath⟩

/-- Finds out what is to be looked for; the number bounds the words. -/
def Target.settle (m : Machine) : Nat → Target → Target
  | 0, t => t
  | n + 1, t =>
    match t.words with
    | [] => t
    | first :: rest =>
      let isFunction := !t.skipsFunctions && (m.functions.lookup first).isSome
      if first = "command".toList && !isFunction then
        match behindCommand t.usesWholePath rest with
        | some inner => inner.settle m n
        | none => t
      else t

def Target.ofWords (m : Machine) (words : List Raw) : Target :=
  Target.settle m words.length ⟨words, false, false⟩

/-- The function that is called, if one is. -/
def Target.function? (m : Machine) (t : Target) : Option Command :=
  if t.skipsFunctions then none else t.words.head?.bind fun name => m.functions.lookup name

/-- The utilities whose arguments may be assignments. -/
def takesSettings (m : Machine) (words : List Raw) : Bool :=
  let t := Target.ofWords m words
  (t.function? m).isNone && t.words.head?.any fun name =>
    ["export", "readonly", "local", "alias"].contains (String.ofList name)

/-- The directories in which programs are looked for. -/
def searchPath (m : Machine) (usesWholePath : Bool) : Raw :=
  if usesWholePath then wholePath else (value? m "PATH".toList).getD []

/-- The names under which a program is looked for. -/
def placesOf (m : Machine) (usesWholePath : Bool) (name : Raw) : List Raw :=
  candidates [("PATH".toList, searchPath m usesWholePath)] name

/-- Tells what a command is; `isLong` asks for a sentence. -/
def describe (isLong usesWholePath : Bool) (name : Raw) : Action Bool := do
  let m ← get
  let short (text : Raw) (long : Raw) : Action Bool := do
    say ((if isLong then name ++ long else text) ++ ['\n'])
    return true
  if keywords.contains (String.ofList name) then short name " is a shell keyword".toList
  else
    match m.aliases.lookup name with
    | some text =>
      short ("alias ".toList ++ name ++ '=' :: singleQuoted text)
        (" is an alias for ".toList ++ text)
    | none =>
      if (m.functions.lookup name).isSome then short name " is a shell function".toList
      else if isUtility name then
        short name (if isSpecialUtility name then " is a special shell builtin".toList
          else " is a shell builtin".toList)
      else
        let found : Option Raw :=
          if name.contains '/' then
            match m.world.files.locateText m.location true name.toText with
            | .ok ⟨_, some _⟩ => some name
            | _ => none
          else
            match findPath m.world.files m.location .noEntry (placesOf m usesWholePath name) with
            | .ok p => some p
            | .error _ => none
        match found with
        | some p => short p (" is ".toList ++ p)
        | none =>
          if isLong then say (name ++ ": not found\n".toList)
          return false

/-- Tells what commands are. -/
def runType (names : List Raw) : Action Unit := do
  let mut found := true
  for name in names do
    if !(← describe true false name) then found := false
  setStatus (if found then 0 else 127)

/-- Tells what a command is, if `command` is asked to. -/
def runCommandUtility (arguments : List Raw) : Action Unit := do
  let (found, rest) ← Options.read "pvV" "" arguments
  let letters := found.map (·.1)
  match rest.head?, (letters.filter (· ≠ 'p')).getLast? with
  | some name, some kind =>
    setStatus (if ← describe (kind = 'V') (letters.contains 'p') name then 0 else 127)
  | _, _ => setStatus 0

/-- Whether programs are found; nothing is kept about them. -/
def runHash (arguments : List Raw) : Action Unit := do
  let (_, names) ← Options.read "r" "" arguments
  let mut found := true
  for name in names do
    let m ← get
    let isKnown := isUtility name || (m.functions.lookup name).isSome ||
      (findPath m.world.files m.location .noEntry (placesOf m false name)).isOk
    if !isKnown then
      complain (name ++ ": not found".toList)
      found := false
  setStatusIf found

end TestImpact.Child.Shell
