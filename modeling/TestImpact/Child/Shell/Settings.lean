import TestImpact.Child.Utility.Signals

/-!
# Settings of the shell

Utilities that change the shell itself: its options, arguments and variables, its aliases, and the
commands for signals.
-/

namespace TestImpact.Child.Shell

/-! ### Numbers -/

/-- The number that an argument gives. -/
def numberOf (s : Raw) : Action Nat := do
  match natural? s with
  | some n => return n
  | none => fault ("Illegal number: ".toList ++ s)

/-! ### Variables -/

def checkName (name : Raw) : Action Unit := do
  if !isName name then fault (name ++ ": bad variable name".toList)

/-- Prints the variables of a kind in order, as commands that set them. -/
def listVariables (lead : Raw) (kind : Variable → Bool) : Action Unit := do
  let m ← get
  let shown := (m.bindings.filter fun v => kind v.2).mergeSort fun a b => !decide (b.1 < a.1)
  for (name, v) in shown do
    let value := v.value.elim [] fun s => '=' :: singleQuoted s
    say (lead ++ (if lead.isEmpty then [] else [' ']) ++ name ++ value ++ ['\n'])
  setStatus 0

/-- An argument as a name, with a value if it has one. -/
def splitSetting (a : Raw) : Raw × Option Raw :=
  match Text.cut? '=' a with
  | some (name, value) => (name, some value)
  | none => (a, none)

/-- Marks variables, or lists those that are marked. -/
def runMark (lead : Raw) (isMarked : Variable → Bool) (mark : Variable → Variable)
    (arguments : List Raw) : Action Unit := do
  let (found, rest) ← Options.read "p" "" arguments
  if !found.isEmpty || rest.isEmpty then listVariables lead isMarked
  else
    for a in rest do
      let (name, value) := splitSetting a
      checkName name
      match value with
      | some value => assign name value
      | none => pure ()
      declare name mark
    setStatus 0

def runExport (arguments : List Raw) : Action Unit :=
  runMark "export".toList (·.isExported) (fun v => { v with isExported := true }) arguments

def runProtect (arguments : List Raw) : Action Unit :=
  runMark "readonly".toList (·.isReadOnly) (fun v => { v with isReadOnly := true }) arguments

/-- Takes away variables or functions. -/
def runUnset (arguments : List Raw) : Action Unit := do
  let (found, names) ← Options.read "vf" "" arguments
  let isFunction := (found.map (·.1)).getLast? = some 'f'
  for name in names do
    if isFunction then
      modify fun m => { m with functions := m.functions.filter (·.1 ≠ name) }
    else
      checkName name
      unset name
  setStatus 0

/-- Makes variables local to the function that runs; they keep their values unless they get others.
A dash stands for the options. -/
def runLocal (arguments : List Raw) : Action Unit := do
  if (← get).locals.isNone then fault "not in a function".toList
  for a in arguments do
    let (name, value) := splitSetting a
    if name = ['-'] then
      modify fun m => { m with savedOptions := m.savedOptions.or (some m.options) }
    else
      checkName name
      modify fun m => { m with locals := m.locals.map ((name, m.bindings.lookup name) :: ·) }
      match value with
      | some value => assign name value
      | none => declare name id
  setStatus 0

/-- Gives variables back what they were. -/
def putBack (saved : List (Raw × Option Variable)) (bindings : List (Raw × Variable)) :
    List (Raw × Variable) :=
  saved.foldl (fun bindings (name, before) =>
    match before with
    | some v => putVariable name v bindings
    | none => bindings.filter (·.1 ≠ name)) bindings

/-! ### Options and arguments -/

/-- Sets an option by its letter. -/
def setOption (on : Bool) (letter : Char) : Action Unit := do
  match optionTable.find? fun o => o.1 = letter && letter ≠ '\x00' with
  | some (_, _, _, change) => modify fun m => { m with options := change on m.options }
  | none => fault ("Illegal option -".toList ++ [letter])

/-- Sets an option by its name. -/
def setOptionNamed (on : Bool) (name : Raw) : Action Unit := do
  match optionTable.find? fun o => o.2.1.toList = name with
  | some (_, _, _, change) => modify fun m => { m with options := change on m.options }
  | none => fault ("Illegal option -o ".toList ++ name)

/-- Lists the options, as a table or as commands that set them. -/
def listOptions (asTable : Bool) : Action Unit := do
  let m ← get
  if asTable then say "Current option settings\n".toList
  for (_, name, isSet, _) in optionTable do
    let on := isSet m.options
    if asTable then
      let gap := List.replicate (16 - name.length) ' '
      say (name.toList ++ gap ++ (if on then "on" else "off").toList ++ ['\n'])
    else say ("set ".toList ++ (if on then "-o" else "+o").toList ++ ' ' :: name.toList ++ ['\n'])

/-- What is left of arguments after options were set. -/
inductive AfterOptions where
  /-- The options were ended by two dashes. -/
  | ended (rest : List Raw)
  /-- By one dash. -/
  | dash (rest : List Raw)
  | plain (rest : List Raw)

/-- Sets options by the letters of one argument; says whether the next argument is a name. -/
def setLetters (on : Bool) : List Char → Action Bool
  | [] => return false
  | 'o' :: rest => do
    let _ ← setLetters on rest
    return true
  | c :: rest => do
    setOption on c
    setLetters on rest

/-- Sets the options at the start of arguments. -/
def setOptions : List Raw → Action AfterOptions
  | [] => return .plain []
  | first :: rest => do
    match first, rest with
    | ['-'], rest => return .dash rest
    | ['-', '-'], rest => return .ended rest
    | sign :: letters, rest =>
      if sign = '-' || sign = '+' then
        let on := sign = '-'
        if ← setLetters on letters then
          match rest with
          | [] =>
            listOptions on
            return .plain []
          | name :: rest =>
            setOptionNamed on name
            setOptions rest
        else setOptions rest
      else return .plain (first :: rest)
    | [], rest => return .plain (first :: rest)

def setArguments (arguments : List Raw) : Action Unit :=
  modify fun m => { m with arguments, nextOption := 1, letter := none }

/-- Sets options and arguments, or lists the variables. -/
def runSet (arguments : List Raw) : Action Unit := do
  if arguments.isEmpty then listVariables [] fun v => v.value.isSome
  else
    match ← setOptions arguments with
    | .ended rest => setArguments rest
    | .dash rest =>
      setOption false 'x'
      setOption false 'v'
      if !rest.isEmpty then setArguments rest
    | .plain rest => if !rest.isEmpty then setArguments rest
    setStatus 0

def runShift (arguments : List Raw) : Action Unit := do
  let n ← arguments.head?.elim (pure 1) numberOf
  let m ← get
  if m.arguments.length < n then fault "can't shift that many".toList
  setArguments (m.arguments.drop n)
  setStatus 0

/-! ### Aliases -/

def listAlias (name text : Raw) : Action Unit := say (name ++ '=' :: singleQuoted text ++ ['\n'])

def runAlias (arguments : List Raw) : Action Unit := do
  if arguments.isEmpty then
    for (name, text) in (← get).aliases.mergeSort fun a b => placeOf a.1 ≤ placeOf b.1 do
      listAlias name text
  let mut found := true
  for a in arguments do
    let (name, text) : Raw × Option Raw :=
      match a with
      | [] => ([], none)
      | c :: rest =>
        let (name, text) := splitSetting rest
        (c :: name, text)
    match text, (← get).aliases.lookup name with
    | some text, some _ =>
      modify fun m => { m with aliases := m.aliases.map fun b =>
        if b.1 = name then (name, text) else b }
    | some text, none => modify fun m => { m with aliases := m.aliases ++ [(name, text)] }
    | none, some text => listAlias name text
    | none, none =>
      warn ("alias: ".toList ++ name ++ " not found".toList)
      found := false
  setStatusIf found

def runUnalias (arguments : List Raw) : Action Unit := do
  let (options, names) ← Options.read "a" "" arguments
  let mut found := true
  if options.isEmpty then
    for name in names do
      if ((← get).aliases.lookup name).isNone then
        warn ("unalias: ".toList ++ name ++ " not found".toList)
        found := false
      modify fun m => { m with aliases := m.aliases.filter (·.1 ≠ name) }
  else modify fun m => { m with aliases := [] }
  setStatusIf found

/-! ### Commands for signals -/

/-- Sets what the shell does at a signal: `none` is what programs do by themselves. -/
def setTrap (signal : Nat) (commands : Option Raw) : Action Unit :=
  modify fun m =>
    let traps := m.traps.filter (·.1 ≠ signal)
    let handlers := m.world.handlers.filter fun h => h.program ≠ m.id || h.signal ≠ signal
    match commands with
    | none => { m with traps, world := { m.world with handlers } }
    | some commands =>
      { m with
        traps := (signal, commands) :: traps
        world := { m.world with handlers :=
          if signal = 0 then handlers else ⟨m.id, signal, commands.isEmpty⟩ :: handlers } }

/-- Sets commands for signals, or lists them. -/
def runTraps (arguments : List Raw) : Action Unit := do
  match ← Options.readNone arguments with
  | [] =>
    for (signal, commands) in (← get).traps.mergeSort fun a b => a.1 ≤ b.1 do
      say ("trap -- ".toList ++ singleQuoted commands ++ ' ' :: Signal.name signal ++ ['\n'])
    setStatus 0
  | first :: rest =>
    let isReset := rest.isEmpty || (natural? first).any (· ≤ Signal.lastFree)
    let commands := if isReset || first = ['-'] then none else some first
    setEach commands (if isReset then first :: rest else rest)
where
  setEach (commands : Option Raw) : List Raw → Action Unit
    | [] => setStatus 0
    | name :: names => do
      match Signal.number? 0 name with
      | some signal =>
        setTrap signal commands
        setEach commands names
      | none =>
        warn ("trap: ".toList ++ name ++ ": bad trap".toList)
        setStatus 1

/-! ### Permissions and limits -/

/-- All permissions. -/
def allPermissions : Nat := 0o777

/-- The permissions of one of the three kinds of users, by letters. -/
def permissionText (bits : Nat) : Raw :=
  (if bits &&& 4 ≠ 0 then ['r'] else []) ++ (if bits &&& 2 ≠ 0 then ['w'] else []) ++
    (if bits &&& 1 ≠ 0 then ['x'] else [])

/-- Permissions after a clause such as `u+rw` was applied. -/
def applyClause? (clause : Raw) (permissions : Nat) : Option Nat :=
  let users := clause.takeWhile "ugoa".toList.contains
  match clause.drop users.length with
  | sign :: letters =>
    let bitsOf (c : Char) : Option Nat :=
      match c with
      | 'r' => some 4
      | 'w' => some 2
      | 'x' => some 1
      | _ => none
    (letters.mapM bitsOf).bind fun bits =>
      let bits := bits.foldl (· ||| ·) 0
      let isAll := users.isEmpty || users.contains 'a'
      let place (c : Char) (shift : Nat) (value : Nat) : Nat :=
        if isAll || users.contains c then value <<< shift else 0
      let spread (value : Nat) : Nat :=
        place 'u' 6 value ||| place 'g' 3 value ||| place 'o' 0 value
      let without (value : Nat) : Nat := permissions &&& (allPermissions ^^^ spread value)
      match sign with
      | '+' => some (permissions ||| spread bits)
      | '-' => some (without bits)
      | '=' => some (without 7 ||| spread bits)
      | _ => none
  | [] => if users.isEmpty then none else some permissions

def runMask (arguments : List Raw) : Action Unit := do
  let (found, rest) ← Options.read "S" "" arguments
  let m ← get
  let permissions := allPermissions ^^^ m.mask
  match rest with
  | [] =>
    if found.isEmpty then
      let digits := Nat.toDigits 8 m.mask
      say (List.replicate (4 - digits.length) '0' ++ digits ++ ['\n'])
    else
      say ("u=".toList ++ permissionText (permissions >>> 6) ++ ",g=".toList ++
        permissionText (permissions >>> 3) ++ ",o=".toList ++ permissionText permissions ++ ['\n'])
  | mode :: _ =>
    if mode.head?.any Char.isDigit then
      match Text.natInBase? 8 mode with
      | some n => set { m with mask := n &&& allPermissions }
      | none => fault ("Illegal number: ".toList ++ mode)
    else
      match (Text.splitOn ',' mode).foldlM (fun p clause => applyClause? clause p) permissions with
      | some p => set { m with mask := allPermissions ^^^ p }
      | none => fault ("Illegal mode: ".toList ++ mode)
  setStatus 0

/-- Limits are not kept; those that are asked for are told to be none. -/
def runLimit (arguments : List Raw) : Action Unit := do
  let (_, rest) ← Options.read "HSatfdsmcnpvlwr" "" arguments
  if rest.isEmpty then say "unlimited\n".toList
  setStatus 0

/-- The time that the shell and its programs used, which is none. -/
def runTimes : Action Unit := do
  let line := "0m0.000000s 0m0.000000s\n".toList
  say (line ++ line)
  setStatus 0

end TestImpact.Child.Shell
