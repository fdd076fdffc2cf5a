import TestImpact.Child.Shell.Directory
import TestImpact.Child.Shell.Jobs
import TestImpact.Child.Shell.Lookup
import TestImpact.Child.Shell.Settings
import TestImpact.Child.Utility.Condition
import TestImpact.Child.Utility.Columns
import TestImpact.Child.Utility.Listing
import TestImpact.Child.Utility.Search
import TestImpact.Child.Utility.Sequence
import TestImpact.Child.Utility.Sleep
import TestImpact.Child.Utility.Sorting

/-!
# Starting programs

A program takes the place of the one that runs: it has its directory, its open files and the
variables that are handed on to it. A shell among them reads its options, then commands from an
argument, a script or its input.
-/

namespace TestImpact.Child.Shell

/-! ### Starting a shell -/

/-- Where the commands of a shell come from. -/
structure Source where
  hasCommands : Bool
  readsInput : Bool
  deriving DecidableEq, Repr, Inhabited

/-- Reads the letters of one argument of a shell; says whether the next argument is a name. -/
def startLetters (on : Bool) (source : Source) : List Char → Action (Source × Bool)
  | [] => return (source, false)
  | c :: rest => do
    if c = 'c' then startLetters on { source with hasCommands := true } rest
    else if c = 'l' then startLetters on source rest
    else if c = 'o' then
      let (source, _) ← startLetters on source rest
      return (source, true)
    else
      setOption on c
      startLetters on (if c = 's' then { source with readsInput := on } else source) rest

/-- Reads the options of a shell; what is left are its arguments. -/
def startOptions (source : Source) : List Raw → Action (Source × List Raw)
  | [] => return (source, [])
  | first :: rest => do
    match first, rest with
    | ['-'], rest | ['-', '-'], rest => return (source, rest)
    | sign :: letters, rest =>
      if sign = '-' || sign = '+' then
        let (source, takesName) ← startLetters (sign = '-') source letters
        if takesName then
          match rest with
          | [] =>
            listOptions (sign = '-')
            return (source, [])
          | name :: rest =>
            setOptionNamed (sign = '-') name
            startOptions source rest
        else startOptions source rest
      else return (source, first :: rest)
    | [], rest => return (source, first :: rest)

/-- The text of a script. -/
def scriptText (p : Raw) : Action Raw := do
  let missing := "cannot open ".toList ++ p ++ ": No such file".toList
  match descriptorOfPath? p with
  | some descriptor =>
    match ← readAll? descriptor with
    | some text => return text
    | none => fault missing
  | none =>
    let m ← get
    match m.world.files.locateText m.location true p.toText with
    | .ok ⟨_, some (.file content _)⟩ => return Raw.ofBytes content
    | .ok ⟨_, some _⟩ => return []
    | .ok ⟨_, none⟩ | .error .noEntry | .error .notDirectory => fault missing
    | .error kind => fault ("cannot open ".toList ++ p ++ ": ".toList ++ kind.text.toList)

/-- The variables of a shell that starts. -/
def startVariables (m : Machine) : List (Raw × Variable) :=
  let standard := standardVariables.map fun (name, value) =>
    (name.toList, (⟨some value.toList, false, false⟩ : Variable))
  let told := m.env.filter fun v => isName v.1
  let all := told.foldl (fun bindings (name, value) =>
    putVariable name ⟨some value, true, false⟩ bindings) standard
  putVariable "PPID".toList ⟨some (digitsOf (m.waiting.headD 1)), false, false⟩ all

/-- Starts a shell in place of the program that runs. -/
def startShell (run : Runner) (name : Raw) (arguments : List Raw) : Action Unit := do
  modify fun m => { m with
    pending := []
    status := 0
    outputStatus := none
    shellId := m.id
    bindings := startVariables m
    name
    arguments := []
    options := Options.none
    traps := []
    functions := []
    aliases := []
    texts := []
    locals := none
    savedOptions := none
    lastJob := none
    calls := 0
    loops := 0
    guarded := false
    line := 0
    utility := none
    nextOption := 1
    letter := none
    saved := none }
  startDirectory
  finish run do
    let (source, rest) ← startOptions ⟨false, false⟩ arguments
    match source, rest with
    | ⟨true, _⟩, [] => fault "-c requires an argument".toList
    | ⟨true, _⟩, text :: rest =>
      modify fun m => { m with name := rest.headD m.name, arguments := rest.tail }
      runText run text
    | ⟨false, false⟩, path :: rest =>
      let text ← scriptText path
      modify fun m => { m with name := path, arguments := rest }
      runFile run text
    | ⟨false, _⟩, rest =>
      modify fun m => { m with arguments := rest }
      runFile run ((← readAll? 0).getD [])

/-! ### Programs -/

/-- The status for a program that cannot be started. -/
def missingStatus : OsErrorKind → Nat
  | .noEntry | .notDirectory | .nameTooLong | .tooManyLinks => 127
  | _ => 126

/-- Why a program cannot be started, in the words of the shell. -/
def missingText (kind : OsErrorKind) : Raw :=
  (if meansElsewhere kind then "not found" else kind.text).toList

/-- Gives a variable that is handed on a value. -/
def putSetting (name value : Raw) : List (Raw × Raw) → List (Raw × Raw)
  | [] => [(name, value)]
  | (n, v) :: rest => if n = name then (n, value) :: rest else (n, v) :: putSetting name value rest

/-- Looks at a condition. -/
def runCondition (arguments : List Raw) : Action Unit := do
  match Condition.hold (← get) arguments with
  | .ok b => setStatusIf b
  | .error d => fault d.message

/-- Looks at a condition between brackets. -/
def runBracket (arguments : List Raw) : Action Unit := do
  if arguments.getLast? = some [']'] then runCondition arguments.dropLast
  else fault "missing ]".toList

/-- Prints a format as a program. -/
def runPrintfProgram (name : Raw) (arguments : List Raw) : Action Unit := do
  match if arguments.head? = some ['-', '-'] then arguments.tail else arguments with
  | [] => Utility.misuse name 1 "missing operand"
  | format :: arguments =>
    let p := Printing.fill format (arguments.length + 1) ⟨[], arguments, [], false, false⟩
    say p.text
    for c in p.complaints do Utility.tell name (String.ofList c)
    setStatusIf p.complaints.isEmpty

/-- Prints the variables that were handed on, or some of them. -/
def runPrintEnv (names : List Raw) : Action Unit := do
  let m ← get
  if names.isEmpty then
    say (m.env.map fun (n, v) => n ++ '=' :: v ++ ['\n']).flatten
    setStatus 0
  else
    say ((names.filterMap fun n => m.env.lookup n).map (· ++ ['\n'])).flatten
    setStatusIf (names.all fun n => (m.env.lookup n).isSome)

/-- Changes the variables that are handed on as the arguments of `env` say; what is left is the
command. -/
def changeEnv (name : Raw) (arguments : List Raw) : Action (List Raw) := do
  let spec : Utility.OptionSpec := ⟨"i0v", "uCS", [("ignore-environment", 'i'), ("unset", 'u')]⟩
  let (found, rest) ←
    match Options.split spec.plain.toList spec.valued.toList (spec.shorten arguments) with
    | .ok found => pure found
    | .error (.unknown c) =>
      Utility.misuse name 125 ("invalid option -- '" ++ c.toString ++ "'")
    | .error (.noValue c) =>
      Utility.misuse name 125 ("option requires an argument -- '" ++ c.toString ++ "'")
  let isBare := Utility.has found 'i' || rest.head? = some ['-']
  let rest := if rest.head? = some ['-'] then rest.tail else rest
  if isBare then modify fun m => { m with env := [] }
  for (c, value) in found do
    if c = 'u' then modify fun m => { m with env := m.env.filter (·.1 ≠ value) }
  let settings := rest.takeWhile (·.contains '=')
  for s in settings do
    match Text.cut? '=' s with
    | some (n, v) => modify fun m => { m with env := putSetting n v m.env }
    | none => pure ()
  return rest.drop settings.length

/-- Carries out a program and writes the output that it left for its end. -/
def asProgram (name : Raw) (a : Action Unit) : Action Unit := do
  let result ← attempt a
  if !(← flush) then
    Utility.tell name "write error: Bad file descriptor"
    setStatus 1
  resume result

/-- Runs a tool in place of the program that runs. The first argument bounds how often a tool starts
another one. -/
def runTool (run : Runner) : Nat → Start → Action Unit
  | 0, _ => throw .stopped
  | fuel + 1, ⟨tool, name, arguments⟩ =>
    match tool with
    | .shell => startShell run name arguments
    | .env => do
      match ← changeEnv name arguments with
      | [] => asProgram name (runPrintEnv [])
      | command :: arguments => do
        let m ← get
        match startOrRead m.world.files m.location command arguments .noEntry
            (candidates m.env command) with
        | .ok start => runTool run fuel start
        | .error kind =>
          Utility.failWith name (missingStatus kind) (Utility.quoted command ++ ": " ++ kind.text)
    | tool => asProgram name (plain tool name arguments)
where
  plain (tool : Tool) (name : Raw) (arguments : List Raw) : Action Unit := do
    modify fun m => { m with name, line := 1, utility := none }
    match tool with
    | .shell | .env => pure ()
    | .sleep => Utility.runSleep name arguments
    | .success => setStatus 0
    | .failure => setStatus 1
    | .echo =>
      say (Printing.programEchoText false false arguments)
      setStatus 0
    | .printf => runPrintfProgram name arguments
    | .test => runCondition arguments
    | .bracket => runBracket arguments
    | .kill => Signal.runKill arguments
    | .cat => Utility.runCat name arguments
    | .touch => Utility.runTouch name arguments
    | .makeDir => Utility.runMakeDir name arguments
    | .removeDir => Utility.runRemoveDir name arguments
    | .remove => Utility.runRemove name arguments
    | .unlink => Utility.runUnlink name arguments
    | .move => Utility.runMove name arguments
    | .copy => Utility.runCopy name arguments
    | .link => Utility.runLink name arguments
    | .readLink => Utility.runReadLink name arguments
    | .realPath => Utility.runRealPath name arguments
    | .chmod => Utility.runChmod name arguments
    | .list => Utility.runList name arguments
    | .baseName => Utility.runBaseName name arguments
    | .dirName => Utility.runDirName name arguments
    | .head => Utility.runHead name arguments
    | .tail => Utility.runTail name arguments
    | .count => Utility.runCount name arguments
    | .sort => Utility.runSort name arguments
    | .unique => Utility.runUnique name arguments
    | .cut => Utility.runCut name arguments
    | .translate => Utility.runTranslate name arguments
    | .tee => Utility.runTee name arguments
    | .sequence => Utility.runSequence name arguments
    | .compare => Utility.runCompare name arguments
    | .grep => Utility.runGrep name arguments
    | .expr => Utility.runExpr name arguments
    | .printEnv => runPrintEnv arguments
    | .workingDir =>
      say (realDirectory (← get) ++ ['\n'])
      setStatus 0

/-- How often tools may start each other in one command. -/
def mostStarts : Nat := 1000

/-- Starts a program in place of the shell. What was caught is not caught any more. -/
def replaceShell (run : Runner) (usesWholePath : Bool) (name : Raw) (arguments : List Raw) :
    Action Unit := do
  let m ← get
  match startOrRead m.world.files m.location name arguments .noEntry
      (placesOf m usesWholePath name) with
  | .error kind =>
    complain (name ++ ": ".toList ++ missingText kind)
    setStatus (missingStatus kind)
    throw .leave
  | .ok start =>
    set { m with
      env := environment m
      traps := []
      world := { m.world with handlers := m.world.handlers.filter fun h =>
        h.program ≠ m.id || h.isIgnored } }
    runTool run mostStarts start
    throw .leave

/-- Runs a program and waits for it. -/
def runProgram (run : Runner) (usesWholePath : Bool) (name : Raw) (arguments : List Raw) :
    Action Unit := do
  let m ← get
  let found : Except OsErrorKind Unit :=
    if name.contains '/' then .ok ()
    else
      (findPath m.world.files m.location .noEntry (placesOf m usesWholePath name)).map fun _ => ()
  match found with
  | .error kind =>
    complain (name ++ ": ".toList ++ missingText kind)
    setStatus 127
  | .ok () =>
    reach (m.elapsed + startTime)
    match ← isolated id (replaceShell run usesWholePath name arguments) with
    | some signal => Signal.report signal
    | none => pure ()

end TestImpact.Child.Shell
