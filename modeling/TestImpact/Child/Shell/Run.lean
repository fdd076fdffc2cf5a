import TestImpact.Child.Shell.Input
import TestImpact.Child.Shell.Redirection
import TestImpact.Child.Shell.Start

/-!
# Running commands

`run` carries out a command of the shell. A simple command calls a function, a utility of the shell
or a program. A utility that fails ends the shell if it is special, and else only has a status.
-/

namespace TestImpact.Child.Shell

/-! ### Utilities that run commands -/

/-- Leaves the shell; in a command that was set for a signal, with the status before it. -/
def runExit (arguments : List Raw) : Action Unit := do
  let m ← get
  match arguments.head? with
  | some s => setStatus (← numberOf s)
  | none => setStatus (m.saved.getD m.status)
  throw .leave

/-- Goes back from a function or a script. -/
def runReturn (arguments : List Raw) : Action Unit := do
  match arguments.head? with
  | some s => setStatus (← numberOf s)
  | none => pure ()
  throw .back

/-- Leaves loops or their rounds; outside of loops there is nothing to leave. -/
def runLeave (leaving : Nat → Break) (arguments : List Raw) : Action Unit := do
  let n ←
    match arguments.head? with
    | none => pure 1
    | some s =>
      let n ← numberOf s
      if n = 0 then fault ("Illegal number: ".toList ++ s)
      pure n
  setStatus 0
  match min n (← get).loops with
  | 0 => pure ()
  | n => throw (leaving n)

/-- Runs a script in the shell itself; one without a slash is looked for. -/
def runSource (run : Runner) (arguments : List Raw) : Action Unit := do
  match ← Options.readNone arguments with
  | [] => setStatus 0
  | name :: _ =>
    let m ← get
    let isScript (p : Raw) : Bool :=
      match m.world.files.locateText m.location true p.toText with
      | .ok ⟨_, some (.file ..)⟩ => true
      | _ => false
    let found := if name.contains '/' then some name else (placesOf m false name).find? isScript
    match found with
    | none => fault (name ++ ": not found".toList)
    | some p =>
      let text ← scriptText p
      let result ← attempt (runFile run text)
        |> within (fun m => { m with utility := some p, guarded := false })
          (fun after => { after with utility := m.utility, guarded := m.guarded })
      match result with
      | .error .back => pure ()
      | result => resume result

/-- Replaces the shell by a program, if one is named. -/
def runExec (run : Runner) (arguments : List Raw) : Action Unit := do
  match ← Options.readNone arguments with
  | [] => setStatus 0
  | name :: arguments => replaceShell run false name arguments

/-- Carries out a utility of the shell. -/
def carryOut (run : Runner) (name : Raw) (arguments : List Raw) : Action Unit :=
  match String.ofList name with
  | "." => runSource run arguments
  | ":" | "true" => setStatus 0
  | "false" => setStatus 1
  | "[" => runBracket arguments
  | "alias" => runAlias arguments
  | "bg" | "fg" => fault "No current job".toList
  | "break" => runLeave .leaveLoops arguments
  | "cd" | "chdir" => runChangeDir arguments
  | "command" => runCommandUtility arguments
  | "continue" => runLeave .nextRound arguments
  | "echo" => do
    say (Printing.echoText arguments)
    setStatus 0
  | "eval" => do runText run (Raw.join [' '] (← Options.readNone arguments))
  | "exec" => runExec run arguments
  | "exit" => runExit arguments
  | "export" => runExport arguments
  | "getopts" => runGetOptions arguments
  | "hash" => runHash arguments
  | "jobs" => runJobs arguments
  | "kill" => Signal.runKill arguments
  | "local" => runLocal arguments
  | "printf" => Printing.runPrintf arguments
  | "pwd" => runWorkingDir arguments
  | "read" => runRead arguments
  | "readonly" => runProtect arguments
  | "return" => runReturn arguments
  | "set" => runSet arguments
  | "shift" => runShift arguments
  | "test" => runCondition arguments
  | "times" => runTimes
  | "trap" => runTraps arguments
  | "type" => runType arguments
  | "ulimit" => runLimit arguments
  | "umask" => runMask arguments
  | "unalias" => runUnalias arguments
  | "unset" => runUnset arguments
  | "wait" => runWait arguments
  | _ => setStatus 127

/-- Carries out a utility under its name and writes its output. -/
def runUtility (run : Runner) (isFatal : Bool) (name : Raw) (arguments : List Raw) :
    Action Unit := do
  let before := (← get).utility
  modify fun m => { m with utility := some name }
  let result ← attempt (carryOut run name arguments)
  if !(← flush) then
    complain (name ++ ": I/O error".toList)
    setStatus ((← get).status ||| 1)
  modify fun m => { m with utility := before }
  match result with
  | .error .failed => if isFatal then throw .failed
  | result => resume result

/-! ### Simple commands -/

/-- How many functions may call each other. -/
def mostCalls : Nat := 1000

/-- Runs the body of a function with arguments of its own. -/
def callFunction (run : Runner) (body : Command) (arguments : List Raw) : Action Unit := do
  let before ← get
  if mostCalls ≤ before.calls then
    fault ("Maximum function recursion depth (".toList ++ digitsOf mostCalls ++
      ") reached".toList)
  let result ← attempt (run body)
    |> within
      (fun m => { m with
        arguments
        calls := m.calls + 1
        loops := 0
        locals := some []
        savedOptions := none
        nextOption := 1
        letter := none })
      (fun m => { m with
        arguments := before.arguments
        calls := before.calls
        loops := before.loops
        locals := before.locals
        savedOptions := before.savedOptions
        options := m.savedOptions.getD m.options
        nextOption := before.nextOption
        letter := before.letter
        bindings := putBack (m.locals.getD []) m.bindings })
  match result with
  | .error .back => pure ()
  | result => resume result

/-- Leaves after a failure if the shell was told to. -/
def leaveIfFailed : Action Unit := do
  let m ← get
  if m.status ≠ 0 && m.options.errorExit && !m.guarded then throw .leave

/-- Expands the words of a command behind those that were expanded before. Settings are expanded
like assignments. -/
def expandWords (run : Runner) (fields : List Raw) : List Word → Action (List Raw)
  | [] => return fields
  | w :: words => do
    match if takesSettings (← get) fields then Word.assignment? w else none with
    | some (name, value) =>
      let value ← expandValue run value
      expandWords run (fields ++ [name ++ '=' :: value]) words
    | none => expandWords run (fields ++ (← expand run w)) words

/-- Carries out an action with assignments, which are handed on to it. Temporary ones are then taken
back, and others are exported if so asked. -/
def withAssignments (run : Runner) (isTemporary exports : Bool)
    (a : List (Raw × Raw) → Action Unit) (made : List (Raw × Raw)) :
    List (Raw × Word) → Action Unit
  | [] => a made
  | (name, w) :: rest => do
    let value ← expandValue run w
    let before := (← get).bindings.lookup name
    assign name value
    if isTemporary || exports then declare name fun v => { v with isExported := true }
    let result ← attempt (withAssignments run isTemporary exports a (made ++ [(name, value)]) rest)
    if isTemporary then
      modify fun m => { m with bindings := putBack [(name, before)] m.bindings }
    resume result

/-- Shows a command before it is run, under the given descriptors. -/
def trace (descriptors : List (Nat × Nat)) (made : List (Raw × Raw)) (fields : List Raw) :
    Action Unit := do
  let m ← get
  if m.options.trace then
    let words := made.map (fun (name, value) => name ++ '=' :: value) ++ fields
    let lead := (value? m "PS4".toList).getD []
    modify fun m => { m with descriptors }
    warn (lead ++ Raw.join [' '] words)
    modify fun after => { after with descriptors := m.descriptors }

/-- Runs a simple command in a line. -/
def runSimple (run : Runner) (line : Nat) (assignments : List (Raw × Word)) (words : List Word)
    (redirects : List Redirect) : Action Unit := do
  modify fun m => { m with line, outputStatus := none }
  let fields ← expandWords run [] words
  let before ← get
  let target := Target.ofWords before fields
  let function? := target.function? before
  let name := target.words.headD []
  let isSpecial := function?.isNone && !target.skipsFunctions && isSpecialUtility name
  let isExec := function?.isNone && name = "exec".toList
  let keeps := fields.isEmpty || (function?.isNone && isSpecialUtility name &&
    !target.skipsFunctions)
  let arguments := target.words.tail
  let body (made : List (Raw × Raw)) : Action Unit := do
    trace before.descriptors made fields
    if fields.isEmpty then setStatus ((← get).outputStatus.getD 0)
    else
      match function? with
      | some f => callFunction run f target.words.tail
      | none =>
        if isUtility name then runUtility run isSpecial name arguments
        else runProgram run target.usesWholePath name arguments
  let result ← attempt do
    if ← redirect run redirects then
      withAssignments run (!keeps) (isExec && !arguments.isEmpty) body [] assignments
    else if isSpecial then throw .failed
  if !isExec then modify fun m => { m with descriptors := before.descriptors }
  resume result

/-! ### Compound commands -/

/-- Carries out a command whose failure is looked at. -/
def guarded (a : Action Unit) : Action Unit := do
  let before := (← get).guarded
  within (fun m => { m with guarded := true }) (fun m => { m with guarded := before }) a

/-- Carries out one round of a loop; says whether the loop goes on. -/
def round (a : Action Unit) : Action Bool := do
  match ← attempt a with
  | .ok () => return true
  | .error (.leaveLoops n) => if n ≤ 1 then return false else throw (.leaveLoops (n - 1))
  | .error (.nextRound n) => if n ≤ 1 then return true else throw (.nextRound (n - 1))
  | .error b => throw b

/-- How many rounds a loop may have. -/
def mostRounds : Nat := 10000000

/-- Carries out a loop; the status is that of its last round. The first number bounds the rounds. -/
def runLoop (run : Runner) (whileSuccess : Bool) (condition body : Command) :
    Nat → Nat → Action Unit
  | 0, _ => throw .stopped
  | n + 1, status => do
    reach ((← get).elapsed + roundTime)
    let mut holds := false
    let goesOn ← round (guarded (run condition))
    if goesOn then holds := ((← get).status == 0) == whileSuccess
    if !goesOn || !holds then setStatus status
    else
      let goesOn ← round (run body)
      let status := (← get).status
      if goesOn then runLoop run whileSuccess condition body n status

/-- Carries out a loop over values. -/
def runEach (run : Runner) (name : Raw) (body : Command) : List Raw → Action Unit
  | [] => pure ()
  | value :: values => do
    assign name value
    if ← round (run body) then runEach run name body values

/-- Carries out an action inside a loop. -/
def inLoop (a : Action Unit) : Action Unit :=
  within (fun m => { m with loops := m.loops + 1 }) (fun m => { m with loops := m.loops - 1 }) a

/-- Runs the commands of the first case with a pattern that a text matches. -/
def runCases (run : Runner) (subject : Raw) : List (List Word × Command) → Action Unit
  | [] => setStatus 0
  | (patterns, body) :: rest => do
    if ← patterns.anyM fun w => do return (← expandField run false w).accepts subject then
      match body with
      | .nothing => setStatus 0
      | c => run c
    else runCases run subject rest

/-- Starts the clock again at a time. -/
def turnBack (time : Nat) : Action Unit :=
  modify fun m => { m with world := { m.world with elapsed := time } }

/-- Carries out the stages of a pipeline from a time and a status on, each with the output of the
one before. All of them have ended at the end; if one of them goes on for ever, so does the
pipeline. -/
def runStages (run : Runner) (start status : Nat) (latest : Nat) (isHalted : Bool)
    (input : Option Nat) : List Command → Action Unit
  | [] => do
    turnBack latest
    if isHalted then throw .stopped
  | c :: rest => do
    turnBack start
    let output ←
      if rest.isEmpty then pure none
      else do
        let number ← newNumber
        setOpened number (.pipe [] (some start))
        pure (some number)
    let plug (m : Machine) : Machine :=
      let ends := (input.map fun n => (0, n)).toList ++ (output.map fun n => (1, n)).toList
      let others := m.descriptors.filter fun d => !ends.any (·.1 = d.1)
      { m with status, descriptors := ends ++ others }
    let result ← attempt (copied run plug (run c))
    let m ← get
    let isStopped : Bool := result matches .error .stopped
    if !isStopped then resume result
    match output, output.bind fun n => m.world.opened.lookup n with
    | some number, some (.pipe held _) =>
      let ending ← endOfHolders number
      setOpened number (.pipe held (if isStopped then none else ending))
    | _, _ => pure ()
    runStages run start status (max latest m.elapsed) (isHalted || isStopped) output rest

/-- The descriptor that a redirection is about. -/
def Redirect.descriptor : Redirect → Nat
  | .file descriptor .. | .copy descriptor _ | .here descriptor _ => descriptor

/-- Carries out a command, given how its parts are carried out. -/
def step (run : Runner) : Command → Action Unit
  | .nothing => pure ()
  | .simple line assignments words redirects => do
    runSimple run line assignments words redirects
    leaveIfFailed
    attend run
  | .sequence first second => do
    run first
    run second
  | .link onSuccess first second => do
    guarded (run first)
    if ((← get).status == 0) == onSuccess then run second
  | .negate c => do
    guarded (run c)
    setStatusIf ((← get).status ≠ 0)
  | .pipe stages => do
    let m ← get
    runStages run m.elapsed m.status m.elapsed false none stages
    leaveIfFailed
    attend run
  | .apart line c redirects => do
    modify fun m => { m with line }
    copied run id do
      if ← redirect run redirects then run c
    leaveIfFailed
    attend run
  | .background line c => do
    modify fun m => { m with line }
    match c with
    | .apart _ c redirects =>
      runApart run (redirects.map Redirect.descriptor) do
        if ← redirect run redirects then run c
    | .simple _ _ _ redirects | .redirected _ _ redirects =>
      runApart run (redirects.map Redirect.descriptor) (run c)
    | c => runApart run [] (run c)
    attend run
  | .choice condition yes no => do
    guarded (run condition)
    if (← get).status = 0 then run yes
    else
      match no with
      | .nothing => setStatus 0
      | no => run no
  | .loop whileSuccess condition body =>
    inLoop (runLoop run whileSuccess condition body mostRounds 0)
  | .each line name words body => do
    modify fun m => { m with line }
    let values ←
      match words with
      | some words => expandWords run ["for".toList] words
      | none => pure ("for".toList :: (← get).arguments)
    setStatus 0
    inLoop (runEach run name body values.tail)
  | .redirected line c redirects => do
    modify fun m => { m with line }
    withRedirects run redirects (run c)
  | .branch line subject cases => do
    modify fun m => { m with line }
    let value ← expandWhole run subject
    runCases run value cases
  | .define name body => do
    modify fun m => { m with functions := (name, body) :: m.functions.filter (·.1 ≠ name) }
    setStatus 0

/-- Carries out a command; the first argument bounds the depth of the run. A run that goes deeper
does not end. -/
def run : Nat → Command → Action Unit
  | 0 => fun _ => throw .stopped
  | depth + 1 => fun c => do
    if !(← get).options.noExec then step (run depth) c

end TestImpact.Child.Shell
