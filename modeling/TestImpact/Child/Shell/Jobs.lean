import TestImpact.Child.Shell.Script

/-!
# Commands that are not waited for

A command that the shell does not wait for runs by a clock of its own, from the time at which it is
started to its end. What it does at once is done; what it does later comes about when the shell gets
to that time.
-/

namespace TestImpact.Child.Shell

/-- How long a command may run that nothing stops, in microseconds. -/
def longestRun : Nat := 3600000000

/-- Carries out an action as a program that is not waited for. The descriptors that it opens itself
at once are given. -/
def runApart (run : Runner) (replaced : List Nat) (a : Action Unit) : Action Unit := do
  let id ← newNumber
  let before ← get
  let child := enter (before.child id)
  let ignoring := [2, 3].map fun signal => (⟨id, signal, true⟩ : Handler)
  set { child with
    waiting := []
    others := before.id :: before.waiting ++ before.others
    guarded := false
    world := { child.world with
      elapsed := before.elapsed + forkTime
      handlers := ignoring ++ child.world.handlers
      changes := some []
      firstNumber := id
      limit := some (before.world.limit.getD (before.elapsed + longestRun)) } }
  openAs 0 .nothing
  let result ← attempt (finish run a)
  let after ← get
  let own (c : Coming) : Bool := id ≤ c.source
  let later := (after.world.changes.getD []).reverse.map fun (time, c) =>
    (⟨time, id, .change c⟩ : Coming)
  let signal : Option Nat :=
    match result with
    | .error (.killed _ n) => some n
    | _ => none
  let inherited := before.descriptors.filter fun d => d.1 ≠ 0 && !replaced.contains d.1
  let job : Job := {
    id
    owner := before.id
    holds := inherited.map Prod.snd
    ending := if result matches .error .stopped then none else some after.elapsed
    status := signal.elim (after.status % statusCount) (128 + ·)
    signal }
  set { before with
    status := 0
    lastJob := some id
    world := { after.world with
      files := before.world.files
      opened :=
        (after.world.opened.filter fun (o : Nat × Opened) => id ≤ o.1) ++ before.world.opened
      firstNumber := before.world.firstNumber
      elapsed := before.elapsed
      limit := before.world.limit
      changes := before.world.changes
      coming := before.world.coming ++ after.world.past.reverse.filter own ++
        after.world.coming.filter own ++ later
      past := before.world.past
      caught := before.world.caught
      jobs := job :: after.world.jobs } }

/-- Lets time go on to a time, or for ever, but only until the shell catches a signal, which is
returned. The number bounds what comes about until then. -/
def reachOrSignal (time : Option Nat) : Nat → Action (Option Nat)
  | 0 => pure none
  | n + 1 => do
    let m ← get
    match if time.any (· ≤ m.elapsed) then none else m.world.caught.find? (·.1 = m.id) with
    | some (_, signal) => return some signal
    | none =>
      match ((m.world.coming.map (·.time)).filter fun t => time.all (t ≤ ·)).min? with
      | some t =>
        reach t
        reachOrSignal time n
      | none =>
        match time with
        | some t =>
          reach t
          return none
        | none =>
          waitForever
          return none

/-- Waits until a time, or for ever; says whether a signal came first, which is then the status. -/
def waitUntil (time : Option Nat) : Action Bool := do
  match ← reachOrSignal time ((← get).world.coming.length + 2) with
  | some signal =>
    setStatus (128 + signal)
    return true
  | none => return false

/-- Waits for programs one after the other. The status is that of the last one that is known. -/
def waitEach (status : Nat) : List Raw → Action Unit
  | [] => setStatus status
  | s :: rest => do
    let id ← Signal.target s
    let own (m : Machine) : Option Job := m.world.jobs.find? fun j => j.id = id && j.owner = m.id
    match own (← get) with
    | none => waitEach status rest
    | some j =>
      let interrupted ← waitUntil j.ending
      if !interrupted then
        match own (← get) with
        | some j =>
          j.signal.forM Signal.report
          modify fun m => { m with world := { m.world with
            jobs := m.world.jobs.map fun k => if k.id = id then { k with signal := none } else k } }
          waitEach j.status rest
        | none => waitEach status rest

/-- Waits for programs, or for all of the shell. -/
def runWait (arguments : List Raw) : Action Unit := do
  match ← Options.readNone arguments with
  | [] =>
    let m ← get
    let own := m.world.jobs.filter fun j => j.owner = m.id && Signal.isRunning m.elapsed j
    let last := (own.mapM fun (j : Job) => j.ending).map fun endings => endings.max?.getD m.elapsed
    let interrupted ← waitUntil last
    if !interrupted then setStatus 0
  | ids => waitEach 127 ids

/-- Lists the programs of the shell, the last ones first. Those that have ended are then forgotten.
-/
def runJobs (arguments : List Raw) : Action Unit := do
  let (found, _) ← Options.read "lp" "" arguments
  let m ← get
  let own := m.world.jobs.filter (·.owner = m.id)
  let mut kept := 0
  for (j, k) in own.zipIdx do
    if found.any (·.1 = 'p') then say (digitsOf j.id ++ ['\n'])
    else
      let sign := if kept = 0 then '+' else if kept = 1 then '-' else ' '
      let isRunning := Signal.isRunning m.elapsed j
      if isRunning then kept := kept + 1
      let what : Raw :=
        if isRunning then "Running".toList
        else
          match j.signal with
          | some n => Signal.description n
          | none =>
            if j.status = 0 then "Done".toList
            else "Done(".toList ++ digitsOf j.status ++ [')']
      let line := '[' :: digitsOf (own.length - k) ++ "] ".toList ++ sign :: ' ' :: what
      say (line ++ List.replicate (max 1 (33 - line.length)) ' ' ++ ['\n'])
      if !isRunning then
        modify fun m => { m with world := { m.world with
          jobs := m.world.jobs.filter (·.id ≠ j.id) } }
  setStatus 0

end TestImpact.Child.Shell
