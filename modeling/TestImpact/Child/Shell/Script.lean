import TestImpact.Child.Shell.Grammar
import TestImpact.Child.Utility.Signals

/-!
# Running a text

A text is run line by line: each line is read when those before it have been run. A shell that ends
runs the command that was set for its end, and commands that were set for signals run between other
commands.
-/

namespace TestImpact.Child.Shell

/-- Carries out a command. -/
abbrev Runner := Command → Action Unit

/-- The cursor at the start of a text. -/
def Cursor.start (m : Machine) (text : Raw) : Cursor :=
  ⟨text, 1, none, [], [], m.nextText, m.aliases, []⟩

/-- Runs the lines behind a cursor; the first number bounds them. Without commands it succeeds, and
`ran` says whether there were commands before. Lines of a file may be shown. -/
def runLines (run : Runner) (isFile : Bool) : Nat → Bool → Cursor → Action Unit
  | 0, _, _ => pure ()
  | fuel + 1, ran, cursor => do
    let m ← get
    match readLine { cursor with nextNumber := m.nextText, aliases := m.aliases } with
    | .error complaint =>
      complainAt complaint.line ("Syntax error: ".toList ++ complaint.text)
      setStatus 2
      throw .failed
    | .ok (none, _) => if ran then pure () else setStatus 0
    | .ok (some c, next) =>
      modify fun m => { m with texts := next.found ++ m.texts, nextText := next.nextNumber }
      if isFile && m.options.verbose then
        let _ ← writeTo 2 (cursor.rest.take (cursor.rest.length - next.rest.length))
      let isEmpty : Bool :=
        match c with
        | .nothing => true
        | _ => false
      if !m.options.noExec then run c
      runLines run isFile fuel (ran || !(isEmpty || m.options.noExec)) { next with found := [] }

/-- Runs a text. -/
def runText (run : Runner) (text : Raw) : Action Unit := do
  runLines run false (text.length + 2) false (.start (← get) text)

/-- Runs the text of a file. -/
def runFile (run : Runner) (text : Raw) : Action Unit := do
  runLines run true (text.length + 2) false (.start (← get) text)

/-- Runs commands that were set for a signal or the end; the status is what it was before, unless
they end the shell with another one. -/
def runTrap (run : Runner) (commands : Raw) : Action Unit := do
  let status := (← get).status
  let before := (← get).saved
  modify fun m => { m with saved := some (m.saved.getD m.status) }
  let result ← attempt (runText run commands)
  modify fun m => { m with saved := before }
  match result with
  | .ok () => setStatus status
  | .error b => throw b

/-- Attends to the signals that were caught. -/
def attend (run : Runner) : Action Unit := do
  let m ← get
  let own := (m.world.caught.filter (·.1 = m.id)).map (·.2)
  if own.isEmpty then pure ()
  else
    set { m with world := { m.world with caught := m.world.caught.filter (·.1 ≠ m.id) } }
    for signal in own.eraseDups.mergeSort (· ≤ ·) do
      match (← get).traps.lookup signal with
      | some commands => runTrap run commands
      | none => pure ()

/-- Carries out an action as the whole run of a shell: at its end, the command that was set for it
is run. -/
def finish (run : Runner) (a : Action Unit) : Action Unit := do
  let result ← attempt a
  match result with
  | .error (.killed program signal) => throw (.killed program signal)
  | .error .stopped => throw .stopped
  | _ => pure ()
  let m ← get
  match m.traps.lookup 0 with
  | none => throw .leave
  | some commands =>
    set { m with traps := m.traps.filter (·.1 ≠ 0) }
    match ← attempt (runTrap run commands) with
    | .error (.killed program signal) => throw (.killed program signal)
    | .error .stopped => throw .stopped
    | _ => throw .leave

/-- A shell that goes on as a program of its own forgets what was set for signals, but still ignores
those that were ignored. -/
def enter (m : Machine) : Machine :=
  { m with traps := m.traps.filter fun t => t.2.isEmpty && t.1 ≠ 0 }

/-- Carries out an action in a copy of the shell, of which only the world stays. -/
def copied (run : Runner) (change : Machine → Machine) (a : Action Unit) : Action Unit := do
  match ← isolated (change ∘ enter) (finish run a) with
  | some signal => Signal.report signal
  | none => pure ()

end TestImpact.Child.Shell
