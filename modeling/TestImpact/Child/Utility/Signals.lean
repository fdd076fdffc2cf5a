import TestImpact.Child.Utility.Options

/-!
# Signals

Signals have numbers and names. They are sent to programs: to those that run, and to those that
nobody waits for.
-/

namespace TestImpact.Child.Signal

open Shell

/-- The signals from the first one on, each with what is said of a program that it ended. -/
def standard : List (String × String) :=
  [("HUP", "Hangup"), ("INT", "Interrupt"), ("QUIT", "Quit"), ("ILL", "Illegal instruction"),
   ("TRAP", "Trace/breakpoint trap"), ("ABRT", "Aborted"), ("BUS", "Bus error"),
   ("FPE", "Floating point exception"), ("KILL", "Killed"), ("USR1", "User defined signal 1"),
   ("SEGV", "Segmentation fault"), ("USR2", "User defined signal 2"), ("PIPE", "Broken pipe"),
   ("ALRM", "Alarm clock"), ("TERM", "Terminated"), ("16", "Stack fault"),
   ("CHLD", "Child exited"), ("CONT", "Continued"), ("STOP", "Stopped (signal)"),
   ("TSTP", "Stopped"), ("TTIN", "Stopped (tty input)"), ("TTOU", "Stopped (tty output)"),
   ("URG", "Urgent I/O condition"), ("XCPU", "CPU time limit exceeded"),
   ("XFSZ", "File size limit exceeded"), ("VTALRM", "Virtual timer expired"),
   ("PROF", "Profiling timer expired"), ("WINCH", "Window changed"), ("IO", "I/O possible"),
   ("PWR", "Power failure"), ("SYS", "Bad system call"), ("32", "Unknown signal 32"),
   ("33", "Unknown signal 33")]

/-- The first and the last of the signals that have no meaning of their own. -/
def firstFree : Nat := 34

def lastFree : Nat := 64

/-- The name of a signal; zero stands for the end of a shell. -/
def name (n : Nat) : Raw :=
  if n = 0 then "EXIT".toList
  else if n < firstFree then ((standard[n - 1]?).map (·.1.toList)).getD []
  else
    let up := n - firstFree
    let down := lastFree - n
    if n = firstFree then "RTMIN".toList
    else if n = lastFree then "RTMAX".toList
    else if up < 16 then "RTMIN+".toList ++ digitsOf up
    else "RTMAX-".toList ++ digitsOf down

/-- What is said of a program that a signal ended. -/
def description (n : Nat) : Raw :=
  if n < firstFree then ((standard[n - 1]?).map (·.2.toList)).getD []
  else "Real-time signal ".toList ++ digitsOf (n - firstFree)

/-- The signal of a name, in any case, or of a number. Names start with that of the given signal. -/
def number? (first : Nat) (s : Raw) : Option Nat :=
  match natural? s with
  | some n => if n ≤ lastFree then some n else none
  | none =>
    (List.range' first (lastFree + 1 - first)).find? fun n =>
      (name n).map Char.toUpper = s.map Char.toUpper

/-- The signals that are not told about if they end a program. -/
def quiet : List Nat := [2, 13]

/-- Tells about a signal that ended a program. -/
def report (n : Nat) : Action Unit :=
  if quiet.contains n then pure () else warn (description n)

/-! ### Sending signals -/

/-- Whether a job runs at a time. -/
def isRunning (time : Nat) (j : Job) : Bool := j.ending.all (time < ·)

/-- Ends a job with a signal, unless it has something else set for it. -/
def endJob (j : Job) (n : Nat) : Action Unit := do
  let m ← get
  let isDeadly := n ≠ 0 && !harmlessSignals.contains n && (m.world.handler? j.id n).isNone
  if isDeadly then
    let ending := if haltingSignals.contains n then none else some m.elapsed
    let jobs := m.world.jobs.map fun (k : Job) =>
      if k.id = j.id then { k with ending, status := 128 + n, signal := some n } else k
    let coming := m.world.coming.filter (·.source ≠ j.id)
    modify fun m => { m with world := { m.world with coming, jobs } }

/-- Sends a signal to a program; says whether there is such a program. -/
def send (target n : Nat) : Action Bool := do
  let m ← get
  if (m.id :: m.waiting).contains target then
    if n ≠ 0 then getSignal target n
    return true
  else if m.others.contains target then
    if n ≠ 0 then
      modify fun m => { m with world := { m.world with
        coming := m.world.coming ++ [⟨m.elapsed, m.id, .signal target n⟩] } }
    return true
  else
    match m.world.jobs.find? fun j => j.id = target && isRunning m.elapsed j with
    | some j =>
      endJob j n
      return true
    | none => return false

/-- How to send signals. -/
def usage : Raw :=
  ("Usage: kill [-s sigspec | -signum | -sigspec] [pid | job]... or\n" ++
    "kill -l [exitstatus]").toList

/-- Prints all signals, or the one that a status tells about. -/
def runList (arguments : List Raw) : Action Unit := do
  match arguments with
  | [] =>
    say ("0\n".toList ++ ((List.range' 1 lastFree).map fun n => name n ++ ['\n']).flatten)
    setStatus 0
  | s :: _ =>
    match natural? s with
    | none => fault ("Illegal number: ".toList ++ s)
    | some n =>
      let n := if 128 < n then n - 128 else n
      if 0 < n && n ≤ lastFree then
        say (name n ++ ['\n'])
        setStatus 0
      else fault ("invalid signal number or exit status: ".toList ++ s)

/-- The job that a text behind a percent sign tells about. -/
def job? (m : Machine) (s : Raw) : Option Job :=
  let own := (m.world.jobs.filter (·.owner = m.id)).reverse
  match natural? s with
  | some (n + 1) => own[n]?
  | some 0 => none
  | none =>
    match s with
    | [] | ['%'] | ['+'] => own.getLast?
    | ['-'] => own.dropLast.getLast?
    | _ => none

/-- The program that an argument tells about. -/
def target (s : Raw) : Action Nat := do
  match s with
  | '%' :: rest =>
    match job? (← get) rest with
    | some j => return j.id
    | none => fault ("No such job: ".toList ++ s)
  | _ =>
    let digits := if s.head? = some '-' then s.tail else s
    match natural? digits with
    | some n => return n
    | none => fault ("Illegal number: ".toList ++ digits)

/-- Sends a signal to each of some programs. Groups of programs are not found: a job is no group of
its own. -/
def runSend (n : Nat) (targets : List Raw) : Action Unit := do
  let mut status := 0
  for s in targets do
    let id ← target s
    let isGroup := s.head? = some '%' || s.head? = some '-'
    let isSent ← if isGroup then pure false else send id n
    if !isSent then
      complain "No such process\n".toList
      status := 1
  setStatus status

/-- Sends signals, or lists them. -/
def runKill (arguments : List Raw) : Action Unit := do
  let direct? : Option Nat :=
    match arguments with
    | ('-' :: s) :: _ => number? 1 s
    | _ => none
  match direct? with
  | some n => go n arguments.tail
  | none =>
    let (found, rest) ← Options.read "l" "s" arguments
    if (found.lookup 'l').isSome then runList rest
    else
      match found.lookup 's' with
      | none => go 15 rest
      | some s =>
        match number? 1 s with
        | some n => go n rest
        | none => fault ("invalid signal number or name: ".toList ++ s)
where
  go (n : Nat) (targets : List Raw) : Action Unit :=
    if targets.isEmpty then fault usage else runSend n targets

end TestImpact.Child.Signal
