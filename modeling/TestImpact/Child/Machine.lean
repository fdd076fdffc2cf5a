import TestImpact.Accounts
import TestImpact.Child.Program
import TestImpact.Child.Shell.Syntax

/-!
# What runs programs

A machine has the world that all programs share, with files, open files and the time, and the
program that runs, which may be a shell. Time passes only in waiting; whatever else is done takes
none. Programs are actions on the machine that may be broken off.

A program that is not waited for runs at once, by a clock of its own. What it does later is kept as
changes that come about when the time of the other programs gets there.
-/

namespace TestImpact.Child

open Shell (OpenMode Command Word)

/-- What is open under a descriptor. -/
inductive Opened where
  /-- Takes everything and holds nothing. -/
  | nothing
  /-- A file at a position, with the bytes that it had when it was opened. -/
  | file (h : Files.Handle) (position : Nat) (mode : OpenMode) (kept : List UInt8)
  /-- What was written and not yet read, and when those who write it end, if they do. -/
  | pipe (held : Raw) (ending : Option Nat)
  deriving Inhabited

/-- A change of the files. -/
inductive Change where
  | put (l : Location) (e : Entry)
  /-- Makes an empty file unless there is something. -/
  | ensure (l : Location) (executable : Bool)
  | erase (l : Location)
  /-- Writes bytes at the end of a file. -/
  | extend (l : Location) (bytes : List UInt8)
  | overwrite (l : Location) (position : Nat) (bytes : List UInt8)
  /-- Writes bytes to what is open under a number. -/
  | write (number : Nat) (bytes : List UInt8)
  deriving Inhabited

/-- Something that comes about later. -/
inductive Event where
  | change (c : Change)
  | signal (target number : Nat)
  deriving Inhabited

/-- An event, its time, and the program that it comes from. -/
structure Coming where
  time : Nat
  source : Nat
  event : Event
  deriving Inhabited

/-- What a program does at a signal in place of its end. -/
structure Handler where
  program : Nat
  signal : Nat
  isIgnored : Bool
  deriving DecidableEq, Repr, Inhabited

/-- A program that is not waited for: who started it, the numbers of what is open for it, its end,
if it comes to one, and its status then, with the signal that ended it. -/
structure Job where
  id : Nat
  owner : Nat
  holds : List Nat
  ending : Option Nat
  status : Nat
  signal : Option Nat
  deriving DecidableEq, Repr, Inhabited

/-- What all programs share. -/
structure World where
  accounts : Accounts
  files : Files
  opened : List (Nat × Opened)
  /-- The next number for open files and programs, and the first one that was given since changes
  are kept. -/
  nextNumber : Nat
  firstNumber : Nat
  /-- Time that passed, in microseconds. -/
  elapsed : Nat
  /-- When everything is stopped, if it is. -/
  limit : Option Nat
  coming : List Coming
  /-- What came about, the last one first. -/
  past : List Coming
  /-- Signals that were caught and not yet attended to, by program. -/
  caught : List (Nat × Nat)
  handlers : List Handler
  /-- The programs that are not waited for, the last ones first. -/
  jobs : List Job
  /-- The changes of the program that runs with their times, the last one first, if they are kept.
  -/
  changes : Option (List (Nat × Change))
  deriving Inhabited

/-- A variable of the shell; it may be declared without a value. -/
structure Variable where
  value : Option Raw
  isExported : Bool
  isReadOnly : Bool
  deriving DecidableEq, Repr, Inhabited

/-- What a shell is told to do about errors and words. -/
structure Options where
  allExport : Bool
  errorExit : Bool
  noClobber : Bool
  noExec : Bool
  noGlob : Bool
  noUnset : Bool
  verbose : Bool
  trace : Bool
  deriving DecidableEq, Repr, Inhabited

structure Machine where
  world : World
  /-- The number of the program that runs, of those that wait for it, and of those that do not. -/
  id : Nat
  waiting : List Nat
  others : List Nat
  standing : Files.Handle
  descriptors : List (Nat × Nat)
  /-- The permissions that new files are not given. -/
  mask : Nat
  env : List (Raw × Raw)
  /-- Output that is written when the utility or program ends. -/
  pending : Raw
  status : Nat
  /-- The status of the last command whose output became part of a word. -/
  outputStatus : Option Nat
  /-- The number by which the shell knows itself. -/
  shellId : Nat
  /-- The directory of the shell by the names that led to it. -/
  directory : Raw
  bindings : List (Raw × Variable)
  /-- The name under which the shell was started. -/
  name : Raw
  arguments : List Raw
  options : Options
  /-- Commands to be run at signals. -/
  traps : List (Nat × Raw)
  functions : List (Raw × Command)
  aliases : List (Raw × Raw)
  /-- The texts that are written behind commands. -/
  texts : List (Nat × Word)
  nextText : Nat
  /-- What the local variables of the function that runs stood for outside it; there are none
  outside of functions. -/
  locals : Option (List (Raw × Option Variable))
  /-- The options outside the function that runs, if it has its own. -/
  savedOptions : Option Options
  lastJob : Option Nat
  /-- The number of functions and of loops around the command. -/
  calls : Nat
  loops : Nat
  /-- Whether a failure is being looked at. -/
  guarded : Bool
  line : Nat
  /-- The utility that runs, for its complaints. -/
  utility : Option Raw
  /-- The number of the next argument that is read for options, and how far the letters of the one
  before it were read. -/
  nextOption : Nat
  letter : Option Nat
  /-- The status before a command that runs at a signal or at the end. -/
  saved : Option Nat
  deriving Inhabited

/-- What breaks off an action. -/
inductive Break where
  /-- The program ends with its status. -/
  | leave
  /-- The shell ends because of an error. -/
  | failed
  /-- Goes back from a function or a script. -/
  | back
  | killed (program signal : Nat)
  /-- Time is up. -/
  | stopped
  | leaveLoops (count : Nat)
  | nextRound (count : Nat)
  deriving DecidableEq, Repr, Inhabited

abbrev Action := ExceptT Break (StateM Machine)

def setStatus (status : Nat) : Action Unit := modify fun m => { m with status }

def setStatusIf (success : Bool) : Action Unit := setStatus (if success then 0 else 1)

namespace Machine

def location (m : Machine) : Location := m.world.files.standing m.standing

def elapsed (m : Machine) : Nat := m.world.elapsed

end Machine

/-! ### Files -/

namespace Change

/-- What a difference between two trees means as a change. -/
def ofDifference : Location × Option Entry → Change
  | (l, none) => .erase l
  | (l, some (.file [] executable)) => .ensure l executable
  | (l, some e) => .put l e

end Change

namespace World

/-- Changes the bytes of the file at a location. -/
def alter (w : World) (l : Location) (change : List UInt8 → List UInt8) : World :=
  match l, w.files.get? l with
  | name :: dir, some (.file content executable) =>
    { w with files := w.files.place name dir (.file (change content) executable) }
  | _, _ => w

def setOpened (w : World) (number : Nat) (o : Opened) : World :=
  { w with opened := (number, o) :: w.opened.filter (·.1 ≠ number) }

/-- Makes a change. -/
def make (w : World) : Change → World
  | .put (name :: dir) e => { w with files := w.files.place name dir e }
  | .put [] _ => w
  | .ensure l executable =>
    match l, w.files.get? l with
    | name :: dir, none => { w with files := w.files.place name dir (.file [] executable) }
    | _, _ => w
  | .erase l => { w with files := w.files.eraseTree l }
  | .extend l bytes => w.alter l (· ++ bytes)
  | .overwrite l position bytes => w.alter l (Files.overwrite position bytes)
  | .write number bytes =>
    match w.opened.lookup number with
    | some (.pipe held ending) => w.setOpened number (.pipe (held ++ Raw.ofBytes bytes) ending)
    | some (.file h position mode kept) =>
      let l := (w.files.whereabouts h).getD []
      if mode = .append then w.alter l (· ++ bytes)
      else
        (w.alter l (Files.overwrite position bytes)).setOpened number
          (.file h (position + bytes.length) mode kept)
    | _ => w

end World

def getFiles : Action Files := do return (← get).world.files

/-- Keeps changes if they are to be kept. -/
def note (changes : List Change) : Action Unit :=
  modify fun m => { m with world := { m.world with
    changes := m.world.changes.map ((changes.reverse.map (m.elapsed, ·)) ++ ·) } }

/-- Puts files in place of those that are there. -/
def setFiles (files : Files) : Action Unit := do
  let m ← get
  if m.world.changes.isSome then note ((m.world.files.changesTo files).map Change.ofDifference)
  modify fun m => { m with world := { m.world with files } }

/-- Makes a change. -/
def makeChange (c : Change) : Action Unit := do
  note [c]
  modify fun m => { m with world := m.world.make c }

/-- The result of an action, whether or not it was broken off. -/
def attempt {α : Type} (a : Action α) : Action (Except Break α) :=
  ExceptT.mk do
    let result ← a.run
    pure (.ok result)

def resume {α : Type} (result : Except Break α) : Action α :=
  match result with
  | .ok value => pure value
  | .error b => throw b

/-- Carries out an action with a changed machine and takes back the change. -/
def within {α : Type} (change restore : Machine → Machine) (a : Action α) : Action α := do
  modify change
  let result ← attempt a
  modify restore
  resume result

/-- A fresh number for a program or an open file. -/
def newNumber : Action Nat := do
  let m ← get
  set { m with world := { m.world with nextNumber := m.world.nextNumber + 1 } }
  return m.world.nextNumber

/-! ### Open files -/

def setOpened (number : Nat) (o : Opened) : Action Unit :=
  modify fun m => { m with world := m.world.setOpened number o }

/-- Opens something under a descriptor. -/
def openAs (descriptor : Nat) (o : Opened) : Action Unit := do
  let number ← newNumber
  setOpened number o
  modify fun m => { m with
    descriptors := (descriptor, number) :: m.descriptors.filter (·.1 ≠ descriptor) }

/-- What is open under a descriptor, with its number. -/
def opened? (descriptor : Nat) : Action (Option (Nat × Opened)) := do
  let m ← get
  return do
    let number ← m.descriptors.lookup descriptor
    let o ← m.world.opened.lookup number
    some (number, o)

/-- The change that writing means to those who come to know about it later: what was opened only
now is not open for them. -/
def writing (w : World) (number : Nat) (o : Opened) (bytes : List UInt8) : Change :=
  match o with
  | .file h position mode _ =>
    let l := (w.files.whereabouts h).getD []
    if number < w.firstNumber then .write number bytes
    else if mode = .append then .extend l bytes
    else .overwrite l position bytes
  | _ => .write number bytes

/-- Writes text to a descriptor; says whether it could be written. -/
def writeTo (descriptor : Nat) (text : Raw) : Action Bool := do
  match ← opened? descriptor with
  | none => return false
  | some (_, .file _ _ .read _) => return false
  | some (number, o) =>
    let bytes := Raw.toBytes text
    note [writing (← get).world number o bytes]
    modify fun m => { m with world := m.world.make (.write number bytes) }
    return true

/-- Writes text to the standard output when the utility that runs ends. -/
def say (text : Raw) : Action Unit := modify fun m => { m with pending := m.pending ++ text }

/-- Writes the output that was left for the end; says whether it could be written. -/
def flush : Action Bool := do
  let m ← get
  set { m with pending := [] }
  if m.pending.isEmpty then return true else writeTo 1 m.pending

/-- Writes a line to the standard error output. -/
def warn (text : Raw) : Action Unit := do
  let _ ← writeTo 2 (text ++ ['\n'])

/-- The location that is the file that holds nothing. -/
def nullLocation : Location := ["null", "dev"]

/-- The descriptor that a path in a directory of its own stands for. -/
def descriptorOfPath? (p : Raw) : Option Nat :=
  if p = "/dev/stdin".toList then some 0
  else if p = "/dev/stdout".toList then some 1
  else if p = "/dev/stderr".toList then some 2
  else (Text.dropLead? "/dev/fd/".toList p).bind fun digits =>
    if !digits.isEmpty && digits.all Char.isDigit then some (Text.natOfDigits digits) else none

/-- Opens a file: what is open then, or why nothing is. -/
def openFile (mode : OpenMode) (replaces : Bool) (p : Raw) :
    Action (Except OsErrorKind Opened) := do
  let m ← get
  let files := m.world.files
  match files.locateText m.location true p.toText with
  | .error kind => return .error kind
  | .ok ⟨l, entry⟩ =>
    let opened (content : List UInt8) : Action (Except OsErrorKind Opened) := do
      return .ok (.file ((← getFiles).hold l) 0 mode content)
    if l = nullLocation then return .ok .nothing
    else
      match entry with
      | some .dir => return if mode = .read then .ok .nothing else .error .isDirectory
      | some (.file content executable) =>
        if mode = .read || mode = .both || mode = .append then opened content
        else if mode = .write && !replaces then return .error .present
        else
          makeChange (.put l (.file [] executable))
          opened []
      | _ =>
        if mode = .read then return .error .noEntry
        else if p.getLast? = some '/' then return .error .isDirectory
        else if files.get? l.tail ≠ some .dir then return .error .noEntry
        else
          makeChange (if mode = .append || mode = .both then .ensure l false
            else .put l (.file [] false))
          opened []

/-! ### Signals -/

/-- What a program does at a signal. -/
def World.handler? (w : World) (program signal : Nat) : Option Handler :=
  if signal = 9 || signal = 19 then none
  else w.handlers.find? fun h => h.program = program && h.signal = signal

/-- The signals that end no program, and those that halt it. -/
def harmlessSignals : List Nat := [17, 18, 23, 28]

def haltingSignals : List Nat := [19, 20, 21, 22]

/-- A program gets a signal: it ends or halts, it keeps the signal for later, or nothing happens. -/
def getSignal (program signal : Nat) : Action Unit := do
  let m ← get
  match m.world.handler? program signal with
  | none =>
    if harmlessSignals.contains signal then pure ()
    else if haltingSignals.contains signal then throw .stopped
    else throw (.killed program signal)
  | some h =>
    if h.isIgnored then pure ()
    else set { m with world := { m.world with caught := m.world.caught ++ [(program, signal)] } }

/-! ### Time -/

/-- Carries out what comes about by a time, and lets time go on to it. The number bounds what comes
about. -/
def goOnTo (time : Nat) : Nat → Action Unit
  | 0 => modify fun m => { m with world := { m.world with elapsed := max time m.elapsed } }
  | n + 1 => do
    let m ← get
    let due := (m.world.coming.filter (·.time ≤ time)).mergeSort fun a b => a.time ≤ b.time
    match due with
    | [] => modify fun m => { m with world := { m.world with elapsed := max time m.elapsed } }
    | first :: rest =>
      let later := m.world.coming.filter fun c => time < c.time
      set { m with world := { m.world with
        coming := rest ++ later, past := first :: m.world.past
        elapsed := max first.time m.elapsed } }
      match first.event with
      | .change c =>
        modify fun m => { m with world := m.world.make c }
      | .signal target number =>
        if (m.id :: m.waiting).contains target then getSignal target number else pure ()
      goOnTo time n

/-- Lets time go on to a time, or to the end of all time. -/
def reach (time : Nat) : Action Unit := do
  let m ← get
  let count := m.world.coming.length + 1
  match m.world.limit with
  | some limit =>
    if limit < time then
      goOnTo limit count
      throw .stopped
    else goOnTo time count
  | none => goOnTo time count

/-- Lets time pass. -/
def pass (time : Nat) : Action Unit := do reach ((← get).elapsed + time)

/-- Waits for what never comes. -/
def waitForever : Action Unit := do
  reach (((← get).world.limit).getD 0)
  throw .stopped

/-- The time that a round of a loop takes, that it takes until a program runs which nobody waits
for, and that it takes to start any other program. -/
def roundTime : Nat := 10

def forkTime : Nat := 500

def startTime : Nat := 1000

/-- When the last program that holds something open has ended, if it ends. -/
def endOfHolders (number : Nat) : Action (Option Nat) := do
  let m ← get
  let holders := m.world.jobs.filter fun j =>
    j.holds.contains number && j.ending.all (m.elapsed < ·)
  return (holders.mapM fun (j : Job) => j.ending).map (·.foldl max m.elapsed)

/-! ### Reading -/

/-- The text that is left to read under a descriptor, and what puts a part of it behind. -/
def unread? (descriptor : Nat) : Action (Option (Raw × (Nat → Action Unit))) := do
  match ← opened? descriptor with
  | none => return none
  | some (_, .nothing) => return some ([], fun _ => pure ())
  | some (number, .pipe held ending) =>
    return some (held, fun n => setOpened number (.pipe (held.drop n) ending))
  | some (number, .file h position mode kept) =>
    match mode with
    | .read | .both =>
      let content := ((← getFiles).contentOf? h).getD kept
      return some (Raw.ofBytes (content.drop position),
        fun n => setOpened number (.file h (position + n) mode kept))
    | _ => return none

/-- Waits until those who write what is read under a descriptor have ended. -/
def awaitEnd (descriptor : Nat) : Action Unit := do
  match ← opened? descriptor with
  | some (_, .pipe _ (some time)) => reach (max time (← get).elapsed)
  | some (_, .pipe _ none) => waitForever
  | _ => pure ()

/-- Reads all that is left under a descriptor. -/
def readAll? (descriptor : Nat) : Action (Option Raw) := do
  awaitEnd descriptor
  match ← unread? descriptor with
  | none => return none
  | some (text, skip) =>
    skip text.length
    return some text

/-! ### Programs of their own -/

/-- The machine as a program sees it that another one has started. -/
def Machine.child (m : Machine) (id : Nat) : Machine :=
  { m with
    id
    pending := []
    world := { m.world with handlers := (m.world.handlers.filter fun h =>
      h.program = m.id && h.isIgnored).map (fun h => { h with program := id }) ++
        m.world.handlers } }

/-- How many statuses a program can end with. -/
def statusCount : Nat := 256

/-- Carries out an action as a program that is waited for. Of it only the world stays, and its
status. If the program was killed, its signal is returned. -/
def isolated (change : Machine → Machine) (a : Action Unit) : Action (Option Nat) := do
  let id ← newNumber
  let before ← get
  set (change { before.child id with waiting := before.id :: before.waiting })
  let result ← attempt a
  let after ← get
  let status := after.status % statusCount
  set { before with world := after.world, status }
  match result with
  | .error (.killed program signal) =>
    if program = id then
      setStatus (128 + signal)
      return some signal
    else throw (.killed program signal)
  | .error .stopped => throw .stopped
  | _ => return none

/-- Carries out an action whose standard output is kept. -/
def capturing (a : Action Unit) : Action Raw := do
  let before := (← get).descriptors
  openAs 1 (.pipe [] (some 0))
  let number := ((← get).descriptors.lookup 1).getD 0
  let result ← attempt a
  match ← endOfHolders number with
  | some time => reach time
  | none => waitForever
  modify fun m => { m with descriptors := before }
  let text :=
    match (← get).world.opened.lookup number with
    | some (.pipe held _) => held
    | _ => []
  modify fun m => { m with world := { m.world with
    opened := m.world.opened.filter (·.1 ≠ number) } }
  resume result
  return text

end TestImpact.Child
