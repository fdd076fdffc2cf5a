import TestImpact.Child.Shell.Run
import TestImpact.Child.Supervise
import TestImpact.Launch.Basic

/-!
# Launching children

A call of the launcher starts a program as a child, with the directory and the variables of the
call. The child is supervised: it runs to its end, or it is killed when its time is up.
-/

namespace TestImpact.Child

/-- How a child ends. -/
inductive ChildEnd where
  | exited (code : Nat)
  | killed (signal : Nat)
  /-- It was still running when its time was up. -/
  | unfinished
  deriving DecidableEq, Repr, Inhabited

/-- The exit code of a child; one that was killed has the negative number of the signal. -/
def ChildEnd.code? : ChildEnd → Option Int
  | exited code => some code
  | killed signal => some (-signal)
  | unfinished => none

/-- A timeout in microseconds. A timeout that is no number never comes, nor does infinity. -/
def limitOf (timeout : Option Data.Number) : Option Nat :=
  match timeout with
  | none => none
  | some (.int n) => some (n.toNat * 1000000)
  | some (.float x) =>
    if !x.isFinite then (if x.isInfinite && x.isNegative then some 0 else none)
    else if x.isNegative then some 0
    else
      let (num, den) := x.ratio
      some (num * 1000000 / den)

/-- How deep the commands of a child may run. -/
def deepestRun : Nat := 100000

/-- The permissions that new files are not given. -/
def standardMask : Nat := 0o022

/-- The number of the first child. -/
def firstChild : Nat := 4711

/-- The machine that runs a child: its input is empty, and its output goes nowhere. -/
def machineFor (accounts : Accounts) (files : Files) (standing : Files.Handle)
    (env : List (Raw × Raw)) (limit : Option Nat) : Machine :=
  { (default : Machine) with
    world := { (default : World) with
      accounts
      files
      opened := [(1, .nothing)]
      nextNumber := firstChild + 1
      limit }
    id := firstChild
    standing
    descriptors := [(0, 1), (1, 1), (2, 1)]
    mask := standardMask
    env
    shellId := firstChild }

/-- How long programs go on that a child leaves behind, before its files are looked at. -/
def afterTime : Nat := 5000

/-- Lets the programs go on that a child leaves behind. -/
def reachLast (m : Machine) : Action Unit :=
  goOnTo (min (m.elapsed + afterTime) (m.world.limit.getD (m.elapsed + afterTime)))
    (m.world.coming.length + 1)

/-- Runs what was started in a directory to its end, or until time is up. -/
def runStart (accounts : Accounts) (files : Files) (standing : Files.Handle)
    (env : List (Raw × Raw)) (limit : Option Nat) (start : Start) : Files × ChildEnd :=
  if limit = some 0 then (files, .unfinished)
  else
    let action := Shell.runTool (Shell.run deepestRun) Shell.mostStarts start
    let (result, m) := action.run.run (machineFor accounts files standing env limit)
    let (_, m) := (reachLast m).run.run m
    (m.world.files,
      match result with
      | .error (.killed _ signal) => .killed signal
      | .error .stopped => .unfinished
      | _ => .exited (m.status % statusCount))

/-- What is wrong with a call before anything is started. -/
def callFault? (call : LauncherCall) : Option Fault :=
  let texts := call.command ++ call.directory.toText :: call.env.flatMap fun (n, v) => [n, v]
  if call.env.any fun (n, _) => n.toList.contains '=' then
    some (.badValue "illegal environment variable name")
  else if texts.any Files.hasNull then some .nullByte
  else if call.command.isEmpty then some (.outOfRange "list index out of range")
  else none

/-- The variables of a call, as programs see them. -/
def rawEnvironment (env : Environment) : List (Raw × Raw) :=
  env.map fun (name, value) => (Raw.ofText name, Raw.ofText value)

/-- What a call starts and where, or why nothing is started. -/
def startOf (files : Files) (cwd : Location) (call : LauncherCall) :
    Except OsError (Location × Start) :=
  let name := call.command.headD ""
  match files.locateText cwd true call.directory.toText with
  | .error kind => .error (.startingIn kind call.directory.toText)
  | .ok ⟨_, none⟩ => .error (.startingIn .noEntry call.directory.toText)
  | .ok ⟨l, some .dir⟩ =>
    match find files l (rawEnvironment call.env) (Raw.ofText name)
        (call.command.tail.map Raw.ofText) with
    | .error kind => .error (.at kind name)
    | .ok start => .ok (l, start)
  | .ok _ => .error (.startingIn .notDirectory call.directory.toText)

/-- What a child that is started for a call does to the files, and how it behaves. -/
def behave (accounts : Accounts) (files : Files) (cwd : Location) (call : LauncherCall) :
    Files × Behaviour :=
  match callFault? call with
  | some f => (files, ⟨some f, .ok 0, .ok 0⟩)
  | none =>
    match startOf files cwd call with
    | .error e => (files, ⟨some (.os e), .ok 0, .ok 0⟩)
    | .ok (l, start) =>
      let (files, ending) :=
        runStart accounts files (files.hold l) (rawEnvironment call.env) (limitOf call.timeout) start
      let late : Except Fault Int :=
        .error (.stillRunning (Data.ofTexts call.command).toNested (timeoutText call.timeout))
      (files, ⟨none, (ending.code?.map Except.ok).getD late, .ok (-9)⟩)

/-- Runs a call as a child: the files that it leaves, and its exit code. -/
def runCall (accounts : Accounts) (files : Files) (cwd : Location) (call : LauncherCall) :
    Files × Except Fault Int :=
  let (files, child) := behave accounts files cwd call
  (files, (supervise call child).2)

/-- The launcher that starts a child for each call and supervises it. What the child does to the files,
and how it behaves, is given by the call and the files. -/
def supervisor (child : LauncherCall → Files → Files × Behaviour) : Launcher := fun call =>
  .observe fun files =>
    let (later, behaviour) := child call files
    .change (fun _ => later) (.ends (match (supervise call behaviour).2 with
      | .ok code => .exit code
      | .error f => .failure (.fault f)))

/-- The launcher that starts programs, for a program that stands in a directory. -/
def launcher (accounts : Accounts) (standing : Files.Handle) : Launcher :=
  supervisor fun call files => behave accounts files (files.standing standing) call

end TestImpact.Child
