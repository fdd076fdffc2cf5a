import TestImpact.Failure
import TestImpact.Files.Operations
import TestImpact.Log.Record
import TestImpact.Plan

/-!
# Launch sessions

A session makes one launch at a time over a tree of files. It keeps its state, whether a launch is
in flight and under which id, and the trace of what happened: log records, calls of the launcher,
and answers to launches that were asked for from inside a launcher.
-/

namespace TestImpact

/-- How far the last launch came. -/
inductive LaunchState where
  | idle
  | preparing
  | running
  | completed
  | failed
  deriving DecidableEq, Repr, Inhabited

def LaunchState.name : LaunchState → String
  | idle => "idle"
  | preparing => "preparing"
  | running => "running"
  | completed => "completed"
  | failed => "failed"

/-- What a launcher is called with. -/
structure LauncherCall where
  command : List String
  directory : Path
  env : Environment
  timeout : Option Data.Number
  deriving Inhabited

/-- The outcome of a launch that came to its end. An exit code other than zero means failing tests.
-/
structure LaunchResult where
  exitCode : Int
  artifact : Path
  artifactPresent : Bool
  reportsDir : Path
  deriving DecidableEq, Repr, Inhabited

/-- Something that happened in a session. -/
inductive TraceEntry where
  | record (r : LogRecord)
  | call (c : LauncherCall) (state : LaunchState)
  | reply (answer : Attempt LaunchResult) (state : LaunchState)
  deriving Inhabited

def TraceEntry.isCall : TraceEntry → Bool
  | call .. => true
  | _ => false

structure Session where
  state : LaunchState
  busy : Bool
  runId : Option String
  /-- The number of launches that were given an id. -/
  launches : Nat
  files : Files
  trace : List TraceEntry
  deriving Inhabited

/-- What stays the same in a session: the configuration, the environment, the directory in which the
program stands, the ids of launches by number, the time that the clock shows a run to take, and how
long integers may be. A session is the only one of its program, and nobody moves the program to
another directory: a launcher that did would leave the setting. -/
structure Setting where
  config : Config
  env : Environment
  standing : Files.Handle
  runIds : Nat → String
  elapsed : Binary64
  digitLimit : Number.DigitLimit
  deriving Inhabited

namespace Setting

/-- The current directory as a location. -/
def location (setting : Setting) (files : Files) : Location := files.standing setting.standing

/-- Where a launch happens. -/
def around (setting : Setting) (files : Files) : Surroundings :=
  ⟨files.pathOf setting.standing, setting.env, setting.digitLimit⟩

end Setting

namespace Session

/-- A session in which nothing was launched. -/
def start (files : Files) : Session := ⟨.idle, false, none, 0, files, []⟩

def note (s : Session) (entry : TraceEntry) : Session := { s with trace := s.trace ++ [entry] }

/-- Logs an event under the id of the launch in flight. -/
def log (s : Session) (level : LogLevel) (event : String) (fields : List (String × Data)) :
    Session :=
  s.note (.record ⟨event, level, fields, s.runId⟩)

end Session

end TestImpact
