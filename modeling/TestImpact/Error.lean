import TestImpact.Data.Basic

/-!
# Launch errors

The errors that a launch reports. An error has a cause, which fixes its code, its name, its message
and its details, and a family, by which callers tell errors apart; every cause has a family of its
own, and a family of configuration errors may carry any configuration cause.
-/

namespace TestImpact

/-- The kinds of errors that callers handle differently. -/
inductive ErrorFamily where
  | configuration
  | pattern
  | spawn
  | cancelled
  | busy
  deriving DecidableEq, Repr, Inhabited

/-- What went wrong. -/
inductive ErrorCause where
  | unreadable (path reason : String)
  | invalidValue (field value reason : String)
  | missing (field : String)
  | fileNotFound (path : String)
  | invalidPattern (pattern reason : String)
  | executableNotFound (executable : String)
  | emptyClasspath
  | osFailure (command reason : String)
  | malformedDirective (directive : String)
  | resetFailed (path reason : String)
  | timedOut (seconds : Data)
  | inProgress (state : String)
  deriving Inhabited

namespace ErrorCause

/-- Codes from 2000 are about the configuration and codes from 3000 about the launch. -/
def code : ErrorCause → Nat
  | unreadable .. => 2001
  | invalidValue .. => 2002
  | missing .. => 2003
  | fileNotFound .. => 2004
  | invalidPattern .. => 2005
  | executableNotFound .. => 3001
  | emptyClasspath => 3002
  | osFailure .. => 3003
  | malformedDirective .. => 3004
  | resetFailed .. => 3005
  | timedOut .. => 3006
  | inProgress .. => 3007

def name : ErrorCause → String
  | unreadable .. => "CONFIG_PARSE_ERROR"
  | invalidValue .. => "CONFIG_INVALID_VALUE"
  | missing .. => "CONFIG_MISSING_REQUIRED"
  | fileNotFound .. => "CONFIG_FILE_NOT_FOUND"
  | invalidPattern .. => "CONFIG_INVALID_PATTERN"
  | executableNotFound .. => "LAUNCH_EXECUTABLE_NOT_FOUND"
  | emptyClasspath => "LAUNCH_EMPTY_CLASSPATH"
  | osFailure .. => "LAUNCH_OS_FAILURE"
  | malformedDirective .. => "LAUNCH_MALFORMED_DIRECTIVE"
  | resetFailed .. => "LAUNCH_ARTIFACT_RESET_FAILED"
  | timedOut .. => "LAUNCH_CANCELLED"
  | inProgress .. => "LAUNCH_IN_PROGRESS"

def message : ErrorCause → String
  | unreadable path reason => s!"Failed to parse config at {path}: {reason}"
  | invalidValue field _ reason => s!"Invalid value for '{field}': {reason}"
  | missing field => s!"Missing required config field: {field}"
  | fileNotFound path => s!"Config file not found: {path}"
  | invalidPattern pattern reason => s!"Invalid class pattern '{pattern}': {reason}"
  | executableNotFound executable => s!"Executable not found: {executable}"
  | emptyClasspath => "Executor classpath is empty"
  | osFailure command reason => s!"Failed to start '{command}': {reason}"
  | malformedDirective directive => s!"Malformed agent directive: {directive}"
  | resetFailed path reason => s!"Could not remove stale coverage file {path}: {reason}"
  | timedOut seconds => s!"Launch cancelled after {seconds.toText} seconds"
  | inProgress state => s!"Another launch is in progress (state: {state})"

/-- The parts of the cause by name, in the order in which they are reported. -/
def details : ErrorCause → List (String × Data)
  | unreadable path reason => [("path", path), ("reason", reason)]
  | invalidValue field value reason => [("field", field), ("value", value), ("reason", reason)]
  | missing field => [("field", field)]
  | fileNotFound path => [("path", path)]
  | invalidPattern pattern reason => [("pattern", pattern), ("reason", reason)]
  | executableNotFound executable => [("executable", executable)]
  | emptyClasspath => []
  | osFailure command reason => [("command", command), ("reason", reason)]
  | malformedDirective directive => [("directive", directive)]
  | resetFailed path reason => [("path", path), ("reason", reason)]
  | timedOut seconds => [("timeout_sec", seconds)]
  | inProgress state => [("state", state)]

/-- The family that a cause belongs to. -/
def family : ErrorCause → ErrorFamily
  | unreadable .. | invalidValue .. | missing .. | fileNotFound .. => .configuration
  | invalidPattern .. => .pattern
  | executableNotFound .. | emptyClasspath | osFailure .. | malformedDirective ..
  | resetFailed .. => .spawn
  | timedOut .. => .cancelled
  | inProgress .. => .busy

end ErrorCause

/-- An error of a launch. -/
structure LaunchError where
  family : ErrorFamily
  cause : ErrorCause
  deriving Inhabited

namespace LaunchError

/-- The error of a cause, in the cause's own family. -/
def of (cause : ErrorCause) : LaunchError := ⟨cause.family, cause⟩

/-- Whether trying again may help; no error of a launch goes away by itself. -/
def retryable (_ : LaunchError) : Bool := false

/-- An error about a class pattern is an error about the configuration. -/
def isConfiguration (e : LaunchError) : Bool :=
  e.family == .configuration || e.family == .pattern

/-- Code, name and message on one line. -/
def toText (e : LaunchError) : String :=
  s!"[{e.cause.code}] {e.cause.name}: {e.cause.message}"

end LaunchError

end TestImpact
