import TestImpact.CommandLine.Help
import TestImpact.CommandLine.Values
import TestImpact.Config.Load
import TestImpact.Launch.Basic
import TestImpact.Log.Journal

/-!
# Carrying out commands

A command reads its options, loads the configuration, sets up the journal and makes the request for
a launch. `tia args` shows the plan of the request and `tia run` launches it. Both report a launch
error in one line, and any other failure ends the command as it is.
-/

namespace TestImpact.CommandLine

/-- What a command runs in. -/
structure Situation where
  directory : Path
  env : Environment
  /-- The configuration file of the user. -/
  userFile : Path
  reader : Config.Reader
  runIds : Nat → String
  /-- The time that a run takes, by the clock. -/
  elapsed : Binary64
  /-- The time of log records. -/
  time : String
  /-- The launcher of a program that stands in a directory. -/
  launcher : Files.Handle → Launcher

/-- How a command ends: with an exit code, or with a failure that it does not handle. -/
inductive Ending where
  | exit (code : Int)
  | escaped (f : Failure)
  deriving Inhabited

/-- What a command leaves. -/
structure Outcome where
  desk : Desk
  ending : Ending
  /-- What happened in the session. -/
  trace : List TraceEntry
  deriving Inhabited

namespace Situation

def location (s : Situation) : Location := s.directory.segments.reverse

/-- The setting of a session over files. -/
def setting (s : Situation) (config : Config) (files : Files) : Setting :=
  ⟨config, s.env, files.hold s.location, s.runIds, s.elapsed, s.reader.digitLimit⟩

end Situation

/-- The exit code of a command line that is not understood. -/
def usageCode : Int := 2

def helpOf (c : CommandSpec) : String :=
  helpPage c
    (if c = groupSpec then Command.all.map fun command => (command.name, command.spec) else [])

/-- Tells about a problem with the words of a command. -/
def reportProblem (c : CommandSpec) (p : Problem) (desk : Desk) : Outcome :=
  let hint := if p.showsUsage then usage c ++ s!"Try '{c.call} --help' for help.\n\n" else ""
  ⟨desk.write .errors (hint ++ "Error: " ++ p.message ++ "\n"), .exit usageCode, []⟩

/-- Ends a command before it has done its work. -/
def stop (c : CommandSpec) (desk : Desk) : Stop → Outcome
  | .problem p => reportProblem c p desk
  | .fault f => ⟨desk, .escaped (.fault f), []⟩
  | .help => ⟨desk.write .output (helpOf c), .exit 0, []⟩
  | .version => ⟨desk.write .output versionLine, .exit 0, []⟩

/-- Ends a command with a failure. -/
def fail (desk : Desk) (trace : List TraceEntry) : Failure → Outcome
  | .error e => ⟨desk.write .errors ("Error: " ++ e.toText ++ "\n"), .exit 1, trace⟩
  | .fault (.exited message) => ⟨desk.write .output (message ++ "\n"), .exit 1, trace⟩
  | .fault (.interrupted _) => ⟨desk.write .errors "\nAborted!\n", .exit 1, trace⟩
  | f => ⟨desk, .escaped f, trace⟩

/-- The logging section of a configuration; a verbose command logs at the lowest level. -/
def loggingOf (verbose : Bool) (config : Config) : LoggingConfig :=
  if verbose then { config.logging with level := .debug } else config.logging

/-- Loads the configuration and sets up the journal by it. -/
def prepare (s : Situation) (verbose : Bool) (o : LaunchOptions) (desk : Desk) :
    Journal × Desk × Attempt Config :=
  let sources : Config.Sources := ⟨s.userFile, s.directory, o.configFile, []⟩
  match Config.load s.reader desk.files s.location s.env sources with
  | .error f => (.start, desk, .error f)
  | .ok config =>
    let (journal, files, result) :=
      Journal.start.configure s.location (loggingOf verbose config) desk.files
    let desk := { desk with files }
    match result with
    | .error f => (journal, desk, .error (.fault f))
    | .ok () =>
      let desk := journal.record s.time ⟨"cli.config_loaded", .debug,
        [("logger", "tialaunch.cli"), ("config_file", (o.configFile.elim "" Path.toText : String)),
         ("verbose", .bool verbose)], none⟩ desk
      (journal, desk, .ok config)

/-- The text that `tia args` prints for a plan, with secrets masked. -/
def describePlan (asJson : Bool) (plan : Plan) : String :=
  let arguments := Arguments.mask plan.arguments
  if asJson then
    Json.write (.indented 2) (.ofFields [("directive", .ofOption plan.directive),
      ("arguments", .ofTexts arguments), ("working_dir", plan.workingDir.toText),
      ("artifact", plan.artifact.toText)]) ++ "\n"
  else
    let directive := (plan.directive.filter (· ≠ "")).toList
    String.join ((directive ++ arguments).map (· ++ "\n"))

/-- Shows the plan of a request. -/
def showPlan (s : Situation) (config : Config) (o : LaunchOptions) (desk : Desk) : Outcome :=
  match o.request desk.files s.directory with
  | .error f => fail desk [] (.fault f)
  | .ok request =>
    match Plan.build config ⟨some s.directory, s.env, s.reader.digitLimit⟩ request with
    | .error f => fail desk [] f
    | .ok plan => ⟨desk.write .output (describePlan o.asJson plan), .exit 0, []⟩

/-- The lines of the log records of a session. -/
def linesOf (s : Situation) (journal : Journal) (trace : List TraceEntry) :
    List (LogTarget × String) :=
  trace.flatMap fun entry =>
    match entry with
    | .record r => journal.linesOf s.time r
    | _ => []

/-- What comes after the call of the launcher in a trace, or all if there is none. -/
def afterCall (trace : List TraceEntry) : List TraceEntry :=
  match trace.dropWhile (!·.isCall) with
  | [] => trace
  | rest => rest

/-- Launches a request. A launcher finds the records before its call in the log files. -/
def launchLogged (s : Situation) (journal : Journal) (config : Config) (request : LaunchRequest)
    (desk : Desk) : Session × Desk × Attempt LaunchResult :=
  let setting := s.setting config desk.files
  let launcher (call : LauncherCall) (session : Session) : Session × LauncherEnd :=
    let files := Journal.writeFiles (linesOf s journal session.trace) session.files
    (s.launcher setting.standing call).play setting { session with files }
  let (session, result) := (Session.start desk.files).launchBy setting launcher request
  let files := Journal.writeFiles (linesOf s journal (afterCall session.trace)) session.files
  let terminal := Journal.writeStreams (linesOf s journal session.trace) desk.terminal
  (session, ⟨files, terminal⟩, result)

/-- Launches a request and ends with the exit code of the executor. -/
def runLaunch (s : Situation) (journal : Journal) (config : Config) (o : LaunchOptions)
    (desk : Desk) : Outcome :=
  match o.request desk.files s.directory with
  | .error f => fail desk [] (.fault f)
  | .ok request =>
    let (session, desk, result) := launchLogged s journal config request desk
    match result with
    | .error f => fail desk session.trace f
    | .ok result =>
      let desk :=
        if result.artifactPresent then desk
        else
          desk.write .errors
            ("Warning: no coverage written to " ++ result.artifact.toText ++ "\n")
      ⟨desk, .exit result.exitCode, session.trace⟩

/-- Carries out a command with its words. -/
def runCommand (s : Situation) (verbose : Bool) (command : Command) (words : List String)
    (desk : Desk) : Outcome :=
  match readWords command.spec true words with
  | .error p => reportProblem command.spec p desk
  | .ok read =>
    match checkWords desk.files s.location command.spec read with
    | .error e => stop command.spec desk e
    | .ok () =>
      if !read.rest.isEmpty then reportProblem command.spec (.extraArguments read.rest) desk
      else
        let o := LaunchOptions.ofWords read
        match prepare s verbose o desk with
        | (_, desk, .error f) => fail desk [] f
        | (journal, desk, .ok config) =>
          match command with
          | .args => showPlan s config o desk
          | .run => runLaunch s journal config o desk

/-- Reports a command that is not there. Its words are read once more, so that an option in its
place is told about as an option. -/
def missingCommand (s : Situation) (name : String) (words : List String) (desk : Desk) : Outcome :=
  match readWords groupSpec false (name :: words) with
  | .error p => reportProblem groupSpec p desk
  | .ok read =>
    match checkWords desk.files s.location groupSpec read with
    | .error e => stop groupSpec desk e
    | .ok () => reportProblem groupSpec (.noSuchCommand name (Command.all.map Command.name)) desk

/-- Carries out a command line. -/
def run (s : Situation) (words : List String) (files : Files) : Outcome :=
  let desk : Desk := ⟨files, .empty⟩
  if words.isEmpty then
    ⟨desk.write .errors (helpOf groupSpec), .exit usageCode, []⟩
  else
    match readWords groupSpec false words with
    | .error p => reportProblem groupSpec p desk
    | .ok read =>
      match checkWords desk.files s.location groupSpec read with
      | .error e => stop groupSpec desk e
      | .ok () =>
        match read.rest with
        | [] => reportProblem groupSpec .missingCommand desk
        | name :: words =>
          match Command.ofName? name with
          | none => missingCommand s name words desk
          | some command =>
            let verbose := !(read.values OptionSpec.verbose.name).isEmpty
            runCommand s verbose command words desk

end TestImpact.CommandLine
