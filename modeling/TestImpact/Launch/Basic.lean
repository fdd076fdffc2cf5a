import TestImpact.Launch.Artifact

/-!
# Launching

A launch is planned and prepared, the executor is checked and started by a launcher, and how it
ended is reported. Only one launch is in flight: a launch that is asked for meanwhile, by the
launcher itself, is refused and changes nothing.

A launcher is any program over the session that ends with an exit code or a failure; it may change
the files in any way, look at them, and ask its own session for launches. That is all it does: it
does not move the program to another directory, it does not change the command that it was called
with, and it has no other session in which it launches. Threads are not modelled: a second launch
comes from inside the first one, as the launcher's own request.
-/

namespace TestImpact

/-- How the run of a launcher ends. -/
inductive LauncherEnd where
  | exit (code : Int)
  | failure (f : Failure)
  deriving Inhabited

/-- What a launcher does with one call: it changes files, looks at them, or asks for a launch. -/
inductive LauncherRun where
  | ends (e : LauncherEnd)
  | change (f : Files → Files) (next : LauncherRun)
  | observe (next : Files → LauncherRun)
  /-- Asks for a launch. `nested` is what the launcher does if that launch calls it, and `next` goes
  on with the answer. -/
  | relaunch (request : LaunchRequest) (nested : LauncherCall → LauncherRun)
      (next : Attempt LaunchResult → LauncherRun)

abbrev Launcher := LauncherCall → LauncherRun

namespace Session

/-- The variable that holds the id of the launch. -/
def runIdVariable : String := "TIALAUNCH_RUN_ID"

/-- Plans the run, removes a stale artifact and makes the directories that the run writes to. -/
def prepare (setting : Setting) (request : LaunchRequest) (s : Session) : Session × Attempt Plan :=
  let s := { s with state := .preparing }
  let s := s.log .info "launch.preparing"
    [("task", request.context.task),
     ("baseline", RevisionPoint.describe request.window.baseline),
     ("end", RevisionPoint.describe request.window.fin),
     ("run_all_tests", .bool request.runAll)]
  match Plan.build setting.config (setting.around s.files) request with
  | .error e => (s, .error e)
  | .ok plan =>
    match s.prepareArtifact setting request.context with
    | (s, .error e) => (s, .error e)
    | (s, .ok _) =>
      let (files, made) := s.files.ensureDir (setting.location s.files) plan.reportsDir
      let s := { s with files }
      match made with
      | .ok () => (s, .ok plan)
      | .error (.os e) =>
        (s, .error (.error (.of
          (.invalidValue "report.reports_subdir" plan.reportsDir.toText e.message))))
      | .error f => (s, .error (.fault f))

/-- Refuses a plan that cannot be started: without a class path, without an executable, or with a
directive that could not be read. -/
def checkSpawnable (setting : Setting) (files : Files) (plan : Plan) : Except LaunchError Unit :=
  let executor := setting.config.executor
  if executor.classpath.isEmpty then .error (.of .emptyClasspath)
  else
    match files.which (setting.location files) (setting.env.get? "PATH") executor.java with
    | none => .error (.of (.executableNotFound executor.java))
    | some _ =>
      match plan.directive with
      | some directive => Agent.checkDirective directive
      | none => .ok ()

/-- The time after which a run was stopped, as it is reported. -/
def reportedTimeout : Option Data.Number → Data
  | some (.int n) => if n = 0 then .float (.ofInt 0) else .int n
  | some (.float x) => if x.isZero then .float (.ofInt 0) else .float x
  | none => .float (.ofInt 0)

/-- Reports how the launcher ended. -/
def conclude (setting : Setting) (request : LaunchRequest) (plan : Plan) (s : Session) :
    LauncherEnd → Session × Attempt LaunchResult
  | .exit code =>
    match s.files.isFile (setting.location s.files) plan.artifact with
    | .error f => (s, .error (.fault f))
    | .ok present =>
      let s := { s with state := .completed }
      let s := s.log .info "launch.completed"
        [("exit_code", .int code), ("artifact_present", .bool present),
         ("duration_seconds", .float setting.elapsed)]
      let s :=
        if present then s
        else s.log .warning "launch.no_coverage" [("artifact", plan.artifact.toText)]
      (s, .ok ⟨code, plan.artifact, present, plan.reportsDir⟩)
  | .failure (.fault (.os e)) =>
    (s, .error (.error (.of (.osFailure (plan.command.headD "") e.message))))
  | .failure failure =>
    match s.discardArtifact setting plan.artifact with
    | (s, .error f) => (s, .error (.fault f))
    | (s, .ok ()) =>
      match failure with
      | .fault (.timeout _) =>
        (s, .error (.error (.of (.timedOut (reportedTimeout request.timeout)))))
      | _ => (s, .error failure)

/-- Hands a prepared plan over to the launcher: the plan is checked, and what is about to be started
is logged. The call of the launcher is noted as the last thing. -/
def handOver (setting : Setting) (request : LaunchRequest) (runId : String) (plan : Plan)
    (s : Session) : Session × Except LaunchError LauncherCall :=
  let s := { s with state := .running }
  match checkSpawnable setting s.files plan with
  | .error e => (s, .error e)
  | .ok () =>
    let env := plan.env.set runIdVariable runId
    let s := s.log .info "launch.spawning"
      [("working_dir", plan.workingDir.toText), ("directive", .ofOption plan.directive)]
    let s := s.log .debug "launch.arguments" [("args", .ofTexts (Arguments.mask plan.arguments))]
    let call : LauncherCall := ⟨plan.command, plan.workingDir, env, request.timeout⟩
    (s.note (.call call s.state), .ok call)

/-- All that a launch does before its launcher is called. -/
def approach (setting : Setting) (request : LaunchRequest) (runId : String) (s : Session) :
    Session × Attempt (Plan × LauncherCall) :=
  match s.prepare setting request with
  | (s, .error e) => (s, .error e)
  | (s, .ok plan) =>
    match s.handOver setting request runId plan with
    | (s, .error e) => (s, .error (.error e))
    | (s, .ok call) => (s, .ok (plan, call))

/-- The state after a launch that failed. -/
def fail (s : Session) (failure : Failure) : Session :=
  let s := { s with state := .failed }
  match failure with
  | .error e =>
    s.log .error "launch.failed" [("error", e.cause.name), ("message", e.cause.message)]
  | _ => s.log .error "launch.interrupted" []

/-- Prepares a run, has the launcher carry it out, and reports how it ended. -/
def carryOut (setting : Setting) (launcher : LauncherCall → Session → Session × LauncherEnd)
    (request : LaunchRequest) (runId : String) (s : Session) : Session × Attempt LaunchResult :=
  match s.approach setting request runId with
  | (s, .error e) => (s, .error e)
  | (s, .ok (plan, call)) =>
    let (s, ending) := launcher call s
    s.conclude setting request plan ending

/-- The session with a launch in flight, under an id of its own. -/
def begin (setting : Setting) (s : Session) : Session :=
  { s with busy := true, runId := some (setting.runIds s.launches), launches := s.launches + 1 }

/-- The session after a launch, with none in flight. -/
def finish : Session × Attempt LaunchResult → Session × Attempt LaunchResult
  | (s, .ok result) => ({ s with busy := false, runId := none }, .ok result)
  | (s, .error failure) => ({ s.fail failure with busy := false, runId := none }, .error failure)

/-- A launch with a launcher that is given as a function on sessions. -/
def launchBy (setting : Setting) (launcher : LauncherCall → Session → Session × LauncherEnd)
    (request : LaunchRequest) (s : Session) : Session × Attempt LaunchResult :=
  if s.busy then (s, .error (.error (.of (.inProgress s.state.name))))
  else
    finish ((s.begin setting).carryOut setting launcher request (setting.runIds s.launches))

end Session

namespace LauncherRun

/-- Carries out what a launcher does. -/
def play (setting : Setting) : LauncherRun → Session → Session × LauncherEnd
  | ends e, s => (s, e)
  | change f next, s => play setting next { s with files := f s.files }
  | observe next, s => play setting (next s.files) s
  | relaunch request nested next, s =>
    let (s, answer) := s.launchBy setting (fun call s => play setting (nested call) s) request
    play setting (next answer) (s.note (.reply answer s.state))

end LauncherRun

namespace Session

/-- Prepares a run, has the launcher run the executor, and reports how it ended. -/
def launch (setting : Setting) (launcher : Launcher) (request : LaunchRequest) (s : Session) :
    Session × Attempt LaunchResult :=
  s.launchBy setting (fun call s => (launcher call).play setting s) request

end Session

end TestImpact
