import TestImpact.Failure
import TestImpact.Run

/-!
# Plans

A plan is all that is needed to start the executor for a request. Planning touches nothing: it
builds the directive and the arguments and refuses a configuration in which something is missing.
-/

namespace TestImpact

/-- Where a launch happens: the current directory of the launching program, unless it was removed,
the environment, and how long integers may be. -/
structure Surroundings where
  directory : Option Path
  env : Environment
  digitLimit : Number.DigitLimit
  deriving Repr, Inhabited

/-- Makes something of paths, read from the current directory. If that was removed, there is nothing
to read a relative path from; whatever else is wrong is told first. -/
def Surroundings.reading {α : Type} (around : Surroundings) (paths : List Path)
    (make : Path → Attempt α) : Attempt α :=
  match make (around.directory.getD .here) with
  | .error f => .error f
  | .ok made =>
    if around.directory.isSome || paths.all Path.isAbsolute then .ok made
    else .error (.fault (.os .nowhere))

/-- All that is needed to start the executor. -/
structure Plan where
  command : List String
  arguments : List String
  directive : Option String
  workingDir : Path
  env : Environment
  artifact : Path
  reportsDir : Path
  deriving Repr, Inhabited

namespace Plan

/-- Marks every process that a launch starts. -/
def executionMark : String × String := ("TIALAUNCH_EXECUTION", "1")

/-- The variables of the executor: the inherited ones, those of the configuration, and the mark. -/
def environment (around : Surroundings) (executor : ExecutorConfig) : Environment :=
  (around.env.overlay executor.env).set executionMark.1 executionMark.2

/-- The options that set the class path, if there is one. -/
def classpathOptions (classpath : List Path) : List String :=
  if classpath.isEmpty then [] else ["-cp", Path.joinList (classpath.map Path.toText)]

/-- What the executor is asked for. -/
def selection (config : Config) (request : LaunchRequest) (agent : Agent) : Selection where
  identity := config.server.identity
  window := request.window
  filter := request.filter
  reportsDir := config.report.reportsDir request.context
  scanPaths := (ScanPath.collect request.context.units).map Path.toText
  runAll := request.runAll
  agentUrl := agent.controlUrl
  partitionName := config.report.partitionFor request.context.task

/-- The plan of a request: first the directive of the agent, then the arguments. -/
def build (config : Config) (around : Surroundings) (request : LaunchRequest) :
    Attempt Plan := do
  let run := request.context
  let artifact := config.report.artifact run
  let agent := config.agent.agent (config.report.dumpDir run)
  let reportsDir := config.report.reportsDir run
  let directive ← around.reading (agent.paths run.workingDir artifact) fun cwd =>
    agent.directive around.digitLimit cwd run.workingDir artifact
  let arguments ← around.reading [reportsDir] fun cwd =>
    Failure.ofError (Arguments.build cwd (selection config request agent))
  .ok {
    command := config.executor.java :: config.executor.jvmArgs ++ directive.toList ++
      classpathOptions config.executor.classpath ++ config.executor.mainClass :: arguments
    arguments
    directive
    workingDir := run.workingDir
    env := environment around config.executor
    artifact
    reportsDir
  }

end Plan

end TestImpact
