import TestImpact.Agent
import TestImpact.Arguments
import TestImpact.Environment
import TestImpact.Log.Level

/-!
# Configuration

The configuration of a launch in five sections: logging, server, agent, executor and report. Every
field has a default; what a launch needs beyond that is checked when the launch is planned.
-/

namespace TestImpact

inductive LogFormat where
  | json
  | console
  deriving DecidableEq, Repr, Inhabited

/-- Where log records go: a stream or a file. An output without a level has the root level. -/
structure LogOutput where
  format : LogFormat
  destination : String
  level : Option LogLevel
  deriving DecidableEq, Repr, Inhabited

structure LoggingConfig where
  level : LogLevel
  outputs : List LogOutput
  deriving DecidableEq, Repr, Inhabited

structure ServerConfig where
  url : Option String
  project : Option String
  user : Option String
  accessToken : Option String
  deriving DecidableEq, Repr, Inhabited

/-- Whether the agent is attached to the executor or runs elsewhere. -/
inductive AgentMode where
  | local
  | remote
  deriving DecidableEq, Repr, Inhabited

structure AgentConfig where
  mode : AgentMode
  url : Option String
  controlPort : Int
  jar : Option Path
  includes : List String
  excludes : List String
  dumpClasses : Bool
  deriving DecidableEq, Repr, Inhabited

structure ExecutorConfig where
  java : String
  mainClass : String
  classpath : List Path
  jvmArgs : List String
  env : Environment
  deriving DecidableEq, Repr, Inhabited

/-- Where a run writes, below the build directory. -/
structure ReportConfig where
  partitionName : String
  reportsSubdir : String
  artifactSubdir : String
  dumpSubdir : String
  deriving DecidableEq, Repr, Inhabited

structure Config where
  logging : LoggingConfig
  server : ServerConfig
  agent : AgentConfig
  executor : ExecutorConfig
  report : ReportConfig
  deriving DecidableEq, Repr, Inhabited

namespace LogFormat

def name : LogFormat → String
  | json => "json"
  | console => "console"

end LogFormat

namespace AgentMode

def name : AgentMode → String
  | .local => "local"
  | .remote => "remote"

end AgentMode

/-! ### Defaults -/

def LogOutput.default : LogOutput := ⟨.console, "stderr", none⟩

def LoggingConfig.default : LoggingConfig := ⟨.info, [.default]⟩

def ServerConfig.default : ServerConfig := ⟨none, none, none, none⟩

def AgentConfig.default : AgentConfig := ⟨.local, none, 8123, none, [], [], false⟩

def ExecutorConfig.default : ExecutorConfig :=
  ⟨"java", "org.junit.platform.console.ImpactedTestsExecutor", [], [], []⟩

/-- What stands for the name of the task in a partition. -/
def ReportConfig.taskMark : String := "\x7btask\x7d"

def ReportConfig.default : ReportConfig :=
  ⟨ReportConfig.taskMark, "tmp/reports/testwise-coverage", "tmp/jacoco", "tmp/jacoco/classes"⟩

def Config.default : Config :=
  ⟨.default, .default, .default, .default, .default⟩

/-! ### What the sections are for -/

/-- The weight below which an output leaves records out. -/
def LoggingConfig.threshold (c : LoggingConfig) (o : LogOutput) : Nat :=
  (o.level.getD c.level).weight

/-- The account of a server section; an absent field is empty. -/
def ServerConfig.identity (c : ServerConfig) : ServerIdentity :=
  ⟨c.url.getD "", c.project.getD "", c.user.getD "", c.accessToken.getD ""⟩

/-- The agent of an agent section. Classes are dumped only if the section asks for it. -/
def AgentConfig.agent (c : AgentConfig) (dumpDir : Path) : Agent :=
  match c.mode with
  | .remote => .running (c.url.getD "")
  | .local =>
    .attached c.jar (.int c.controlPort) c.includes c.excludes
      (if c.dumpClasses then some dumpDir else none)

/-- The partition of a task. -/
def ReportConfig.partitionFor (c : ReportConfig) (task : String) : String :=
  String.ofList
    (Text.replaceAll ReportConfig.taskMark.toList task.toList c.partitionName.toList)

end TestImpact
