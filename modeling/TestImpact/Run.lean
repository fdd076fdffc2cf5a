import TestImpact.Config.Basic

/-!
# Runs

A run of one test task: where it builds and works, which units it scans, and what is asked of it.
The places that it writes to depend on the run and the report section alone.
-/

namespace TestImpact

/-- What identifies a run. -/
structure RunContext where
  task : String
  buildDir : Path
  workingDir : Path
  units : List BuildUnit
  deriving DecidableEq, Repr, Inhabited

/-- What is asked of a launch. The time is in seconds. -/
structure LaunchRequest where
  context : RunContext
  window : RevisionWindow
  filter : SelectionFilter
  runAll : Bool
  timeout : Option Data.Number
  deriving Inhabited

namespace ReportConfig

/-- The file that the agent writes coverage to. -/
def artifact (c : ReportConfig) (run : RunContext) : Path :=
  run.buildDir / Path.ofText c.artifactSubdir / Path.ofText (run.task ++ ".exec")

/-- The directory that the executor writes reports to. -/
def reportsDir (c : ReportConfig) (run : RunContext) : Path :=
  run.buildDir / Path.ofText c.reportsSubdir / Path.ofText run.task

/-- The directory that the agent dumps classes to. -/
def dumpDir (c : ReportConfig) (run : RunContext) : Path :=
  run.buildDir / Path.ofText c.dumpSubdir / Path.ofText run.task

end ReportConfig

end TestImpact
