import TestImpact.CommandLine.Option

/-!
# The commands

The `tia` command with its two commands: `run` launches the executor and `args` shows how it would
be called. Both take the same options for a launch.
-/

namespace TestImpact.CommandLine

def version : String := "0.1.0"

/-- The message that tells the version. -/
def versionLine : String := s!"tia, version {version}\n"

namespace OptionSpec

def showHelp : OptionSpec :=
  { names := ["--help"], kind := .help, help := "Show this message and exit." }

def showVersion : OptionSpec :=
  { names := ["--version"], kind := .version, help := "Show the version and exit." }

def verbose : OptionSpec :=
  { names := ["-v", "--verbose"], kind := .switch, help := "Enable debug logging" }

def baseline : OptionSpec :=
  { names := ["--baseline"], kind := .text, required := true,
    help := "Baseline revision (changes after it are considered)" }

def endRevision : OptionSpec :=
  { names := ["--end"], kind := .text, required := true, help := "End revision (inclusive)" }

def task : OptionSpec :=
  { names := ["--task"], kind := .text, standard := some "test", help := "Name of the test task" }

def buildDir : OptionSpec :=
  { names := ["--build-dir"], kind := .path false true, standard := some "build" }

def workingDir : OptionSpec :=
  { names := ["--working-dir"], kind := .path false true,
    help := "Working directory of the test task (default: current directory)" }

def classesDir : OptionSpec :=
  { names := ["--classes-dir"], kind := .path true true, repeated := true }

def resourcesDir : OptionSpec :=
  { names := ["--resources-dir"], kind := .path true true, repeated := true }

def includeTag : OptionSpec := { names := ["--include-tag"], kind := .text, repeated := true }

def excludeTag : OptionSpec := { names := ["--exclude-tag"], kind := .text, repeated := true }

def includeEngine : OptionSpec := { names := ["--include-engine"], kind := .text, repeated := true }

def excludeEngine : OptionSpec := { names := ["--exclude-engine"], kind := .text, repeated := true }

def includeClass : OptionSpec :=
  { names := ["--include"], kind := .text, repeated := true,
    help := "Class glob, e.g. com/foo/**/*Test.class" }

def excludeClass : OptionSpec :=
  { names := ["--exclude"], kind := .text, repeated := true, help := "Class glob to exclude" }

def runAllTests : OptionSpec :=
  { names := ["--run-all-tests"], kind := .switch,
    help := "Run all tests, still collecting testwise coverage" }

def configFile : OptionSpec :=
  { names := ["--config"], kind := .path true false,
    help := "Config file (default: .tialaunch/config.yaml)" }

def timeout : OptionSpec :=
  { names := ["--timeout"], kind := .number, help := "Kill the executor after this many seconds" }

def json : OptionSpec := { names := ["--json"], kind := .switch, help := "Output as JSON" }

/-- The options that both commands take. -/
def ofLaunch : List OptionSpec :=
  [baseline, endRevision, task, buildDir, workingDir, classesDir, resourcesDir, includeTag,
    excludeTag, includeEngine, excludeEngine, includeClass, excludeClass, runAllTests, configFile]

end OptionSpec

/-- What is done for a launch request: it is run, or its arguments are shown. -/
inductive Command where
  | args
  | run
  deriving DecidableEq, Repr, Inhabited

namespace Command

/-- All commands, in the order of their names. -/
def all : List Command := [args, run]

def name : Command → String
  | args => "args"
  | run => "run"

def spec : Command → CommandSpec
  | args =>
    { call := "tia args", arguments := "[OPTIONS]"
      summary := ["Print the executor command without running it. Secrets are masked."]
      options := OptionSpec.ofLaunch ++ [.json, .showHelp] }
  | run =>
    { call := "tia run", arguments := "[OPTIONS]"
      summary := ["Run the impacted tests and record testwise coverage.",
        "Exits with the executor's exit code."]
      options := OptionSpec.ofLaunch ++ [.timeout, .showHelp] }

/-- The command of a name. -/
def ofName? (name : String) : Option Command := all.find? (·.name = name)

end Command

/-- The command that holds the other ones. -/
def groupSpec : CommandSpec :=
  { call := "tia", arguments := "[OPTIONS] COMMAND [ARGS]..."
    summary := ["tialaunch - run impacted tests with testwise coverage."]
    options := [.showVersion, .verbose, .showHelp] }

end TestImpact.CommandLine
