import TestImpact.Config.Basic
import TestImpact.Config.Home
import TestImpact.Config.Library

/-!
# Checking a configuration

An untyped value becomes a configuration section by section, with the checks of the library for the
single values. Absent fields have their defaults and unknown fields are ignored; all issues are
reported, in the order of the fields. So classes of fields are read by `pydantic`, version 2.5 or
later.
-/

namespace TestImpact.Config

variable (lib : Library) (accounts : Accounts)

/-! ### Values -/

def checkOptional {α : Type} (check : Data → Checked α) : Data → Checked (Option α)
  | .null => .ok none
  | value => some <$> check value

/-- One of several values, by its name. -/
def checkChoice {α : Type} (choices : List α) (name : α → String) (value : Data) : Checked α :=
  (lib.word (choices.map name) value).andThen fun s =>
    match choices.find? fun c => name c = s with
    | some c => .ok c
    | none => .refuse (.notChoice (choices.map name)) value

def checkList {α : Type} (check : Data → Checked α) (value : Data) : Checked (List α) :=
  (lib.items value).andThen (.items check 0)

/-- The name of a key in the place of an issue. -/
def keyName : Data → String
  | .text s => s
  | .bool b => if b then "1" else "0"
  | key => key.toNested

/-- A variable; an issue of its name is placed beside it. -/
def checkVariable (entry : Data × Data) : Checked (String × String) :=
  Prod.mk <$> ((lib.text entry.1).within "[key]").within (keyName entry.1)
    <*> (lib.text entry.2).within (keyName entry.1)

def checkVariables : List (Data × Data) → Checked Environment
  | [] => .ok []
  | entry :: entries => List.cons <$> checkVariable lib entry <*> checkVariables entries

def checkEnvironment (value : Data) : Checked Environment :=
  (lib.entries value).andThen fun entries =>
    Environment.overlay [] <$> checkVariables lib entries

/-- The streams that records may go to. -/
def streams : List String := ["stderr", "stdout"]

/-- A stream or a file with an absolute path. A name that no account can have is refused as any
other value; an account without a directory ends the check. -/
def checkDestination (value : Data) : Checked String :=
  (lib.text value).andThen fun s =>
    if streams.contains s then .ok s
    else
      match expandHome accounts (Path.ofText s) with
      | .error .nullByte => .refuse .notName value
      | .error f => .fault f
      | .ok p => if p.isAbsolute then .ok p.toText else .refuse (.notAbsolute s) value

/-! ### Sections -/

/-- A mapping with the fields of a section. -/
def checkSection {α : Type} (name : String) (fields : List (Data × Data) → Checked α)
    (value : Data) : Checked α :=
  (lib.fields name value).andThen fields

def checkLevel : Data → Checked LogLevel := checkChoice lib LogLevel.all LogLevel.name

def checkOutput : Data → Checked LogOutput :=
  checkSection lib "LogOutputConfig" fun entries =>
    LogOutput.mk
      <$> .field entries "format" LogOutput.default.format
        (checkChoice lib [LogFormat.json, LogFormat.console] LogFormat.name)
      <*> .field entries "destination" LogOutput.default.destination (checkDestination lib accounts)
      <*> .field entries "level" LogOutput.default.level (checkOptional (checkLevel lib))

def checkLogging : Data → Checked LoggingConfig :=
  checkSection lib "LoggingConfig" fun entries =>
    LoggingConfig.mk
      <$> .field entries "level" LoggingConfig.default.level (checkLevel lib)
      <*> .field entries "outputs" LoggingConfig.default.outputs
        (checkList lib (checkOutput lib accounts))

def checkServer : Data → Checked ServerConfig :=
  checkSection lib "ServerConfig" fun entries =>
    ServerConfig.mk
      <$> .field entries "url" none (checkOptional lib.text)
      <*> .field entries "project" none (checkOptional lib.text)
      <*> .field entries "user" none (checkOptional lib.text)
      <*> .field entries "access_token" none (checkOptional lib.text)

def checkAgent : Data → Checked AgentConfig :=
  checkSection lib "AgentSettings" fun entries =>
    AgentConfig.mk
      <$> .field entries "mode" AgentConfig.default.mode
        (checkChoice lib [AgentMode.local, AgentMode.remote] AgentMode.name)
      <*> .field entries "url" none (checkOptional lib.text)
      <*> .field entries "port" AgentConfig.default.controlPort lib.int
      <*> .field entries "jar" none (checkOptional lib.path)
      <*> .field entries "includes" [] (checkList lib lib.text)
      <*> .field entries "excludes" [] (checkList lib lib.text)
      <*> .field entries "dump_classes" AgentConfig.default.dumpClasses lib.bool

def checkExecutor : Data → Checked ExecutorConfig :=
  checkSection lib "ExecutorConfig" fun entries =>
    ExecutorConfig.mk
      <$> .field entries "java" ExecutorConfig.default.java lib.text
      <*> .field entries "main_class" ExecutorConfig.default.mainClass lib.text
      <*> .field entries "classpath" [] (checkList lib lib.path)
      <*> .field entries "jvm_args" [] (checkList lib lib.text)
      <*> .field entries "env" [] (checkEnvironment lib)

def checkReport : Data → Checked ReportConfig :=
  checkSection lib "ReportConfig" fun entries =>
    ReportConfig.mk
      <$> .field entries "partition" ReportConfig.default.partitionName lib.text
      <*> .field entries "reports_subdir" ReportConfig.default.reportsSubdir lib.text
      <*> .field entries "artifact_subdir" ReportConfig.default.artifactSubdir lib.text
      <*> .field entries "dump_subdir" ReportConfig.default.dumpSubdir lib.text

/-- The names of the sections, in order. -/
def sectionNames : List String := ["logging", "server", "agent", "executor", "report"]

/-- The five sections of a mapping. -/
def checkSections (entries : List (Data × Data)) : Checked Config :=
  Config.mk
    <$> .field entries "logging" .default (checkLogging lib accounts)
    <*> .field entries "server" .default (checkServer lib)
    <*> .field entries "agent" .default (checkAgent lib)
    <*> .field entries "executor" .default (checkExecutor lib)
    <*> .field entries "report" .default (checkReport lib)

/-- A configuration in which unknown sections are ignored. -/
def check : Data → Checked Config :=
  checkSection lib "TiaLaunchConfig" (checkSections lib accounts)

/-- The issues of entries that name no section. -/
def unknownNames (entries : List (Data × Data)) : List Issue :=
  (entries.filter fun entry => !(sectionNames.map Data.text).any fun name => name.same entry.1).map
    fun entry => ⟨[keyName entry.1], .unknownName, entry.2⟩

/-- A configuration in which unknown sections are refused, after all other issues. -/
def checkStrict (entries : List (Data × Data)) : Checked Config :=
  let extra : Checked Unit :=
    match unknownNames entries with
    | [] => .ok ()
    | issues => .refused issues
  (fun config _ => config) <$> checkSections lib accounts entries <*> extra

end TestImpact.Config
