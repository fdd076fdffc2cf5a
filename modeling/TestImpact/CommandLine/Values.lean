import TestImpact.CommandLine.Commands
import TestImpact.CommandLine.Words
import TestImpact.Files.Operations
import TestImpact.Number.Loose
import TestImpact.Run

/-!
# The values of options

Options are taken in order, and the first that is missing, that has a bad value, or that acts at
once ends the command (`click`, version 8.1 or later). The options of a launch make a request.
-/

namespace TestImpact.CommandLine

/-- What ends a command before it has done its work. -/
inductive Stop where
  | problem (p : Problem)
  | fault (f : Fault)
  | help
  | version
  deriving Inhabited

/-- Whether there is a file or directory at a path where it must not be. A path that leads nowhere
is fine. -/
def checkPath (files : Files) (cwd : Location) (filesAllowed directoriesAllowed : Bool)
    (option value : String) : Except Stop Unit :=
  if Files.hasNull value then .error (.fault .nullByte)
  else
    match files.locateText cwd true value with
    | .ok ⟨_, some (.file ..)⟩ =>
      if filesAllowed then .ok () else .error (.problem (.isFile option value))
    | .ok ⟨_, some .dir⟩ =>
      if directoriesAllowed then .ok () else .error (.problem (.isDirectory option value))
    | _ => .ok ()

/-- Checks a value of an option. -/
def checkValue (files : Files) (cwd : Location) (o : OptionSpec) (value : String) :
    Except Stop Unit :=
  match o.kind with
  | .number =>
    if (Number.looseFloat? value.toList).isSome then .ok ()
    else .error (.problem (.badNumber o.name value))
  | .path filesAllowed directoriesAllowed =>
    checkPath files cwd filesAllowed directoriesAllowed o.name value
  | _ => .ok ()

/-- The values that count: all values of an option that can be repeated, and the last one of any
other. -/
def OptionSpec.effective (o : OptionSpec) (values : List String) : List String :=
  if o.repeated then values
  else
    match values.getLast? with
    | some value => [value]
    | none => o.standard.toList

/-- Takes one option. -/
def checkOption (files : Files) (cwd : Location) (words : ReadWords) (o : OptionSpec) :
    Except Stop Unit :=
  let given := words.values o.name
  match o.kind with
  | .help => if given.isEmpty then .ok () else .error .help
  | .version => if given.isEmpty then .ok () else .error .version
  | _ =>
    let values := o.effective given
    if o.required && values.isEmpty then .error (.problem (.missingOption o.name))
    else values.forM (checkValue files cwd o)

/-- Takes all options of a command; then no other words may be left. -/
def checkWords (files : Files) (cwd : Location) (c : CommandSpec) (words : ReadWords) :
    Except Stop Unit :=
  (words.order c).forM (checkOption files cwd words)

/-- What the options say about a launch. -/
structure LaunchOptions where
  baseline : String
  endRevision : String
  task : String
  buildDir : Path
  workingDir : Option Path
  classesDirs : List Path
  resourcesDirs : List Path
  filter : SelectionFilter
  runAll : Bool
  configFile : Option Path
  timeout : Option Data.Number
  asJson : Bool
  deriving Inhabited

namespace LaunchOptions

/-- The options of a launch in words that were checked. -/
def ofWords (words : ReadWords) : LaunchOptions :=
  let values (o : OptionSpec) : List String := o.effective (words.values o.name)
  let text (o : OptionSpec) : String := (values o).headD ""
  let isSet (o : OptionSpec) : Bool := !(words.values o.name).isEmpty
  let path? (o : OptionSpec) : Option Path := (values o).head?.map Path.ofText
  { baseline := text .baseline
    endRevision := text .endRevision
    task := text .task
    buildDir := Path.ofText (text .buildDir)
    workingDir := path? .workingDir
    classesDirs := (values .classesDir).map Path.ofText
    resourcesDirs := (values .resourcesDir).map Path.ofText
    filter := ⟨values .includeTag, values .excludeTag, values .includeEngine, values .excludeEngine,
      values .includeClass, values .excludeClass⟩
    runAll := isSet .runAllTests
    configFile := path? .configFile
    timeout := (values .timeout).head?.bind fun s =>
      (Number.looseFloat? s.toList).map Data.Number.float
    asJson := isSet .json }

/-- The units to scan: one with all class directories, and one for each resource directory. -/
def units (o : LaunchOptions) : List BuildUnit :=
  ⟨"main", o.classesDirs, none, []⟩ ::
    o.resourcesDirs.mapIdx fun i dir => ⟨s!"resources-{i}", [], some dir, []⟩

/-- The request for a launch. The working directory and the build directory are resolved, in this
order. -/
def request (o : LaunchOptions) (files : Files) (directory : Path) :
    Except Fault LaunchRequest := do
  let cwd := directory.segments.reverse
  let workingDir ← files.resolve cwd (o.workingDir.getD directory)
  let buildDir ← files.resolve cwd o.buildDir
  .ok {
    context := ⟨o.task, buildDir, workingDir, o.units⟩
    window := ⟨some (.ofText o.baseline), some (.ofText o.endRevision)⟩
    filter := o.filter
    runAll := o.runAll
    timeout := o.timeout
  }

end LaunchOptions

end TestImpact.CommandLine
