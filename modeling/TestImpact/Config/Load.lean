import TestImpact.Config.Check
import TestImpact.Config.Dump
import TestImpact.Config.EnvironmentLayer
import TestImpact.Failure
import TestImpact.Files.Operations
import TestImpact.Yaml.Value

/-!
# Loading a configuration

A configuration is layered: overrides by the caller, then the environment, then the file of the
repository or one that is named, then the file of the user, then the defaults. Layers are merged
field by field, and the first layer in this order that has a field decides it. How the layers of a
settings class are merged, and that unknown names are refused, are rules of `pydantic-settings`,
version 2.1 or later. Values may be nested to any depth: that an interpreter gives up where its
stack ends is left out.
-/

namespace TestImpact.Config

/-- Where settings are looked for. -/
structure Sources where
  userFile : Path
  repository : Path
  /-- A file that is read in place of the one in the repository. -/
  namedFile : Option Path
  overrides : List (Data × Data)
  deriving Inhabited

/-- What settings are read with: the library that checks them, the accounts of the system, and how
long integers may be. -/
structure Reader where
  library : Library
  accounts : Accounts
  digitLimit : Number.DigitLimit

/-- The file of a repository. -/
def repositoryFile : Path := Path.ofText ".tialaunch/config.yaml"

/-- The file of a user, from the home directory. -/
def userFileName : Path := Path.ofText ".config/tialaunch/config.yaml"

/-! ### Files -/

/-- Line ends of all conventions as line feeds. -/
def lineFeeds : List Char → List Char
  | '\r' :: '\n' :: r => '\n' :: lineFeeds r
  | '\r' :: r => '\n' :: lineFeeds r
  | c :: r => c :: lineFeeds r
  | [] => []

/-- The text of a file. The bytes of a character that the end of the file cuts off are read on their
own, so that their places count from there. -/
def fileText (bytes : List UInt8) : Except Fault String :=
  match Text.decode bytes with
  | .ok s => .ok (String.ofList (lineFeeds s.toList))
  | .error d =>
    let shown := if d.isCut then { d with first := 0, last := d.last - d.first } else d
    .error (.undecodable shown.message)

/-- The reason that is given for a file that is no YAML. -/
def malformedReason : String := "malformed YAML"

/-- The reason that is given for a file with another value than a mapping. -/
def notMappingReason : String := "top level must be a mapping"

/-- The settings in a file; a file that is not there has none. -/
def readLayer (limit : Number.DigitLimit) (files : Files) (cwd : Location) (p : Path) :
    Attempt (List (Data × Data)) := do
  let there ← Failure.ofFault (files.exists? cwd p)
  if !there then .ok []
  else
    let bytes ← Failure.ofFault (files.read cwd p)
    let text ← Failure.ofFault (fileText bytes)
    match Yaml.load limit text with
    | .error .malformed => .error (.error (.of (.unreadable p.toText malformedReason)))
    | .error (.fault f) => .error (.fault f)
    | .ok value =>
      if value.isEmpty then .ok []
      else
        match value.untie with
        | .map entries => .ok entries
        | _ => .error (.error (.of (.unreadable p.toText notMappingReason)))

/-- The file above that of the user: the one that is named, which has to be there, or else that of
the repository. -/
def upperFile (files : Files) (cwd : Location) (sources : Sources) : Attempt Path :=
  match sources.namedFile with
  | none => .ok (sources.repository / repositoryFile)
  | some p => do
    let there ← Failure.ofFault (files.exists? cwd p)
    if there then .ok p else .error (.error (.of (.fileNotFound p.toText)))

/-- The settings of the user with those of the upper file on top. -/
def fileLayer (limit : Number.DigitLimit) (files : Files) (cwd : Location) (sources : Sources) :
    Attempt (List (Data × Data)) := do
  let file ← upperFile files cwd sources
  let user ← readLayer limit files cwd sources.userFile
  let repository ← readLayer limit files cwd file
  Failure.ofFault (Data.mergeEntries user repository)

/-! ### Layers -/

/-- Whether a key is a name, up to case. -/
def isNamed (name : String) : Data → Bool
  | .text s => Text.lower s = name
  | _ => false

/-- Overrides under the names of the sections, in the order of the sections. Names that differ in
case alone are the same, and the first one counts. -/
def overrideLayer (overrides : List (Data × Data)) : List (Data × Data) :=
  let known := sectionNames.filterMap fun name =>
    (overrides.find? fun (key, _) => isNamed name key).map fun (_, value) => (Data.text name, value)
  known ++ overrides.filter fun (key, _) => !sectionNames.any fun name => isNamed name key

/-- All layers in one, the first one on top. -/
def layered (overrides environment files : List (Data × Data)) :
    Except Fault (List (Data × Data)) := do
  let upper ← Data.mergeEntries environment overrides
  Data.mergeEntries files upper

/-- What a layer answers about one field: its value, its name, and whether it is there. A null
counts as a field that is not there. -/
def layerField (layer : List (Data × Data)) (name : String) : Data × String × Bool :=
  match Data.field? name layer with
  | none | some .null => (.null, name, false)
  | some value => (value, name, true)

def isText : Data → Bool
  | .text _ => true
  | _ => false

/-- The error of a check: its first issue. -/
def firstIssue {α : Type} (limit : Number.DigitLimit) : Checked α → Attempt α
  | .ok value => .ok value
  | .fault f => .error (.fault f)
  | .refused [] => .error (.refused [])
  | .refused (issue :: _) =>
    .error (.invalidValue limit issue.placeText issue.value issue.kind.message)

/-- The configuration that settings describe; their names have to be texts. -/
def judge (reader : Reader) (home : Option String) (entries : List (Data × Data)) :
    Attempt Config := do
  let accounts := reader.accounts.withHome home
  if !entries.all fun (key, _) => isText key then .error (.fault .nameNotText)
  else
    let config ← firstIssue reader.digitLimit (checkStrict reader.library accounts entries)
    Failure.ofChecked (check reader.library accounts (reader.library.dump config))

/-- The configuration that all sources make together. -/
def load (reader : Reader) (files : Files) (cwd : Location) (env : Environment)
    (sources : Sources) : Attempt Config := do
  let fromFiles ← fileLayer reader.digitLimit files cwd sources
  let fromEnvironment ← Failure.ofFault (environmentLayer reader.digitLimit env)
  let entries ←
    Failure.ofFault (layered (overrideLayer sources.overrides) fromEnvironment fromFiles)
  judge reader (env.get? "HOME") entries

end TestImpact.Config
