import TestImpact.Config.Merge
import TestImpact.Environment
import TestImpact.Fault
import TestImpact.Json.Reader
import TestImpact.Text.Case

/-!
# Settings in the environment

Variables whose names start with `TIALAUNCH__` hold settings: a section as JSON, or one field with
the way to it written between double underscores. Names are read in lower case. Lists and mappings
are JSON, all other fields are texts; a variable of a field counts more than that of its section.
These are the rules of the source of environment variables of `pydantic-settings`, version 2.1 or
later.
-/

namespace TestImpact.Config

/-- What a field holds. -/
inductive Shape where
  | single
  | fields (fields : List (String × Shape))
  | list (item : Shape)
  | mapping
  deriving Inhabited

namespace Shape

/-- The shape of the field of a name, also of the items of a list. -/
def field? (name : String) : Shape → Option Shape
  | fields fs => fs.lookup name
  | list item => field? name item
  | _ => none

/-- Whether values are written as JSON. -/
def isJson : Shape → Bool
  | single => false
  | _ => true

end Shape

def singles (names : List String) : List (String × Shape) := names.map fun name => (name, .single)

/-- The sections with their fields. -/
def sections : List (String × Shape) :=
  [("logging", .fields [("level", .single),
     ("outputs", .list (.fields (singles ["format", "destination", "level"])))]),
   ("server", .fields (singles ["url", "project", "user", "access_token"])),
   ("agent", .fields (singles ["mode", "url", "port", "jar"] ++
     [("includes", .list .single), ("excludes", .list .single), ("dump_classes", .single)])),
   ("executor", .fields (singles ["java", "main_class"] ++
     [("classpath", .list .single), ("jvm_args", .list .single), ("env", .mapping)])),
   ("report", .fields (singles ["partition", "reports_subdir", "artifact_subdir", "dump_subdir"]))]

/-- What the names of variables start with, in lower case. -/
def variableLead : String := "tialaunch__"

/-- The parts of a name between double underscores. -/
def nameParts : List Char → List (List Char)
  | [] => [[]]
  | '_' :: '_' :: r => [] :: nameParts r
  | c :: r =>
    match nameParts r with
    | part :: parts => (c :: part) :: parts
    | [] => [[c]]

/-- Variables with their names in lower case. -/
def lowerNames (env : Environment) : Environment :=
  Environment.overlay [] (env.map fun (name, value) => (Text.lower name, value))

/-- The shape that a way of names leads to. -/
def shapeAt (shape : Option Shape) (way : List String) : Option Shape :=
  way.foldl (fun shape name => shape.bind (Shape.field? name)) shape

/-- Sets a value at the end of a way. A value in the way that is no mapping stays. -/
def setAt (name : String) (value : Data) : List String → List (Data × Data) → List (Data × Data)
  | [], entries => Data.put (.text name) value entries
  | step :: way, entries =>
    match Data.field? step entries with
    | none => Data.put (.text step) (.map (setAt name value way [])) entries
    | some (.map inner) => Data.put (.text step) (.map (setAt name value way inner)) entries
    | some _ => entries

/-- The value of a variable: JSON where the field asks for it, unless it is empty. -/
def variableValue (limit : Number.DigitLimit) (shape : Option Shape) (s : String) : Option Data :=
  if shape.any Shape.isJson && s ≠ "" then Json.read? limit s else some (.text s)

/-- The fields of a section that variables set one by one; `none` if one cannot be read. -/
def fieldVariables (limit : Number.DigitLimit) (lead : String) (shape : Shape) :
    Environment → List (Data × Data) → Option (List (Data × Data))
  | [], entries => some entries
  | (variableName, value) :: env, entries =>
    match Text.dropLead? lead.toList variableName.toList with
    | none => fieldVariables limit lead shape env entries
    | some rest => do
      let parts := (nameParts rest).map String.ofList
      let way := parts.dropLast
      let name := parts.getLastD ""
      let value ← variableValue limit (shapeAt (some shape) parts) value
      fieldVariables limit lead shape env (setAt name value way entries)

/-- Entries under the names of fields, where names that differ in case alone are the same. -/
def renameFields (shape : Shape) (entries : List (Data × Data)) : List (Data × Data) :=
  let names : List String :=
    match shape with
    | .fields fs => fs.map (·.1)
    | _ => []
  Data.ofEntries (entries.map fun (key, value) =>
    match key with
    | .text name => (.text ((names.find? (· = Text.lower name)).getD name), value)
    | key => (key, value))

/-- The value of a section in the environment, if it is set there; an error if it cannot be read. -/
def sectionVariables (limit : Number.DigitLimit) (env : Environment) (name : String)
    (shape : Shape) : Except Fault (Option Data) :=
  let variableName := variableLead ++ name
  let bad : Except Fault (Option Data) := .error (.badSetting name)
  match env.get? variableName with
  | none =>
    match fieldVariables limit (variableName ++ "__") shape env [] with
    | none => bad
    | some [] => .ok none
    | some entries => .ok (some (.map (renameFields shape entries)))
  | some s =>
    match Json.read? limit s with
    | none => bad
    | some .null => .ok none
    | some (.map entries) =>
      match fieldVariables limit (variableName ++ "__") shape env [] with
      | none => bad
      | some upper => do
        let merged ← Data.mergeEntries entries upper
        .ok (some (.map (renameFields shape merged)))
    | some value => .ok (some value)

/-- The layer of settings that the environment holds. -/
def environmentLayer (limit : Number.DigitLimit) (env : Environment) :
    Except Fault (List (Data × Data)) := do
  let env := lowerNames env
  let values ← sections.mapM fun (name, shape) => do
    let value ← sectionVariables limit env name shape
    .ok (value.map fun v => (Data.text name, v))
  .ok (values.filterMap id)

end TestImpact.Config
