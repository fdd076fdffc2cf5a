import TestImpact.Pattern.Basic
import TestImpact.Revision
import TestImpact.ScanPath

/-!
# Arguments of the executor

The argument vector that tells the executor which server to ask, which changes to look at, which
tests to consider and where to write. Flags and their order are fixed. `mask` hides the secret when
arguments are shown.
-/

namespace TestImpact

/-- The account at the analysis server. -/
structure ServerIdentity where
  url : String
  project : String
  user : String
  accessToken : String
  deriving DecidableEq, Inhabited

/-- The account as it is shown: without the token. -/
def ServerIdentity.describe (i : ServerIdentity) : String :=
  s!"ServerIdentity(url={Text.quoted i.url}, project={Text.quoted i.project}, " ++
    s!"user={Text.quoted i.user})"

/-- Which tests to consider: all that an include selects, if there is one, less the excluded. -/
structure SelectionFilter where
  includeTags : List String
  excludeTags : List String
  includeEngines : List String
  excludeEngines : List String
  includeClasses : List String
  excludeClasses : List String
  deriving DecidableEq, Repr, Inhabited

/-- What an argument vector is made from. -/
structure Selection where
  identity : ServerIdentity
  window : RevisionWindow
  filter : SelectionFilter
  reportsDir : Path
  scanPaths : List String
  runAll : Bool
  agentUrl : String
  partitionName : String
  deriving Inhabited

namespace Arguments

/-- The value of a field that has to be given. -/
def require (field value : String) : Except LaunchError String :=
  if value = "" then .error (.of (.missing field)) else .ok value

def requirePoint (field : String) (point : Option RevisionPoint) : Except LaunchError String :=
  match point with
  | some p => if p.isEmpty then .error (.of (.missing field)) else .ok p.toText
  | none => .error (.of (.missing field))

/-- A flag before every value. -/
def flagged (flag : String) (values : List String) : List String :=
  values.flatMap fun value => [flag, value]

/-- The regular expressions of class patterns. -/
def regexes : List String → Except LaunchError (List String)
  | [] => .ok []
  | pattern :: patterns => do
    let first ← ClassPattern.normalize pattern
    let rest ← regexes patterns
    .ok (first.regex :: rest)

/-- The flags of a filter. Without class patterns every class is included. -/
def filterArguments (f : SelectionFilter) : Except LaunchError (List String) := do
  let includes ← regexes f.includeClasses
  let excludes ← regexes f.excludeClasses
  .ok (flagged "-t" f.includeTags ++ flagged "-T" f.excludeTags ++
    flagged "-e" f.includeEngines ++ flagged "-E" f.excludeEngines ++
    flagged "-n" (if f.includeClasses.isEmpty then [ClassPattern.matchAll] else includes) ++
    flagged "-N" excludes)

/-- The argument vector of a selection. -/
def build (cwd : Path) (s : Selection) : Except LaunchError (List String) := do
  let url ← require "server.url" s.identity.url
  let project ← require "server.project" s.identity.project
  let user ← require "server.user" s.identity.user
  let accessToken ← require "server.access_token" s.identity.accessToken
  let partitionName ← require "report.partition" s.partitionName
  let baseline ← requirePoint "window.baseline" s.window.baseline
  let fin ← requirePoint "window.end" s.window.fin
  let agentUrl ← require "agent.url" s.agentUrl
  let filter ← filterArguments s.filter
  .ok (["--url", url, "--project", project, "--user", user, "--access-token", accessToken,
      "--partition", partitionName, "--baseline", baseline, "--end", fin,
      "--agent-url", agentUrl] ++
    (if s.runAll then ["--all"] else []) ++ filter ++
    ["--reports-dir", (s.reportsDir.absolute cwd).toText,
     "--scan-class-path", ScanPath.join s.scanPaths])

/-- The flags whose values are secret. -/
def secretFlags : List String := ["--access-token"]

/-- What is shown instead of a secret. -/
def hidden : String := "****"

/-- Arguments with every one after a secret flag hidden, where `previous` is the argument before. An
argument that is hidden and is a secret flag itself hides the next one too. -/
def maskAfter (previous : String) : List String → List String
  | [] => []
  | arg :: rest =>
    let shown := if secretFlags.contains previous then hidden else arg
    shown :: maskAfter arg rest

/-- Arguments as they are shown. -/
def mask : List String → List String
  | [] => []
  | arg :: rest => arg :: maskAfter arg rest

example : mask ["--access-token", "--access-token", "x"] = ["--access-token", "****", "****"] := by
  decide +kernel

end Arguments

end TestImpact
