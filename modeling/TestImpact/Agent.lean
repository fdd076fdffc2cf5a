import TestImpact.Failure

/-!
# The coverage agent

A coverage agent is attached to the executor by a directive, one option of the form
`-javaagent:<jar>=<key>=<value>,…`, or it runs elsewhere already. `directive` writes the directive
of an agent and `checkDirective` is the check that stands before every launch.
-/

namespace TestImpact

/-- A coverage agent. -/
inductive Agent where
  /-- Attached to the executor; the control port is checked when the directive is built. -/
  | attached (jar : Option Path) (controlPort : Data) (includes excludes : List String)
      (dumpDir : Option Path)
  /-- Running already, at a URL. -/
  | running (url : String)
  deriving Inhabited

namespace Agent

/-- Where the executor reaches the agent. -/
def controlUrl : Agent → String
  | attached _ controlPort .. => "http://localhost:" ++ controlPort.toText
  | running url => url

/-- Accepts a control port: an integer from 1 to 65535. -/
def checkControlPort (limit : Number.DigitLimit) : Data → Attempt Int
  | .null => .error (.error (.of (.missing "agent.port")))
  | .int n =>
    if 1 ≤ n ∧ n ≤ 65535 then .ok n
    else .error (.invalidValue limit "agent.port" (.int n) "must be 1-65535")
  | value => .error (.invalidValue limit "agent.port" value "must be an integer")

/-- What a directive starts with. -/
def directiveLead : String := "-javaagent:"

/-- The keys of the options, in the order in which they are written. -/
def optionKeys : List String :=
  ["destfile", "includes", "excludes", "classdumpdir", "http-server-port"]

/-- The options that a directive of an attached agent has: those whose value is not empty. -/
def options (cwd workingDir artifact : Path) (controlPort : Int) (includes excludes : List String)
    (dumpDir : Option Path) : List (String × String) :=
  [("destfile", artifact.relativeTo cwd workingDir),
   ("includes", Path.joinList includes),
   ("excludes", Path.joinList excludes),
   ("classdumpdir", (dumpDir.map (·.relativeTo cwd workingDir)).getD ""),
   ("http-server-port", toString controlPort)].filter fun option => option.2 ≠ ""

def renderOptions (options : List (String × String)) : String :=
  Text.joinText "," (options.map fun (key, value) => key ++ "=" ++ value)

/-- The paths that the directive of an agent tells about. -/
def paths (workingDir artifact : Path) : Agent → List Path
  | running _ => []
  | attached jar _ _ _ dumpDir => [workingDir, artifact] ++ jar.toList ++ dumpDir.toList

/-- The directive that attaches an agent, with paths relative to the working directory; an agent
that is running already has none. -/
def directive (limit : Number.DigitLimit) (cwd workingDir artifact : Path) :
    Agent → Attempt (Option String)
  | running _ => .ok none
  | attached jar controlPort includes excludes dumpDir => do
    let controlPort ← checkControlPort limit controlPort
    match jar with
    | none => .error (.error (.of (.missing "agent.jar")))
    | some jar =>
      let options := options cwd workingDir artifact controlPort includes excludes dumpDir
      .ok (some (directiveLead ++ jar.relativeTo cwd workingDir ++ "=" ++ renderOptions options))

/-- The directive for what stands for an agent; a value that is no agent is refused. -/
def directiveOf (limit : Number.DigitLimit) (cwd workingDir artifact : Path) :
    Agent ⊕ Data → Attempt (Option String)
  | .inl agent => agent.directive limit cwd workingDir artifact
  | .inr value => .error (.invalidValue limit "agent" value "unknown agent variant")

/-- A key of the list with a value that is not empty. -/
def isOption (s : List Char) : Bool :=
  match Text.cut? '=' s with
  | some (key, value) => optionKeys.contains (String.ofList key) && !value.isEmpty
  | none => false

def isDirective (s : List Char) : Bool :=
  match (Text.dropLead? directiveLead.toList s).bind (Text.cut? '=') with
  | some (jar, options) => !jar.isEmpty && (Text.splitOn ',' options).all isOption
  | none => false

/-- Refuses a directive that the executor or the agent could not read. -/
def checkDirective (directive : String) : Except LaunchError Unit :=
  if isDirective directive.toList then .ok ()
  else .error (.of (.malformedDirective directive))

end Agent

end TestImpact
