/-!
# Tokens of YAML

The tokens that a YAML text is cut into by the scanner of `PyYAML`, version 6.0 or later. Nesting by
indentation shows as explicit starts and ends of blocks.
-/

namespace TestImpact.Yaml

/-- What a directive says. -/
inductive Directive where
  | version (major minor : Nat)
  | tagHandle (handle lead : String)
  | other
  deriving DecidableEq, Repr, Inhabited

inductive Token where
  | streamEnd
  | directive (d : Directive)
  | documentStart
  | documentEnd
  | blockListStart
  | blockMapStart
  | blockEnd
  | flowListStart
  | flowListEnd
  | flowMapStart
  | flowMapEnd
  | flowEntry
  | blockEntry
  | key
  | value
  | alias (name : String)
  | anchor (name : String)
  | tag (handle : Option String) (rest : String)
  | scalar (text : String) (plain : Bool)
  deriving DecidableEq, Repr, Inhabited

end TestImpact.Yaml
