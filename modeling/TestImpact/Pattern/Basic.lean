import TestImpact.Error
import TestImpact.Pattern.Dotted
import TestImpact.Pattern.Regex

/-!
# Class patterns

A class pattern is given as a path glob and used as a dotted glob with the regular expression that
it becomes. Normalizing refuses a glob that is empty or holds brackets, braces or blanks.
-/

namespace TestImpact

/-- A normalized class pattern: the dotted glob, and the regular expression that matches names. -/
structure ClassPattern where
  glob : String
  regex : String
  deriving DecidableEq, Repr, Inhabited

namespace ClassPattern

/-- The expression that matches every name without a line feed. -/
def matchAll : String := ".*"

/-- The regular expression of a dotted glob. -/
def regexOf (glob : List Char) : List Char :=
  Pattern.Regex.write ((Pattern.tokens glob).map Pattern.Token.factor)

/-- The normal form of a class pattern. -/
def normalize (pattern : String) : Except LaunchError ClassPattern :=
  let glob := Pattern.dottedChars pattern.toList
  match Pattern.defect? glob with
  | some defect => .error (.of (.invalidPattern pattern defect.reason))
  | none => .ok ⟨String.ofList glob, String.ofList (regexOf glob)⟩

/-- Normalizes a pattern that is given in normal form; this starts from its glob. -/
def renormalize (p : ClassPattern) : Except LaunchError ClassPattern := normalize p.glob

/-- Whether the regular expression matches a whole class name. -/
def accepts (p : ClassPattern) (name : String) : Bool :=
  match Pattern.Regex.read? p.regex.toList with
  | some regex => Pattern.Regex.accepts regex name.toList
  | none => false

instance : ToString ClassPattern := ⟨regex⟩

end ClassPattern

end TestImpact
