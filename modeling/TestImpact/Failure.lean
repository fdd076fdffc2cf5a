import TestImpact.Config.Issue
import TestImpact.Data.Written

/-!
# Failures

The ways in which an operation ends without a value: a launch error, refused values, or a fault.
-/

namespace TestImpact

inductive Failure where
  | error (e : LaunchError)
  | refused (issues : List Issue)
  | fault (f : Fault)
  deriving Inhabited

/-- The value of an operation, or why there is none. -/
abbrev Attempt (α : Type) := Except Failure α

namespace Failure

def ofError {α : Type} (x : Except LaunchError α) : Attempt α := x.mapError error

def ofFault {α : Type} (x : Except Fault α) : Attempt α := x.mapError fault

/-- The checked value, or all issues. -/
def ofChecked {α : Type} : Checked α → Attempt α
  | .ok value => .ok value
  | .refused issues => .error (refused issues)
  | .fault f => .error (fault f)

/-- The failure about a value of a field. The error tells the text of the value; where the value has
none, there is no error about the field either. -/
def invalidValue (limit : Number.DigitLimit) (field : String) (value : Data) (reason : String) :
    Failure :=
  if value.isWritten limit then error (.of (.invalidValue field value.toText reason))
  else fault (.badValue limit.writingComplaint)

/-- A failure in one text. -/
def summary : Failure → String
  | error e => e.toText
  | refused issues => Text.joinText "; " (issues.map fun i => i.placeText ++ ": " ++ i.kind.message)
  | fault f => f.message

end Failure

end TestImpact
