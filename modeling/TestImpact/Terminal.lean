/-!
# Standard streams

What a command writes for its user: one stream for its output and one for errors and logs.
-/

namespace TestImpact

inductive StandardStream where
  | output
  | errors
  deriving DecidableEq, Repr, Inhabited

/-- What was written to the standard streams. -/
structure Terminal where
  output : String
  errors : String
  deriving DecidableEq, Repr, Inhabited

namespace Terminal

def empty : Terminal := ⟨"", ""⟩

def write (t : Terminal) (stream : StandardStream) (s : String) : Terminal :=
  match stream with
  | .output => { t with output := t.output ++ s }
  | .errors => { t with errors := t.errors ++ s }

end Terminal

end TestImpact
