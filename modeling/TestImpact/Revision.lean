import TestImpact.Data.Basic

/-!
# Revisions

A point of the history is a revision or a branch with a time. The changes between two points are
what tests are selected for.
-/

namespace TestImpact

/-- A point of the history. A revision, if there is one, stands for the point. -/
structure RevisionPoint where
  revision : Option String
  branch : Option String
  timestamp : Option String
  deriving DecidableEq, Repr, Inhabited

namespace RevisionPoint

/-- A text is kept as it is. -/
def ofText (s : String) : RevisionPoint := ⟨some s, none, none⟩

/-- The point of a branch at a time, given as any value. A branch that is not known stays absent. -/
def onBranch (branch : Option String) (time : Data) : RevisionPoint :=
  ⟨none, branch, some time.toText⟩

/-- The text that the executor receives. -/
def toText (p : RevisionPoint) : String :=
  match p.revision with
  | some s => s
  | none => (Data.ofOption p.branch).toText ++ ":" ++ (Data.ofOption p.timestamp).toText

/-- Whether a text is there and holds something. -/
def isGiven (s : Option String) : Bool :=
  match s with
  | none => false
  | some s => s ≠ ""

/-- Whether the point says nothing. -/
def isEmpty (p : RevisionPoint) : Bool :=
  match p.revision with
  | some s => s = ""
  | none => !isGiven p.branch || !isGiven p.timestamp

/-- The text of a point that may be absent. -/
def describe (p : Option RevisionPoint) : String :=
  match p with
  | some p => p.toText
  | none => Data.null.toText

end RevisionPoint

/-- The change window: changes after the baseline up to the end. -/
structure RevisionWindow where
  baseline : Option RevisionPoint
  fin : Option RevisionPoint
  deriving DecidableEq, Repr, Inhabited

end TestImpact
