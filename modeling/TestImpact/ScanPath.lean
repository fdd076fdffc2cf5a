import TestImpact.Path

/-!
# Scan paths

The directories of compiled classes that the executor scans, collected from the build units and
joined into one argument. Both keep the first occurrence of each entry.
-/

namespace TestImpact

/-- The compiled outputs of one part of a build. -/
structure BuildUnit where
  name : String
  classDirs : List Path
  resourceDir : Option Path
  extraDirs : List Path
  deriving DecidableEq, Repr, Inhabited

namespace ScanPath

/-- The entries in order, each at its first occurrence; `seen` entries are left out. -/
def firsts {α : Type} [DecidableEq α] (seen : List α) : List α → List α
  | [] => []
  | x :: rest => if x ∈ seen then firsts seen rest else x :: firsts (x :: seen) rest

/-- The directories of a unit: classes, then resources, then extras. -/
def candidates (u : BuildUnit) : List Path :=
  u.classDirs ++ u.resourceDir.toList ++ u.extraDirs

/-- The directories of all units, each once. -/
def collect (units : List BuildUnit) : List Path := firsts [] (units.flatMap candidates)

/-- Entries in one argument, each non-empty text once. -/
def join (texts : List String) : String :=
  Path.joinList (firsts [] (texts.filter (· ≠ "")))

end ScanPath

end TestImpact
