import TestImpact.Text.Split

/-!
# Paths

A path is an anchor and a list of segments. Reading a path drops empty segments and dots and keeps
double dots; a path that starts with exactly two slashes keeps both. `normal` resolves double dots
without looking at files, and `relativeTo` leads from one directory to a path.
-/

namespace TestImpact

/-- Where a path starts. -/
inductive Anchor where
  | relative
  | root
  | doubleRoot
  deriving DecidableEq, Repr, Inhabited

/-- A segment of a path is not empty, is no dot and holds no slash. -/
def IsSegment (s : String) : Prop := s ≠ "" ∧ s ≠ "." ∧ '/' ∉ s.toList

instance (s : String) : Decidable (IsSegment s) := inferInstanceAs (Decidable (_ ∧ _ ∧ _))

/-- A path whose segments are in order from its anchor. -/
structure Path where
  anchor : Anchor
  segments : List String
  valid : ∀ s ∈ segments, IsSegment s
  deriving DecidableEq

namespace Path

def Anchor.toText : Anchor → String
  | .relative => ""
  | .root => "/"
  | .doubleRoot => "//"

/-- The relative path without segments. -/
def here : Path := ⟨.relative, [], by simp⟩

instance : Inhabited Path := ⟨here⟩

/-- The pieces of a text between slashes. -/
def pieces (s : String) : List String := (Text.splitOn '/' s.toList).map String.ofList

/-- The pieces that are segments. -/
def segmentsOf (s : String) : List String := (pieces s).filter fun piece => IsSegment piece

def anchorOf : List Char → Anchor
  | ['/', '/'] => .doubleRoot
  | '/' :: '/' :: c :: _ => if c = '/' then .root else .doubleRoot
  | '/' :: _ => .root
  | _ => .relative

/-- The path that a text writes. -/
def ofText (s : String) : Path :=
  ⟨anchorOf s.toList, segmentsOf s, fun piece h => by simpa using (List.mem_filter.1 h).2⟩

instance : Coe String Path := ⟨ofText⟩

def toText (p : Path) : String :=
  if p.anchor = .relative ∧ p.segments = [] then "."
  else Anchor.toText p.anchor ++ Text.joinText "/" p.segments

instance : ToString Path := ⟨toText⟩

instance : Repr Path := ⟨fun p _ => repr p.toText⟩

def isAbsolute (p : Path) : Bool := p.anchor ≠ .relative

/-- A path taken from a directory; an absolute path stands for itself. -/
def join (dir p : Path) : Path :=
  if p.isAbsolute then p
  else
    ⟨dir.anchor, dir.segments ++ p.segments, fun s h => by
      rcases List.mem_append.1 h with h | h
      · exact dir.valid s h
      · exact p.valid s h⟩

instance : HDiv Path Path Path := ⟨join⟩

/-- The path without its last segment. -/
def parent (p : Path) : Path :=
  ⟨p.anchor, p.segments.dropLast, fun s h => p.valid s ((List.dropLast_sublist _).mem h)⟩

/-- The path from the current directory. -/
def absolute (p cwd : Path) : Path := cwd / p

/-- Segments with each double dot and the segment before it taken out, where `above` holds the
segments before in reverse. There is nothing above the root. -/
def climb (above : List String) : List String → List String
  | [] => above.reverse
  | s :: rest => if s = ".." then climb above.tail rest else climb (s :: above) rest

/-- The segments of a path from the current directory, without double dots. -/
def normal (p cwd : Path) : List String := climb [] (p.absolute cwd).segments

/-- An absolute path with each double dot and the segment before it taken out. -/
def lexical (p : Path) : Path :=
  ofText (Anchor.toText p.anchor ++ Text.joinText "/" (climb [] p.segments))

/-- The way from one list of segments to another: up to the last common directory and down. -/
def wayTo : List String → List String → List String
  | d :: dir, s :: rest =>
    if d = s then wayTo dir rest
    else List.replicate (dir.length + 1) ".." ++ s :: rest
  | dir, rest => List.replicate dir.length ".." ++ rest

/-- The text of a path relative to a directory. -/
def relativeTo (p cwd dir : Path) : String :=
  match wayTo (dir.normal cwd) (p.normal cwd) with
  | [] => "."
  | way => Text.joinText "/" way

/-- Paths as a list for one argument. -/
def joinList (texts : List String) : String := Text.joinText ":" texts

example : (ofText "a//b/./c/").toText = "a/b/c" := by decide +kernel
example : (ofText "").toText = "." := by decide +kernel
example : (ofText "//x").toText = "//x" := by decide +kernel
example : (ofText "///x").toText = "/x" := by decide +kernel
example : (ofText "a" / ofText "/b").toText = "/b" := by decide +kernel

end Path

end TestImpact
