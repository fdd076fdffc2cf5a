import TestImpact.Text.Split

/-!
# Dotted globs

A class may be selected by a path glob. It is made a dotted glob in three steps: a class file suffix
is dropped, path separators become dots, and every run of dots and stars that holds a double star
becomes the double star alone.
-/

namespace TestImpact.Pattern

def suffix : List Char := ".class".toList

/-- Drops a class file suffix at the end of the text, or before a line feed that ends it. -/
def dropSuffix : List Char → List Char
  | [] => []
  | c :: r =>
    if c :: r = suffix then []
    else if c :: r = suffix ++ ['\n'] then ['\n']
    else c :: dropSuffix r

def isSeparator (c : Char) : Bool := c = '/' || c = '\\'

/-- Path separators as dots. -/
def separatorsAsDots (s : List Char) : List Char := s.map fun c => if isSeparator c then '.' else c

def isDotOrStar (c : Char) : Bool := c = '.' || c = '*'

def hasDoubleStar : List Char → Bool
  | '*' :: '*' :: _ => true
  | _ :: r => hasDoubleStar r
  | [] => false

/-- What a maximal run of dots and stars becomes. -/
def collapsedRun (run : List Char) : List Char :=
  if hasDoubleStar run then ['*', '*'] else run

/-- Collapses the runs of dots and stars, where `run` is the part of a run that was read, in
reverse. -/
def collapseFrom (run : List Char) : List Char → List Char
  | [] => collapsedRun run.reverse
  | c :: r =>
    if isDotOrStar c then collapseFrom (c :: run) r
    else collapsedRun run.reverse ++ c :: collapseFrom [] r

def collapse (s : List Char) : List Char := collapseFrom [] s

/-- The dotted glob of a class pattern. -/
def dottedChars (s : List Char) : List Char := collapse (separatorsAsDots (dropSuffix s))

def dottedGlob (s : String) : String := String.ofList (dottedChars s.toList)

example : dottedGlob "com/example/**/*Test.class" = "com.example**Test" := by decide +kernel
example : dottedGlob "a.class/b.class" = "a.class.b" := by decide +kernel
example : dottedGlob "*.*.*" = "*.*.*" := by decide +kernel

end TestImpact.Pattern
