import TestImpact.Text.Split

/-!
# Wrapping text

Words in lines of a given width. Blanks between two words stay as they are unless the line ends
there.
-/

namespace TestImpact.Text

/-- A word with the number of blanks before it. -/
structure SpacedWord where
  blanks : Nat
  word : List Char
  deriving DecidableEq, Repr, Inhabited

/-- The words of a text. -/
def spacedWords (s : List Char) : List SpacedWord :=
  go 0 (splitOn ' ' s)
where
  go (blanks : Nat) : List (List Char) → List SpacedWord
    | [] => []
    | [] :: pieces => go (blanks + 1) pieces
    | piece :: pieces => ⟨blanks, piece⟩ :: go 1 pieces

/-- Fills lines with words, where `line` is the line that has been started. -/
def fillLines (width : Nat) (line : List Char) : List SpacedWord → List (List Char)
  | [] => if line.isEmpty then [] else [line]
  | w :: words =>
    if line.isEmpty then fillLines width w.word words
    else if line.length + w.blanks + w.word.length ≤ width then
      fillLines width (line ++ List.replicate w.blanks ' ' ++ w.word) words
    else line :: fillLines width w.word words

/-- The lines of a text in a given width. -/
def wrap (width : Nat) (s : String) : List String :=
  (fillLines width [] (spacedWords s.toList)).map String.ofList

example : wrap 9 "one two  three" = ["one two", "three"] := by decide +kernel
example : wrap 14 "one two  three" = ["one two  three"] := by decide +kernel

end TestImpact.Text
