import TestImpact.Text.Split

/-!
# Similar texts

Two texts are compared by their longest common block, and on both sides of it by what is before and
after. The similarity is twice the number of characters in such blocks to the length of both texts.
-/

namespace TestImpact.Text

/-- A block that two texts share, with its places in both. -/
structure CommonBlock where
  first : Nat
  second : Nat
  size : Nat
  deriving DecidableEq, Repr, Inhabited

/-- The number of characters that two texts start with in common. -/
def commonLead : List Char → List Char → Nat
  | a :: s, b :: t => if a = b then commonLead s t + 1 else 0
  | _, _ => 0

/-- The longest common block; of several the first in the first text, then in the second. -/
def longestBlock (s t : List Char) : CommonBlock :=
  (List.range s.length).foldl (fun best i =>
    (List.range t.length).foldl (fun best j =>
      let size := commonLead (s.drop i) (t.drop j)
      if best.size < size then ⟨i, j, size⟩ else best) best) ⟨0, 0, 0⟩

/-- The number of characters in common blocks. -/
def matched (s t : List Char) : Nat :=
  match longestBlock s t with
  | ⟨i, j, size⟩ =>
    if 0 < size ∧ i + size ≤ s.length then
      matched (s.take i) (t.take j) + size + matched (s.drop (i + size)) (t.drop (j + size))
    else 0
termination_by s.length
decreasing_by
  · rw [List.length_take]; omega
  · rw [List.length_drop]; omega

/-- A candidate with the parts of its similarity. -/
structure Likeness where
  common : Nat
  length : Nat
  text : String
  deriving DecidableEq, Repr, Inhabited

/-- Whether a candidate comes before another one: the more similar first, then the later name. -/
def Likeness.leads (a b : Likeness) : Bool :=
  b.common * a.length < a.common * b.length ||
    (a.common * b.length == b.common * a.length && !decide (a.text < b.text))

/-- The least similarity of texts that are mixed up, as a fraction. -/
def leastLikeness : Nat × Nat := (3, 5)

/-- How many similar texts are of interest. -/
def mostSimilar : Nat := 3

/-- The candidates that are similar to a text, the most similar first. -/
def similar (s : String) (candidates : List String) : List String :=
  let likenesses := candidates.map fun c =>
    (⟨matched c.toList s.toList, c.length + s.length, c⟩ : Likeness)
  let close := likenesses.filter fun l =>
    leastLikeness.1 * l.length ≤ leastLikeness.2 * (2 * l.common)
  ((close.mergeSort Likeness.leads).take mostSimilar).map (·.text)

end TestImpact.Text
