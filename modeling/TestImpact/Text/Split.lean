/-!
# Cutting and joining text

Text is cut at a separator character, either once or everywhere, and joined again. Cutting
everywhere and joining are inverse; cutting once gives what stands before and after the first
separator.
-/

namespace TestImpact.Text

/-- The pieces between the separators: one more piece than there are separators. -/
def splitOn (sep : Char) : List Char → List (List Char)
  | [] => [[]]
  | c :: r =>
    match splitOn sep r with
    | [] => [[c]]
    | piece :: pieces => if c = sep then [] :: piece :: pieces else (c :: piece) :: pieces

/-- The pieces with the separator between them. -/
def joinWith (sep : Char) : List (List Char) → List Char
  | [] => []
  | [piece] => piece
  | piece :: pieces => piece ++ sep :: joinWith sep pieces

/-- What stands before and after the first separator, if there is one. -/
def cut? (sep : Char) : List Char → Option (List Char × List Char)
  | [] => none
  | c :: r =>
    if c = sep then some ([], r)
    else (cut? sep r).map fun (before, after) => (c :: before, after)

/-- The rest after a text that it starts with. -/
def dropLead? : List Char → List Char → Option (List Char)
  | [], s => some s
  | _ :: _, [] => none
  | c :: lead, d :: s => if c = d then dropLead? lead s else none

/-- Every occurrence of a non-empty text replaced, from left to right. -/
def replaceAll (what by_ : List Char) (s : List Char) : List Char :=
  go s.length s
where
  go : Nat → List Char → List Char
    | 0, s => s
    | _ + 1, [] => []
    | n + 1, c :: r =>
      match dropLead? what (c :: r) with
      | some rest => if what.isEmpty then c :: go n r else by_ ++ go n rest
      | none => c :: go n r

/-- The texts with the separator text between them. -/
def joinText (sep : String) : List String → String
  | [] => ""
  | [s] => s
  | s :: rest => s ++ sep ++ joinText sep rest

theorem splitOn_ne_nil (sep : Char) (s : List Char) : splitOn sep s ≠ [] := by
  cases s with
  | nil => simp [splitOn]
  | cons c r =>
    simp only [splitOn]
    split
    · simp
    · split <;> simp

theorem joinWith_splitOn (sep : Char) (s : List Char) : joinWith sep (splitOn sep s) = s := by
  induction s with
  | nil => rfl
  | cons c r ih =>
    simp only [splitOn]
    split
    · rename_i h
      exact absurd h (splitOn_ne_nil sep r)
    · rename_i piece pieces h
      rw [h] at ih
      split
      · rename_i hc
        simp [joinWith, ih, hc]
      · cases pieces with
        | nil => simpa [joinWith] using ih
        | cons p ps => simpa [joinWith] using ih

end TestImpact.Text
