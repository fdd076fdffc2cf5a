import TestImpact.Data.Knot
import TestImpact.Fault

/-!
# Merging layers

Mappings are merged key by key: where both hold a mapping the two are merged, and elsewhere the
value on top wins. A mapping that holds itself is opened where the other one goes on; two such
mappings that go on together without end have no merged value.
-/

namespace TestImpact.Data

mutual

/-- A value with another one on top. A mapping on top that holds itself is opened and left to
`opened`. -/
def mergeBy (opened : List (Data × Data) → List (Data × Data) → Except Fault (List (Data × Data)))
    (base : Data) : Data → Except Fault Data
  | map upper =>
    match base.untie with
    | map entries => map <$> mergeEntriesBy opened entries upper
    | _ => .ok (map upper)
  | knot label value =>
    match base.untie, (knot label value).untie with
    | map entries, map upper => map <$> opened entries upper
    | _, _ => .ok (knot label value)
  | value => .ok value

/-- Entries with others on top; new keys are added at the end. -/
def mergeEntriesBy
    (opened : List (Data × Data) → List (Data × Data) → Except Fault (List (Data × Data)))
    (base : List (Data × Data)) : List (Data × Data) → Except Fault (List (Data × Data))
  | [] => .ok base
  | (key, value) :: upper => do
    let merged ←
      match lookup? key base with
      | some below => mergeBy opened below value
      | none => .ok value
    mergeEntriesBy opened (put key merged base) upper

end

/-- Entries with others on top; the first argument bounds how often mappings are opened inside each
other. -/
def mergeEntriesWithin :
    Nat → List (Data × Data) → List (Data × Data) → Except Fault (List (Data × Data))
  | 0, _, _ => .error .tooDeep
  | n + 1, base, upper => mergeEntriesBy (mergeEntriesWithin n) base upper

/-- How often mappings that hold themselves are opened inside each other. -/
def maxOpenings : Nat := 1000

/-- Entries with others on top. -/
def mergeEntries (base upper : List (Data × Data)) : Except Fault (List (Data × Data)) :=
  mergeEntriesBy (mergeEntriesWithin maxOpenings) base upper

/-- A value with another one on top; of two that go on together without end, the one on top. -/
def merge (base upper : Data) : Data :=
  match mergeBy (mergeEntriesWithin maxOpenings) base upper with
  | .ok merged => merged
  | .error _ => upper

end TestImpact.Data
