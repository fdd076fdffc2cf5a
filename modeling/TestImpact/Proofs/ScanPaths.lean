import Mathlib.Data.List.Nodup
import TestImpact.Proofs.PathLists

/-!
# Directories to scan

What is collected from the build units, and what is joined into one argument, is the list in which
each entry stands once, in the order of first occurrences. There is one such list only. It grows at
its end when further units are collected, and the argument is cut into the same list again.
-/

namespace TestImpact.Proofs
open TestImpact.Path ScanPath

/-! ### Lists of first occurrences -/

section Firsts

variable {α : Type} [DecidableEq α] {all kept other : List α} {x y : α}

/-- A list that has the entries of another one, in the order in which they occur there first. -/
structure InFirstOrder (all kept : List α) : Prop where
  mem_iff : ∀ x, x ∈ kept ↔ x ∈ all
  order : kept.Pairwise fun x y => all.idxOf x < all.idxOf y

lemma InFirstOrder.nodup (h : InFirstOrder all kept) : kept.Nodup := by
  apply h.order.imp
  intro x y hlt hxy
  rw [hxy] at hlt
  exact absurd hlt (Nat.lt_irrefl _)

lemma InFirstOrder.unique (h : InFirstOrder all kept) (h' : InFirstOrder all other) :
    kept = other := by
  have hperm : kept.Perm other := by
    apply (List.perm_ext_iff_of_nodup h.nodup h'.nodup).mpr
    intro x
    rw [h.mem_iff, h'.mem_iff]
  apply hperm.eq_of_pairwise ?_ h.order h'.order
  intro x y _ _ hxy hyx
  omega

lemma idxOf_cons_of_ne (xs : List α) (h : x ≠ y) : (y :: xs).idxOf x = xs.idxOf x + 1 :=
  List.idxOf_cons_ne xs (Ne.symm h)

/-- An entry in front of the others moves them all by one place. -/
lemma pairwise_idxOf_cons (hkept : ∀ x ∈ kept, x ≠ y)
    (h : kept.Pairwise fun a b => all.idxOf a < all.idxOf b) :
    kept.Pairwise fun a b => (y :: all).idxOf a < (y :: all).idxOf b := by
  apply h.imp_of_mem
  intro a b ha hb hlt
  rw [idxOf_cons_of_ne all (hkept a ha), idxOf_cons_of_ne all (hkept b hb)]
  omega

lemma pairwise_idxOf_firsts (seen xs : List α) :
    (firsts seen xs).Pairwise fun a b => xs.idxOf a < xs.idxOf b := by
  induction xs generalizing seen with
  | nil => exact List.Pairwise.nil
  | cons y xs ih =>
    by_cases hy : y ∈ seen
    · have hother : ∀ x ∈ firsts seen xs, x ≠ y := by
        intro x hx hxy
        rw [hxy] at hx
        exact (mem_firsts.mp hx).2 hy
      rw [firsts, if_pos hy]
      exact pairwise_idxOf_cons hother (ih seen)
    · have hother : ∀ x ∈ firsts (y :: seen) xs, x ≠ y := by
        intro x hx hxy
        rw [hxy] at hx
        exact (mem_firsts.mp hx).2 List.mem_cons_self
      rw [firsts, if_neg hy, List.pairwise_cons]
      refine ⟨?_, pairwise_idxOf_cons hother (ih (y :: seen))⟩
      intro x hx
      rw [List.idxOf_cons_self, idxOf_cons_of_ne xs (hother x hx)]
      omega

lemma inFirstOrder_firsts (all : List α) : InFirstOrder all (firsts [] all) := by
  refine ⟨?_, pairwise_idxOf_firsts [] all⟩
  intro x
  rw [mem_firsts]
  simp

lemma inFirstOrder_iff : InFirstOrder all kept ↔ kept = firsts [] all := by
  constructor
  · intro h
    exact h.unique (inFirstOrder_firsts all)
  · intro h
    rw [h]
    exact inFirstOrder_firsts all

/-- What was seen before is what is left out. -/
lemma firsts_eq_filter (seen xs : List α) :
    firsts seen xs = (firsts [] xs).filter (· ∉ seen) := by
  induction xs generalizing seen with
  | nil => rfl
  | cons y xs ih =>
    have hself : y ∉ ([] : List α) := by simp
    rw [firsts, firsts, if_neg hself, ih [y], List.filter_cons, List.filter_filter]
    by_cases hy : y ∈ seen
    · have hsame : ∀ x, (decide (x ∉ seen) && decide (x ∉ [y])) = decide (x ∉ seen) := by
        intro x
        by_cases hx : x = y
        · simp [hx, hy]
        · simp [hx]
      rw [if_pos hy, ih seen, if_neg (by simpa using hy)]
      simp only [hsame]
    · have hsame : ∀ x, (decide (x ∉ seen) && decide (x ∉ [y])) = decide (x ∉ y :: seen) := by
        intro x
        by_cases hx : x = y
        · simp [hx]
        · simp [hx]
      rw [if_neg hy, ih (y :: seen), if_pos (by simpa using hy)]
      simp only [hsame]

lemma firsts_congr {seen seen' : List α} (h : ∀ x, x ∈ seen ↔ x ∈ seen') (xs : List α) :
    firsts seen xs = firsts seen' xs := by
  rw [firsts_eq_filter seen, firsts_eq_filter seen']
  apply List.filter_congr
  intro x _
  simp only [h x]

lemma firsts_append_seen (seen xs ys : List α) :
    firsts seen (xs ++ ys) = firsts seen xs ++ firsts (xs ++ seen) ys := by
  induction xs generalizing seen with
  | nil => rfl
  | cons x xs ih =>
    rw [List.cons_append, firsts, firsts]
    by_cases hx : x ∈ seen
    · have hseen : ∀ z, z ∈ x :: (xs ++ seen) ↔ z ∈ xs ++ seen := by
        intro z
        rw [List.mem_cons]
        refine ⟨fun h => h.elim (fun hz => ?_) id, .inr⟩
        rw [hz]
        exact List.mem_append_right xs hx
      rw [if_pos hx, if_pos hx, ih seen, List.cons_append, firsts_congr hseen]
    · have hseen : ∀ z, z ∈ xs ++ x :: seen ↔ z ∈ x :: (xs ++ seen) := by
        intro z
        simp only [List.mem_append, List.mem_cons]
        tauto
      rw [if_neg hx, if_neg hx, ih (x :: seen), List.cons_append, List.cons_append,
        firsts_congr hseen]

/-- The first occurrences of a longer list are those of its beginning, and what else comes after. -/
lemma firsts_append (xs ys : List α) :
    firsts [] (xs ++ ys) = firsts [] xs ++ (firsts [] ys).filter (· ∉ firsts [] xs) := by
  have hmem : ∀ x, x ∈ firsts [] xs ↔ x ∈ xs := (inFirstOrder_firsts xs).mem_iff
  rw [firsts_append_seen, List.append_nil, firsts_eq_filter xs]
  simp only [hmem]

end Firsts

/-! ### Directories of build units -/

variable {units : List BuildUnit} {p : Path}

/-- All directories of the units in order, and of each unit those of classes, that of resources and the
others. -/
def listing (units : List BuildUnit) : List Path :=
  units.flatMap fun u => u.classDirs ++ u.resourceDir.toList ++ u.extraDirs

lemma mem_listing :
    p ∈ listing units ↔
      ∃ u ∈ units, p ∈ u.classDirs ∨ u.resourceDir = some p ∨ p ∈ u.extraDirs := by
  rw [listing, List.mem_flatMap]
  simp only [List.mem_append, Option.mem_toList, or_assoc]

lemma collect_append (units more : List BuildUnit) :
    collect (units ++ more) =
      collect units ++ (collect more).filter (· ∉ collect units) := by
  rw [collect, List.flatMap_append]
  exact firsts_append _ _

/-- The argument of directories is cut into their texts again. -/
lemma splitOn_join_collect (hne : collect units ≠ [])
    (hcolon : ∀ p ∈ collect units, ':' ∉ p.toText.toList) :
    (Text.splitOn ':' (ScanPath.join ((collect units).map toText)).toList).map String.ofList =
      (collect units).map toText := by
  have hpieces : (collect units).map toText ≠ [] := by
    intro hnone
    exact hne (List.map_eq_nil_iff.mp hnone)
  have htexts : ∀ text ∈ (collect units).map toText, ':' ∉ text.toList := by
    intro text htext
    obtain ⟨p, hp, rfl⟩ := List.mem_map.mp htext
    exact hcolon p hp
  rw [join_collect, joinList]
  exact splitOn_joinText rfl hpieces htexts

/-- What is collected from build units is the one list that has the directories of classes, the present
ones of resources and the others of all units, each once, in the order in which they are met first.
More units only add, at the end, what is new in them. The argument that is made of a list that is not
empty is cut at its colons into the same texts, none of them empty, if no path holds a colon. Of any
texts the argument has the ones that are not empty, each once, in the order of first occurrences. -/
theorem scan_paths_are_first_occurrences (units more : List BuildUnit) (texts : List String) :
    (∀ p, p ∈ collect units ↔
      ∃ u ∈ units, p ∈ u.classDirs ∨ u.resourceDir = some p ∨ p ∈ u.extraDirs) ∧
    (collect units).Nodup ∧
    (∀ paths, InFirstOrder (listing units) paths ↔ paths = collect units) ∧
    collect (units ++ more) = collect units ++ (collect more).filter (· ∉ collect units) ∧
    (collect units ≠ [] → (∀ p ∈ collect units, ':' ∉ p.toText.toList) →
      (Text.splitOn ':' (ScanPath.join ((collect units).map toText)).toList).map String.ofList =
          (collect units).map toText ∧
        ∀ text ∈ (collect units).map toText, text ≠ "") ∧
    ∃ kept, InFirstOrder (texts.filter (· ≠ "")) kept ∧ ScanPath.join texts = joinList kept := by
  have horder : InFirstOrder (listing units) (collect units) := inFirstOrder_firsts _
  refine ⟨?_, horder.nodup, fun paths => inFirstOrder_iff, collect_append units more, ?_,
    firsts [] (texts.filter (· ≠ "")), inFirstOrder_firsts _, rfl⟩
  · intro p
    rw [horder.mem_iff, mem_listing]
  · intro hne hcolon
    refine ⟨splitOn_join_collect hne hcolon, ?_⟩
    intro text htext
    obtain ⟨p, -, rfl⟩ := List.mem_map.mp htext
    exact toText_ne_empty p

/-- Two units that share directories, one of them without resources. -/
def sampleUnits : List BuildUnit :=
  [⟨"main", ["out/main", "out/gen"], some "out/res", ["lib/x"]⟩,
    ⟨"test", ["out/test", "out/main"], none, ["lib/x", "out/gen/y"]⟩]

theorem sample_scan_paths :
    collect sampleUnits ≠ [] ∧ (∀ p ∈ collect sampleUnits, ':' ∉ p.toText.toList) ∧
      (Text.splitOn ':' (ScanPath.join ((collect sampleUnits).map toText)).toList).map
          String.ofList =
        ["out/main", "out/gen", "out/res", "lib/x", "out/test", "out/gen/y"] := by
  have hne : collect sampleUnits ≠ [] := by decide +kernel
  have hcolon : ∀ p ∈ collect sampleUnits, ':' ∉ p.toText.toList := by decide +kernel
  have htexts : (collect sampleUnits).map toText =
      ["out/main", "out/gen", "out/res", "lib/x", "out/test", "out/gen/y"] := by decide +kernel
  obtain ⟨-, -, -, -, hcut, -⟩ := scan_paths_are_first_occurrences sampleUnits [] []
  exact ⟨hne, hcolon, (hcut hne hcolon).1.trans htexts⟩

end TestImpact.Proofs
