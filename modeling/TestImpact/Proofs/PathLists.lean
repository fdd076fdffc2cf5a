import Mathlib.Data.List.Nodup
import Mathlib.Tactic.Lemma
import TestImpact.ScanPath
import TestImpact.Proofs.Paths.Texts

/-!
# Path lists

Paths are passed in one argument with colons between them, and the argument is taken apart at the
colons. The directories to scan are found again, each once.
-/

namespace TestImpact.Proofs
open TestImpact.Path ScanPath

/-- The entries of a path list. An empty list has none. -/
def entriesOf (value : String) : List String :=
  if value = "" then [] else (Text.splitOn ':' value.toList).map String.ofList

variable {text : String} {texts : List String}

/-! ### Entries -/

lemma entriesOf_of_ne (h : text ≠ "") :
    entriesOf text = (Text.splitOn ':' text.toList).map String.ofList := if_neg h

/-- A text without colons is one entry. -/
lemma entriesOf_plain (hne : text ≠ "") (h : ':' ∉ text.toList) : entriesOf text = [text] := by
  rw [entriesOf_of_ne hne, splitOn_of_not_mem h]
  simp

/-- A list has the entries of its texts, in their order. -/
lemma entriesOf_joinList (h : ∀ text ∈ texts, text ≠ "") :
    entriesOf (joinList texts) = texts.flatMap entriesOf := by
  cases texts with
  | nil => rfl
  | cons first rest =>
    have hne : joinList (first :: rest) ≠ "" := by
      intro hempty
      obtain ⟨tail, htail⟩ := toList_joinText_cons ":" first rest
      have hnone : first.toList ++ tail = [] := by
        rw [← htail]
        exact congrArg String.toList hempty
      have hfirst : first.toList = [] := (List.append_eq_nil_iff.mp hnone).1
      exact h first List.mem_cons_self (String.toList_eq_nil_iff.mp hfirst)
    have hcolon : ":".toList = [':'] := rfl
    have hpieces : (first :: rest).map String.toList ≠ [] := by simp
    rw [entriesOf_of_ne hne, joinList, toList_joinText hcolon, splitOn_joinWith hpieces,
      List.map_flatMap, List.flatMap_map]
    refine congrArg List.flatten (List.map_congr_left fun text htext => ?_)
    exact (entriesOf_of_ne (h text htext)).symm

/-! ### First occurrences -/

section Firsts

variable {α : Type} [DecidableEq α] {x : α} {seen xs : List α}

lemma mem_firsts : x ∈ firsts seen xs ↔ x ∈ xs ∧ x ∉ seen := by
  induction xs generalizing seen with
  | nil => simp [firsts]
  | cons y xs ih =>
    have hkept : x ∈ firsts seen (y :: xs) ↔ x = y ∧ y ∉ seen ∨ x ∈ xs ∧ x ∉ seen := by
      by_cases hy : y ∈ seen
      · rw [firsts, if_pos hy, ih]
        simp [hy]
      · rw [firsts, if_neg hy, List.mem_cons, ih, List.mem_cons]
        by_cases hx : x = y
        · simp [hx, hy]
        · simp [hx]
    rw [hkept, List.mem_cons, or_and_right]
    refine or_congr (and_congr_right fun hx => ?_) Iff.rfl
    rw [hx]

lemma nodup_firsts (seen xs : List α) : (firsts seen xs).Nodup := by
  induction xs generalizing seen with
  | nil => exact List.nodup_nil
  | cons y xs ih =>
    by_cases hy : y ∈ seen
    · rw [firsts, if_pos hy]
      exact ih seen
    · rw [firsts, if_neg hy, List.nodup_cons]
      exact ⟨fun hmem => (mem_firsts.mp hmem).2 List.mem_cons_self, ih (y :: seen)⟩

lemma firsts_eq_self (hnodup : xs.Nodup) (hseen : ∀ x ∈ xs, x ∉ seen) : firsts seen xs = xs := by
  induction xs generalizing seen with
  | nil => rfl
  | cons y xs ih =>
    obtain ⟨hy, hnodup⟩ := List.nodup_cons.mp hnodup
    obtain ⟨hfirst, hrest⟩ := List.forall_mem_cons.mp hseen
    have hkept : ∀ x ∈ xs, x ∉ y :: seen := by
      intro x hx hmem
      rcases List.mem_cons.mp hmem with rfl | hmem
      · exact hy hx
      · exact hrest x hx hmem
    rw [firsts, if_neg hfirst, ih hnodup hkept]

end Firsts

/-! ### Directories to scan -/

/-- Joining leaves out no directory that was collected. -/
lemma join_collect (units : List BuildUnit) :
    ScanPath.join ((collect units).map toText) = joinList ((collect units).map toText) := by
  have hfilter : ((collect units).map toText).filter (· ≠ "") = (collect units).map toText := by
    refine List.filter_eq_self.mpr fun text htext => ?_
    obtain ⟨p, -, rfl⟩ := List.mem_map.mp htext
    simpa using toText_ne_empty p
  have hnodup : ((collect units).map toText).Nodup :=
    List.Nodup.map toText_injective (nodup_firsts [] _)
  rw [ScanPath.join, hfilter, firsts_eq_self hnodup (by simp)]

end TestImpact.Proofs
