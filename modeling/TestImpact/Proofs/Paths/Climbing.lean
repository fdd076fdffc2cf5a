import Mathlib.Data.List.DropRight
import Mathlib.Tactic.Lemma
import TestImpact.Path

/-!
# Climbing

How double dots lead up. Segments after a directory lead up a number of levels of it and then down,
and the way from one directory to another climbs out of what they do not have in common.
-/

namespace TestImpact.Proofs
open TestImpact.Path

variable {above segments dir rest : List String} {s : String}

attribute [local simp] climb

lemma climb_append (above xs ys : List String) :
    climb above (xs ++ ys) = climb (climb above xs).reverse ys := by
  induction xs generalizing above with
  | nil => simp
  | cons s xs ih =>
    rw [List.cons_append, climb, climb]
    by_cases hs : s = ".."
    · rw [if_pos hs, if_pos hs, ih]
    · rw [if_neg hs, if_neg hs, ih]

lemma mem_climb (h : s ∈ climb above segments) : s ∈ above ∨ s ∈ segments ∧ s ≠ ".." := by
  induction segments generalizing above with
  | nil => exact .inl (List.mem_reverse.mp h)
  | cons t segments ih =>
    rw [climb] at h
    by_cases ht : t = ".."
    · rw [if_pos ht] at h
      rcases ih h with habove | ⟨hmem, hs⟩
      · exact .inl (List.mem_of_mem_tail habove)
      · exact .inr ⟨List.mem_cons_of_mem _ hmem, hs⟩
    · rw [if_neg ht] at h
      rcases ih h with habove | ⟨hmem, hs⟩
      · rcases List.mem_cons.mp habove with rfl | habove
        · exact .inr ⟨List.mem_cons_self, ht⟩
        · exact .inl habove
      · exact .inr ⟨List.mem_cons_of_mem _ hmem, hs⟩

/-- Without double dots all segments lead down. -/
lemma climb_down (h : ".." ∉ segments) : climb above segments = above.reverse ++ segments := by
  induction segments generalizing above with
  | nil => simp
  | cons s segments ih =>
    obtain ⟨hs, hsegments⟩ := not_or.mp (mt List.mem_cons.mpr h)
    rw [climb, if_neg (Ne.symm hs), ih hsegments]
    simp

lemma climb_up (n : Nat) (above segments : List String) :
    climb above (List.replicate n ".." ++ segments) = climb (above.drop n) segments := by
  induction n generalizing above with
  | zero => rfl
  | succ n ih =>
    rw [List.replicate_succ, List.cons_append, climb, if_pos rfl, ih, List.drop_tail]

/-! ### The way to another directory -/

lemma climb_out (h : ".." ∉ rest) (dir above : List String) :
    climb (dir.reverse ++ above) (List.replicate dir.length ".." ++ rest) = above.reverse ++ rest := by
  rw [climb_up, ← List.length_reverse, List.drop_left, climb_down h]

/-- The way from a directory leads to where it is meant to, whatever is above both. -/
lemma climb_wayTo (h : ".." ∉ rest) (above : List String) :
    climb (dir.reverse ++ above) (wayTo dir rest) = above.reverse ++ rest := by
  induction dir generalizing rest above with
  | nil => exact climb_out h [] above
  | cons d dir ih =>
    cases rest with
    | nil => exact climb_out h (d :: dir) above
    | cons s rest =>
      rw [wayTo]
      by_cases hd : d = s
      · have hrest : ".." ∉ rest := fun hmem => h (List.mem_cons_of_mem _ hmem)
        have hcommon : (d :: dir).reverse ++ above = dir.reverse ++ d :: above := by simp
        rw [if_pos hd, hcommon, ih hrest, hd]
        simp
      · rw [if_neg hd]
        exact climb_out h (d :: dir) above

lemma eq_or_mem_of_mem_up {n : Nat} (h : s ∈ List.replicate n ".." ++ rest) :
    s = ".." ∨ s ∈ rest := by
  rcases List.mem_append.mp h with hup | hmem
  · exact .inl (List.eq_of_mem_replicate hup)
  · exact .inr hmem

lemma mem_wayTo (h : s ∈ wayTo dir rest) : s = ".." ∨ s ∈ rest := by
  induction dir generalizing rest with
  | nil => exact eq_or_mem_of_mem_up (n := 0) h
  | cons d dir ih =>
    cases rest with
    | nil => exact eq_or_mem_of_mem_up h
    | cons t rest =>
      rw [wayTo] at h
      by_cases hd : d = t
      · rw [if_pos hd] at h
        rcases ih h with hup | hmem
        · exact .inl hup
        · exact .inr (List.mem_cons_of_mem _ hmem)
      · rw [if_neg hd] at h
        exact eq_or_mem_of_mem_up h

/-! ### How far segments lead up -/

/-- The number of levels that segments lead above the directory they start from, after `depth` levels
down. -/
def rise : Nat → List String → Nat
  | _, [] => 0
  | 0, s :: rest => if s = ".." then rise 0 rest + 1 else rise 1 rest
  | depth + 1, s :: rest => if s = ".." then rise depth rest else rise (depth + 2) rest

/-- Segments take away as many levels of a directory as they rise above it, and the rest of them does
not depend on the directory. -/
lemma climb_eq_drop_rise (below above segments : List String) :
    climb (below ++ above) segments =
      (above.drop (rise below.length segments)).reverse ++ climb below segments := by
  induction segments generalizing below above with
  | nil => cases below <;> simp [rise]
  | cons s segments ih =>
    by_cases hs : s = ".."
    · cases below with
      | nil =>
        have hup := ih [] above.tail
        rw [List.nil_append, List.drop_tail] at hup
        simpa [rise, hs] using hup
      | cons b below => simpa [rise, hs] using ih below above
    · have hdown := ih (s :: below) above
      cases below with
      | nil => simpa [rise, hs] using hdown
      | cons b below => simpa [rise, hs] using hdown

/-- Where segments lead from a directory. -/
lemma climb_append_eq (dir segments : List String) :
    climb [] (dir ++ segments) = (climb [] dir).rdrop (rise 0 segments) ++ climb [] segments := by
  have hclimb := climb_eq_drop_rise [] (climb [] dir).reverse segments
  rw [climb_append, List.rdrop_eq_reverse_drop_reverse]
  exact hclimb

end TestImpact.Proofs
