import Mathlib.Tactic.Lemma
import TestImpact.Proofs.Segments

/-!
# Joined text

Pieces that were joined by a separator are found again by cutting at it, exactly if none of them
holds the separator.
-/

namespace TestImpact.Proofs
open Text

variable {sep : Char} {s lead before after : List Char} {pieces : List (List Char)}

/-! ### Cutting everywhere -/

lemma splitOn_append_sep (s rest : List Char) :
    splitOn sep (s ++ sep :: rest) = splitOn sep s ++ splitOn sep rest := by
  induction s with
  | nil =>
    cases hrest : splitOn sep rest with
    | nil => exact absurd hrest (splitOn_ne_nil sep rest)
    | cons piece pieces => simp [splitOn, hrest]
  | cons c s ih =>
    rw [List.cons_append, splitOn, splitOn, ih]
    cases hs : splitOn sep s with
    | nil => exact absurd hs (splitOn_ne_nil sep s)
    | cons piece pieces =>
      by_cases hc : c = sep
      · simp [hc]
      · simp [hc]

lemma splitOn_joinWith (h : pieces ≠ []) :
    splitOn sep (joinWith sep pieces) = pieces.flatMap (splitOn sep) := by
  induction pieces with
  | nil => exact absurd rfl h
  | cons piece pieces ih =>
    cases pieces with
    | nil => simp [joinWith]
    | cons next pieces =>
      change splitOn sep (piece ++ sep :: joinWith sep (next :: pieces)) = _
      rw [splitOn_append_sep, ih (by simp), ← List.flatMap_cons]

lemma splitOn_joinWith_of_not_mem (h : pieces ≠ []) (hsep : ∀ piece ∈ pieces, sep ∉ piece) :
    splitOn sep (joinWith sep pieces) = pieces := by
  rw [splitOn_joinWith h]
  clear h
  induction pieces with
  | nil => rfl
  | cons piece pieces ih =>
    obtain ⟨hpiece, hpieces⟩ := List.forall_mem_cons.mp hsep
    rw [List.flatMap_cons, splitOn_of_not_mem hpiece, ih hpieces]
    rfl

lemma toList_joinText {separator : String} (h : separator.toList = [sep]) (texts : List String) :
    (joinText separator texts).toList = joinWith sep (texts.map String.toList) := by
  induction texts with
  | nil => rfl
  | cons text texts ih =>
    cases texts with
    | nil => rfl
    | cons next texts =>
      change (text ++ separator ++ joinText separator (next :: texts)).toList = _
      rw [String.toList_append, String.toList_append, ih, h, List.append_assoc]
      rfl

lemma toList_joinText_cons (separator first : String) (rest : List String) :
    ∃ tail, (joinText separator (first :: rest)).toList = first.toList ++ tail := by
  cases rest with
  | nil => exact ⟨[], (List.append_nil _).symm⟩
  | cons next rest =>
    refine ⟨separator.toList ++ (joinText separator (next :: rest)).toList, ?_⟩
    change (first ++ separator ++ joinText separator (next :: rest)).toList = _
    rw [String.toList_append, String.toList_append, List.append_assoc]

/-- Texts that were joined are found again, unless one of them holds the separator. -/
lemma splitOn_joinText {separator : String} {texts : List String} (h : separator.toList = [sep])
    (hne : texts ≠ []) (hsep : ∀ text ∈ texts, sep ∉ text.toList) :
    (splitOn sep (joinText separator texts).toList).map String.ofList = texts := by
  have hpieces : ∀ piece ∈ texts.map String.toList, sep ∉ piece := by
    intro piece hpiece
    obtain ⟨text, htext, rfl⟩ := List.mem_map.mp hpiece
    exact hsep text htext
  rw [toList_joinText h, splitOn_joinWith_of_not_mem (by simpa using hne) hpieces]
  simp

/-! ### Cutting once -/

lemma cut?_append (h : sep ∉ before) (after : List Char) :
    cut? sep (before ++ sep :: after) = some (before, after) := by
  induction before with
  | nil => simp [cut?]
  | cons c before ih =>
    obtain ⟨hc, hbefore⟩ := not_or.mp (mt List.mem_cons.mpr h)
    rw [List.cons_append, cut?, if_neg (Ne.symm hc), ih hbefore]
    rfl

lemma eq_of_cut? (h : cut? sep s = some (before, after)) :
    s = before ++ sep :: after ∧ sep ∉ before := by
  induction s generalizing before with
  | nil => simp [cut?] at h
  | cons c s ih =>
    rw [cut?] at h
    by_cases hc : c = sep
    · rw [if_pos hc] at h
      obtain ⟨rfl, rfl⟩ := Prod.mk.inj (Option.some.inj h)
      simp [hc]
    · rw [if_neg hc] at h
      obtain ⟨⟨first, last⟩, hcut, heq⟩ := Option.map_eq_some_iff.mp h
      obtain ⟨rfl, rfl⟩ := Prod.mk.inj heq
      obtain ⟨rfl, hfirst⟩ := ih hcut
      exact ⟨rfl, mt List.mem_cons.mp (not_or.mpr ⟨Ne.symm hc, hfirst⟩)⟩

lemma dropLead?_append (lead s : List Char) : dropLead? lead (lead ++ s) = some s := by
  induction lead with
  | nil => rfl
  | cons c lead ih => rw [List.cons_append, dropLead?, if_pos rfl, ih]

lemma eq_of_dropLead? (h : dropLead? lead s = some after) : s = lead ++ after := by
  induction lead generalizing s with
  | nil => exact Option.some.inj h
  | cons c lead ih =>
    cases s with
    | nil => simp [dropLead?] at h
    | cons d s =>
      rw [dropLead?] at h
      by_cases hc : c = d
      · rw [if_pos hc] at h
        rw [hc, ih h, List.cons_append]
      · simp [hc] at h

end TestImpact.Proofs
