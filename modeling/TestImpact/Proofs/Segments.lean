import Mathlib.Tactic.Lemma
import TestImpact.Run

/-!
# Segments of paths

The pieces of a text between slashes, and the segments of the paths that a run writes to.
-/

namespace TestImpact.Proofs
open Text

variable {sep : Char} {s tail piece : List Char}

lemma splitOn_of_not_mem (h : sep ∉ s) : splitOn sep s = [s] := by
  induction s with
  | nil => rfl
  | cons c r ih =>
    have hc : c ≠ sep := fun he => h (by simp [he])
    have hr : sep ∉ r := fun hm => h (List.mem_cons_of_mem _ hm)
    rw [splitOn, ih hr]
    exact if_neg hc

/-- A tail without separators ends the last piece. -/
lemma splitOn_append (s : List Char) (h : sep ∉ tail) :
    ∃ pieces last, splitOn sep (s ++ tail) = pieces ++ [last ++ tail] := by
  induction s with
  | nil => exact ⟨[], [], by simpa using splitOn_of_not_mem h⟩
  | cons c r ih =>
    obtain ⟨pieces, last, hr⟩ := ih
    rw [List.cons_append, splitOn, hr]
    cases pieces with
    | nil =>
      by_cases hc : c = sep
      · exact ⟨[[]], last, by simp [hc]⟩
      · exact ⟨[], c :: last, by simp [hc]⟩
    | cons piece pieces =>
      by_cases hc : c = sep
      · exact ⟨[] :: piece :: pieces, last, by simp [hc]⟩
      · exact ⟨(c :: piece) :: pieces, last, by simp [hc]⟩

/-- A character is a separator and ends a piece, or it belongs to the first one. -/
lemma mem_splitOn_cons {c : Char} (h : piece ∈ splitOn sep (c :: s)) :
    piece = [] ∨ piece ∈ splitOn sep s ∨
      c ≠ sep ∧ ∃ first ∈ splitOn sep s, piece = c :: first := by
  rw [splitOn] at h
  cases hs : splitOn sep s with
  | nil => exact absurd hs (splitOn_ne_nil sep s)
  | cons first pieces =>
    rw [hs] at h
    dsimp only at h
    split at h
    · exact (List.mem_cons.mp h).imp_right .inl
    · rename_i hc
      rcases List.mem_cons.mp h with rfl | hm
      · exact .inr (.inr ⟨hc, first, List.mem_cons_self, rfl⟩)
      · exact .inr (.inl (List.mem_cons_of_mem _ hm))

lemma mem_of_mem_splitOn {c : Char} (h : piece ∈ splitOn sep s) (hc : c ∈ piece) : c ∈ s := by
  induction s generalizing piece with
  | nil =>
    obtain rfl := List.mem_singleton.mp h
    exact hc
  | cons d r ih =>
    rcases mem_splitOn_cons h with rfl | hm | ⟨-, first, hfirst, rfl⟩
    · simp at hc
    · exact List.mem_cons_of_mem _ (ih hm hc)
    · rcases List.mem_cons.mp hc with rfl | hm
      · exact List.mem_cons_self
      · exact List.mem_cons_of_mem _ (ih hfirst hm)

lemma not_mem_of_mem_splitOn (h : piece ∈ splitOn sep s) : sep ∉ piece := by
  induction s generalizing piece with
  | nil =>
    obtain rfl := List.mem_singleton.mp h
    simp
  | cons c r ih =>
    rcases mem_splitOn_cons h with rfl | hm | ⟨hc, first, hfirst, rfl⟩
    · simp
    · exact ih hm
    · intro hm
      rcases List.mem_cons.mp hm with he | hlater
      · exact hc he.symm
      · exact ih hfirst hlater

lemma segments_join_ne_nil {dir p : Path} (h : p.segments ≠ []) : (dir / p).segments ≠ [] := by
  change (Path.join dir p).segments ≠ []
  rw [Path.join]
  split
  · exact h
  · simp [h]

/-- A text with an ending of its own writes a path with segments. -/
lemma segments_ofText_ne_nil (s : String) {ending : String} (hsep : '/' ∉ ending.toList)
    (hlong : 2 ≤ ending.toList.length) : (Path.ofText (s ++ ending)).segments ≠ [] := by
  obtain ⟨pieces, last, hsplit⟩ := splitOn_append s.toList hsep
  have hpiece : String.ofList (last ++ ending.toList) ∈ Path.pieces (s ++ ending) := by
    rw [Path.pieces, String.toList_append, hsplit]
    simp
  have hlength : 2 ≤ (String.ofList (last ++ ending.toList)).toList.length := by
    simp only [String.toList_ofList, List.length_append]
    omega
  have hsegment : IsSegment (String.ofList (last ++ ending.toList)) := by
    refine ⟨fun he => ?_, fun he => ?_, ?_⟩
    · simp [he] at hlength
    · rw [he] at hlength
      exact absurd hlength (by decide)
    · rw [String.toList_ofList]
      apply not_mem_of_mem_splitOn (s := s.toList ++ ending.toList)
      rw [hsplit]
      simp
  intro hnone
  have hmem : String.ofList (last ++ ending.toList) ∈ (Path.ofText (s ++ ending)).segments :=
    List.mem_filter.mpr ⟨hpiece, by simpa using hsegment⟩
  simp [hnone] at hmem

lemma isSegment_exec {task : String} (hslash : '/' ∉ task.toList) : IsSegment (task ++ ".exec") := by
  have hlength : 5 ≤ (task ++ ".exec").toList.length := by
    rw [String.toList_append, List.length_append]
    exact Nat.le_add_left 5 _
  refine ⟨fun he => ?_, fun he => ?_, fun hm => ?_⟩
  · rw [he] at hlength
    exact absurd hlength (by decide)
  · rw [he] at hlength
    exact absurd hlength (by decide)
  · rw [String.toList_append, List.mem_append] at hm
    exact absurd (hm.resolve_left hslash) (by decide)

/-- The path of an artifact has a last segment. -/
lemma segments_artifact_ne_nil (c : ReportConfig) (run : RunContext) :
    (c.artifact run).segments ≠ [] :=
  segments_join_ne_nil (segments_ofText_ne_nil run.task (by decide) (by decide))

end TestImpact.Proofs
