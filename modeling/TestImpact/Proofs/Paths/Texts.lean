import Mathlib.Tactic.Lemma
import TestImpact.Proofs.Joining

/-!
# Texts of paths

The text of a path is read as the path that it was written for, so that different paths have
different texts.
-/

namespace TestImpact.Proofs
open TestImpact.Path

variable {segments : List String} {s : List Char}

lemma eq_of_parts {p q : Path} (hanchor : p.anchor = q.anchor) (hsegments : p.segments = q.segments) :
    p = q := by
  cases p
  cases q
  cases hanchor
  cases hsegments
  rfl

/-! ### Segments -/

lemma segmentsOf_joinText (h : ∀ s ∈ segments, IsSegment s) :
    segmentsOf (Text.joinText "/" segments) = segments := by
  by_cases hne : segments = []
  · subst hne
    rfl
  · have hpieces : pieces (Text.joinText "/" segments) = segments :=
      splitOn_joinText rfl hne fun s hs => (h s hs).2.2
    rw [segmentsOf, hpieces, List.filter_eq_self]
    intro s hs
    simpa using h s hs

lemma segmentsOf_slash (s : String) : segmentsOf ("/" ++ s) = segmentsOf s := by
  have hpieces : pieces ("/" ++ s) = "" :: pieces s := by
    rw [pieces, String.toList_append]
    change (Text.splitOn '/' ([] ++ '/' :: s.toList)).map String.ofList = _
    rw [splitOn_append_sep]
    rfl
  rw [segmentsOf, segmentsOf, hpieces, List.filter_cons_of_neg]
  decide

/-! ### Anchors -/

lemma ne_of_head? {c d : Char} (h : (c :: s).head? ≠ some d) : c ≠ d := by
  rintro rfl
  exact h rfl

lemma anchorOf_eq_relative (h : s.head? ≠ some '/') : anchorOf s = .relative := by
  cases s with
  | nil => rfl
  | cons c s =>
    have hc := ne_of_head? h
    unfold anchorOf
    split <;> simp_all

lemma anchorOf_slash (h : s.head? ≠ some '/') : anchorOf ('/' :: s) = .root := by
  cases s with
  | nil => rfl
  | cons c s =>
    have hc := ne_of_head? h
    unfold anchorOf
    split <;> simp_all

lemma anchorOf_slashes (h : s.head? ≠ some '/') : anchorOf ('/' :: '/' :: s) = .doubleRoot := by
  cases s with
  | nil => rfl
  | cons c s =>
    have hc := ne_of_head? h
    exact if_neg hc

/-- Joined segments do not start with a slash. -/
lemma head?_joinText (h : ∀ s ∈ segments, IsSegment s) :
    (Text.joinText "/" segments).toList.head? ≠ some '/' := by
  cases segments with
  | nil => simp [Text.joinText]
  | cons first rest =>
    obtain ⟨hempty, -, hslash⟩ := h first (by simp)
    obtain ⟨tail, hlead⟩ := toList_joinText_cons "/" first rest
    cases hfirst : first.toList with
    | nil => exact absurd (String.toList_eq_nil_iff.mp hfirst) hempty
    | cons c s =>
      rw [hlead, hfirst]
      intro hhead
      obtain rfl := Option.some.inj hhead
      exact hslash (by simp [hfirst])

/-! ### Paths -/

/-- Joined segments are read as a relative path. -/
lemma ofText_joinText (h : ∀ s ∈ segments, IsSegment s) :
    ofText (Text.joinText "/" segments) = ⟨.relative, segments, h⟩ :=
  eq_of_parts (anchorOf_eq_relative (head?_joinText h)) (segmentsOf_joinText h)

lemma ofText_dot : ofText "." = here := by
  apply eq_of_parts
  · rfl
  · decide +kernel

/-- Reading the text of a path gives the path. -/
theorem ofText_toText (p : Path) : ofText p.toText = p := by
  have hhead := head?_joinText p.valid
  have hread := segmentsOf_joinText p.valid
  by_cases hhere : p.anchor = .relative ∧ p.segments = []
  · rw [toText, if_pos hhere, ofText_dot]
    exact eq_of_parts hhere.1.symm hhere.2.symm
  · rw [toText, if_neg hhere]
    cases hanchor : p.anchor with
    | relative =>
      have htext : Anchor.toText .relative ++ Text.joinText "/" p.segments =
          Text.joinText "/" p.segments := String.empty_append
      rw [htext, ofText_joinText p.valid]
      exact eq_of_parts hanchor.symm rfl
    | root =>
      apply eq_of_parts
      · change anchorOf (Anchor.toText .root ++ Text.joinText "/" p.segments).toList = p.anchor
        rw [String.toList_append, hanchor]
        exact anchorOf_slash hhead
      · exact (segmentsOf_slash _).trans hread
    | doubleRoot =>
      apply eq_of_parts
      · change anchorOf (Anchor.toText .doubleRoot ++ Text.joinText "/" p.segments).toList = p.anchor
        rw [String.toList_append, hanchor]
        exact anchorOf_slashes hhead
      · have htext : Anchor.toText .doubleRoot ++ Text.joinText "/" p.segments =
            "/" ++ ("/" ++ Text.joinText "/" p.segments) := by
          rw [← String.append_assoc]
          rfl
        change segmentsOf (Anchor.toText .doubleRoot ++ Text.joinText "/" p.segments) = _
        rw [htext, segmentsOf_slash, segmentsOf_slash, hread]

lemma toText_injective : Function.Injective toText :=
  Function.LeftInverse.injective ofText_toText

lemma toText_ne_empty (p : Path) : p.toText ≠ "" := by
  intro hempty
  have hp : p = ofText "" := by rw [← hempty, ofText_toText]
  rw [hp] at hempty
  exact absurd hempty (by decide +kernel)

end TestImpact.Proofs
