import Mathlib.Data.List.Forall2
import TestImpact.Proofs.Pattern.Normal

/-!
# Spellings of a class pattern

A class is selected by its dotted name, by the path of its source or by the path of its class file.
All these spellings are normalized alike.
-/

namespace TestImpact.Proofs
open Pattern

/-- Characters that stand between the segments of a class pattern. -/
def isDivider (c : Char) : Bool := c = '.' || c = '/' || c = '\\'

/-- One text is the other with some of its dividers replaced by dividers. -/
def SameSpelling : List Char → List Char → Prop :=
  List.Forall₂ fun c d => c = d ∨ isDivider c = true ∧ isDivider d = true

/-- A text without the class file suffix at its end, also before a line feed that ends it. -/
def IsBare (s : List Char) : Prop := ¬suffix <:+ s ∧ ¬suffix ++ ['\n'] <:+ s

variable {s s' : List Char}

instance : Decidable (SameSpelling s s') := inferInstanceAs (Decidable (List.Forall₂ _ s s'))

instance : Decidable (IsBare s) := inferInstanceAs (Decidable (_ ∧ _))

lemma separatorsAsDots_of_sameSpelling (h : SameSpelling s s') :
    separatorsAsDots s = separatorsAsDots s' := by
  have hdot : ∀ c, isDivider c = true → (if isSeparator c then '.' else c) = '.' := by
    intro c hc
    rcases (by simpa [isDivider, or_assoc] using hc : c = '.' ∨ c = '/' ∨ c = '\\') with
      rfl | rfl | rfl <;> rfl
  induction h with
  | nil => rfl
  | cons hchar _ ih =>
    refine congrArg₂ List.cons ?_ ih
    rcases hchar with rfl | ⟨hc, hd⟩
    · rfl
    · exact (hdot _ hc).trans (hdot _ hd).symm

lemma dottedChars_of_bare (h : IsBare s) : dottedChars s = collapse (separatorsAsDots s) := by
  rw [dottedChars, dropSuffix_eq_self h.1 h.2]

lemma dottedChars_append_suffix (s : List Char) :
    dottedChars (s ++ suffix) = collapse (separatorsAsDots s) := by
  rw [dottedChars, dropSuffix_append]

/-- What becomes of a text is decided by its dotted glob, but for the text that an error shows. -/
lemma normalize_of_dottedChars (glob : List Char) {texts : List String}
    (h : ∀ text ∈ texts, dottedChars text.toList = glob) :
    (∃ p, ∀ text ∈ texts, ClassPattern.normalize text = .ok p) ∨
      ∃ reason, ∀ text ∈ texts,
        ClassPattern.normalize text = .error (.of (.invalidPattern text reason)) := by
  cases hdefect : defect? glob with
  | none => exact .inl ⟨_, fun text htext => normalize_of_defect?_eq_none (h text htext) hdefect⟩
  | some d =>
    refine .inr ⟨d.reason, fun text htext => ?_⟩
    unfold ClassPattern.normalize
    dsimp only
    rw [h text htext, hdefect]

/-- A text without the class file suffix, the same text with other dividers, and that one with the
suffix become the same class pattern, or all three are refused for the same reason. -/
theorem spellings_normalize_alike (dotted spelled : String) (hdotted : IsBare dotted.toList)
    (hspelled : IsBare spelled.toList) (h : SameSpelling dotted.toList spelled.toList) :
    (∃ p, ∀ text ∈ [dotted, spelled, spelled ++ ".class"], ClassPattern.normalize text = .ok p) ∨
      ∃ reason, ∀ text ∈ [dotted, spelled, spelled ++ ".class"],
        ClassPattern.normalize text = .error (.of (.invalidPattern text reason)) := by
  have hsuffixed : (spelled ++ ".class").toList = spelled.toList ++ suffix := String.toList_append
  refine normalize_of_dottedChars (collapse (separatorsAsDots dotted.toList)) fun text htext => ?_
  simp only [List.mem_cons, List.not_mem_nil, or_false] at htext
  rcases htext with rfl | rfl | rfl
  · exact dottedChars_of_bare hdotted
  · rw [dottedChars_of_bare hspelled, separatorsAsDots_of_sameSpelling h]
  · rw [hsuffixed, dottedChars_append_suffix, separatorsAsDots_of_sameSpelling h]

/-- The path of a class file, with both separators, and the dotted name of the class. -/
theorem sample_spellings_alike :
    ∃ p, ClassPattern.normalize "com.example.**.*Test" = .ok p ∧
      ClassPattern.normalize "com/example\\**/*Test" = .ok p ∧
      ClassPattern.normalize "com/example\\**/*Test.class" = .ok p ∧
      p.glob = "com.example**Test" := by
  have hnormal : ClassPattern.normalize "com.example.**.*Test" =
      .ok ⟨"com.example**Test", "com\\.example.*Test"⟩ := by rfl
  rcases spellings_normalize_alike "com.example.**.*Test" "com/example\\**/*Test"
    (by decide) (by decide) (by decide) with ⟨p, hp⟩ | ⟨reason, hreason⟩
  · have hglob : p = ⟨"com.example**Test", "com\\.example.*Test"⟩ :=
      Except.ok.inj ((hp _ (by simp)).symm.trans hnormal)
    exact ⟨p, hp _ (by simp), hp _ (by simp), hp _ (by simp), by rw [hglob]⟩
  · have hrefused := hreason "com.example.**.*Test" (by simp)
    rw [hnormal] at hrefused
    cases hrefused

end TestImpact.Proofs
