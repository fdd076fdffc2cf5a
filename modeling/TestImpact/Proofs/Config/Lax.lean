import TestImpact.Config.Lax
import TestImpact.Proofs.Config.Checks

/-!
# Near values and the laws

The lax checks of single values keep what a library that checks values promises: a value of the type
itself is taken as it is, and every other one is taken or refused with an issue.
-/

namespace TestImpact.Proofs
open Config

variable {α : Type} {check : Data → Checked α}

/-- A check without faults reports. -/
lemma reports_of_ends (h : ∀ value, EndsAs (check value) none) : Reports check := by
  intro value
  have hvalue := h value
  cases hcase : check value with
  | ok a => exact .inl ⟨a, rfl⟩
  | refused issues =>
    rw [hcase] at hvalue
    obtain ⟨issue, more, rfl⟩ := List.exists_cons_of_ne_nil hvalue.1
    exact .inr ⟨issue, more, rfl⟩
  | fault f =>
    rw [hcase] at hvalue
    cases hvalue

lemma lax_text_ends (value : Data) : EndsAs (Lax.text value) none := by
  cases value with
  | text s => exact .ok s
  | bytes b =>
    rw [Lax.text]
    cases Text.decode b with
    | ok s => exact .ok s
    | error d => exact .refuse _ _
  | _ => exact .refuse _ _

lemma intInText_ends (value : Data) (s : String) : EndsAs (Lax.intInText value s) none := by
  unfold Lax.intInText
  cases intOfText s with
  | ok n => exact .ok n
  | error kind => exact .refuse kind value

lemma lax_int_ends (value : Data) : EndsAs (Lax.int value) none := by
  cases value with
  | int n => exact .ok n
  | bool b => exact .ok _
  | float x =>
    rw [Lax.int]
    split
    · exact .refuse _ _
    · cases x.toInt? with
      | none => exact .refuse _ _
      | some n =>
        dsimp only
        split
        · exact .ok n
        · exact .refuse _ _
  | text s => exact intInText_ends _ s
  | bytes b =>
    rw [Lax.int]
    cases Text.decode b with
    | ok s => exact intInText_ends _ s
    | error d => exact .refuse _ _
  | _ => exact .refuse _ _

lemma boolOfText_ends (value : Data) (s : String) : EndsAs (Lax.boolOfText value s) none := by
  unfold Lax.boolOfText
  split
  · exact .ok true
  · split
    · exact .ok false
    · exact .refuse _ _

lemma boolOfInt_ends (value : Data) (near : Bool) (n : Int) :
    EndsAs (Lax.boolOfInt value near n) none := by
  unfold Lax.boolOfInt
  split
  · exact .ok true
  · split
    · exact .ok false
    · split
      · exact .refuse _ _
      · exact .refuse _ _

lemma lax_bool_ends (value : Data) : EndsAs (Lax.bool value) none := by
  cases value with
  | bool b => exact .ok b
  | int n => exact boolOfInt_ends _ _ n
  | float x =>
    rw [Lax.bool]
    cases x.toInt? with
    | none => exact .refuse _ _
    | some n => exact boolOfInt_ends _ _ n
  | text s => exact boolOfText_ends _ s
  | bytes b =>
    rw [Lax.bool]
    cases Text.decode b with
    | ok s => exact boolOfText_ends _ s
    | error d => exact .refuse _ _
  | _ => exact .refuse _ _

lemma lax_path_ends (value : Data) : EndsAs (Lax.path value) none := by
  cases value with
  | path p => exact .ok p
  | text s => exact .ok _
  | _ => exact .refuse _ _

lemma lax_word_ends (words : List String) (value : Data) : EndsAs (Lax.word words value) none := by
  cases value with
  | text s =>
    unfold Lax.word
    dsimp only
    split
    · exact .ok s
    · exact .refuse _ _
  | _ => exact .refuse _ _

lemma lax_items_end (value : Data) : EndsAs (Lax.items value) none := by
  unfold Lax.items
  generalize value.untie = opened
  cases opened with
  | list items => exact .ok items
  | tuple items => exact .ok items
  | set items => exact .ok items
  | _ => exact .refuse _ _

lemma entriesOr_ends (issue : IssueKind) (value : Data) :
    EndsAs (Lax.entriesOr issue value) none := by
  unfold Lax.entriesOr
  generalize value.untie = opened
  cases opened with
  | map entries => exact .ok entries
  | _ => exact .refuse _ _

/-- The lax checks keep the laws, whatever the values are. -/
lemma lax_laws : Library.lax.Laws where
  text_text _ := rfl
  int_int _ := rfl
  bool_bool _ := rfl
  path_path _ := rfl
  items_list _ := rfl
  entries_map _ := rfl
  fields_map _ _ := rfl
  word_text _ _ hs := if_pos (List.contains_iff_mem.mpr hs)
  text_reports := reports_of_ends lax_text_ends
  int_reports := reports_of_ends lax_int_ends
  bool_reports := reports_of_ends lax_bool_ends
  path_reports := reports_of_ends lax_path_ends
  word_reports words := reports_of_ends (lax_word_ends words)
  items_report := reports_of_ends lax_items_end
  entries_report := reports_of_ends (entriesOr_ends _)
  fields_report _ := reports_of_ends (entriesOr_ends _)
  dump_eq _ := rfl

end TestImpact.Proofs
