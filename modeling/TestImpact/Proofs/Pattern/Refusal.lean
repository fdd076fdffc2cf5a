import TestImpact.Proofs.Pattern.Normal

/-!
# Texts that are no class patterns

Making a pattern dotted changes separators, dots and stars and drops a class file suffix. All other
characters stay, in their order, so that the text that was given shows whether it is refused and
why.
-/

namespace TestImpact.Proofs
open Pattern

variable {α : Type} {f : Char → Option α} {s glob run : List Char} {c : Char}

/-! ### What a dotted glob keeps -/

lemma filterMap_run (hf : ∀ c, isDotOrStar c = true → f c = none) (h : IsRun run) :
    run.filterMap f = [] :=
  List.filterMap_eq_nil_iff.mpr fun c hc => hf c (h c hc)

lemma filterMap_collapseFrom (hf : ∀ c, isDotOrStar c = true → f c = none) (h : IsRun run)
    (s : List Char) : (collapseFrom run s).filterMap f = s.filterMap f := by
  induction s generalizing run with
  | nil => rw [collapseFrom, filterMap_run hf h.reverse.collapsedRun, List.filterMap_nil]
  | cons c s ih =>
    rw [collapseFrom]
    by_cases hc : isDotOrStar c = true
    · rw [if_pos hc, ih (h.cons hc), List.filterMap_cons_none (hf c hc)]
    · rw [if_neg hc, List.filterMap_append, filterMap_run hf h.reverse.collapsedRun,
        List.nil_append, List.filterMap_cons, List.filterMap_cons, ih .nil]

lemma filterMap_separatorsAsDots (hf : ∀ c, isDotOrStar c = true → f c = none)
    (hsep : ∀ c, isSeparator c = true → f c = none) (s : List Char) :
    (separatorsAsDots s).filterMap f = s.filterMap f := by
  rw [separatorsAsDots, List.filterMap_map]
  congr 1
  funext c
  by_cases hc : isSeparator c = true
  · rw [Function.comp_apply, if_pos hc, hsep c hc]
    exact hf '.' rfl
  · rw [Function.comp_apply, if_neg hc]

lemma filterMap_dropSuffix (hf : ∀ c ∈ suffix, f c = none) (s : List Char) :
    (dropSuffix s).filterMap f = s.filterMap f := by
  have hsuffix : suffix.filterMap f = [] := List.filterMap_eq_nil_iff.mpr hf
  induction s with
  | nil => rfl
  | cons c s ih =>
    rw [dropSuffix]
    by_cases hwhole : c :: s = suffix
    · rw [if_pos hwhole, hwhole, hsuffix, List.filterMap_nil]
    · by_cases hbefore : c :: s = suffix ++ ['\n']
      · rw [if_neg hwhole, if_pos hbefore, hbefore, List.filterMap_append, hsuffix,
          List.nil_append]
      · rw [if_neg hwhole, if_neg hbefore, List.filterMap_cons, List.filterMap_cons, ih]

/-- A reading that passes over dots, stars, separators and the letters of the class file suffix
finds the same in a text and in its dotted glob. -/
lemma filterMap_dottedChars (hf : ∀ c, isDotOrStar c = true → f c = none)
    (hsep : ∀ c, isSeparator c = true → f c = none) (hsuffix : ∀ c ∈ suffix, f c = none)
    (s : List Char) : (dottedChars s).filterMap f = s.filterMap f := by
  rw [dottedChars, collapse, filterMap_collapseFrom hf .nil, filterMap_separatorsAsDots hf hsep,
    filterMap_dropSuffix hsuffix]

lemma charDefect?_of_isDotOrStar (c : Char) (hc : isDotOrStar c = true) : charDefect? c = none := by
  rcases eq_of_isDotOrStar hc with rfl | rfl <;> decide

lemma findSome?_collapse (s : List Char) :
    (collapse s).findSome? charDefect? = s.findSome? charDefect? := by
  rw [← List.head?_filterMap, ← List.head?_filterMap, collapse,
    filterMap_collapseFrom charDefect?_of_isDotOrStar .nil]

/-- The first defect in a text is the first one in its dotted glob. -/
lemma findSome?_dottedChars (s : List Char) :
    (dottedChars s).findSome? charDefect? = s.findSome? charDefect? := by
  have hsep : ∀ c, isSeparator c = true → charDefect? c = none := by
    intro c hc
    rcases (by simpa [isSeparator] using hc : c = '/' ∨ c = '\\') with rfl | rfl <;> decide
  have hsuffix : ∀ c ∈ suffix, charDefect? c = none := List.findSome?_eq_none_iff.mp (by rfl)
  rw [← List.head?_filterMap, ← List.head?_filterMap,
    filterMap_dottedChars charDefect?_of_isDotOrStar hsep hsuffix]

/-! ### What a dotted glob leaves over -/

lemma collapsedRun_eq_nil_iff : collapsedRun run = [] ↔ run = [] := by
  by_cases h : hasDoubleStar run = true
  · have hrun : run ≠ [] := by
      rintro rfl
      simp [hasDoubleStar] at h
    simp [collapsedRun, h, hrun]
  · rw [collapsedRun, if_neg h]

lemma collapseFrom_eq_nil_iff : collapseFrom run s = [] ↔ run = [] ∧ s = [] := by
  induction s generalizing run with
  | nil => simp [collapseFrom, collapsedRun_eq_nil_iff]
  | cons c s ih =>
    rw [collapseFrom]
    by_cases hc : isDotOrStar c = true
    · rw [if_pos hc, ih]
      simp
    · rw [if_neg hc]
      simp

lemma dropSuffix_eq_nil_iff : dropSuffix s = [] ↔ s = [] ∨ s = suffix := by
  cases s with
  | nil => simp [dropSuffix]
  | cons c s =>
    rw [dropSuffix]
    by_cases hwhole : c :: s = suffix
    · simp [hwhole]
    · by_cases hbefore : c :: s = suffix ++ ['\n']
      · simp [if_pos hbefore, hwhole]
      · simp [if_neg hbefore, hwhole]

/-- Nothing is left of a text that is empty or the class file suffix alone. -/
lemma dottedChars_eq_nil_iff : dottedChars s = [] ↔ s = [] ∨ s = suffix := by
  rw [dottedChars, collapse, collapseFrom_eq_nil_iff, separatorsAsDots, List.map_eq_nil_iff,
    dropSuffix_eq_nil_iff]
  exact and_iff_right rfl

/-- Collapsing does not decide whether a glob is refused. -/
lemma defect?_collapse (s : List Char) : defect? (collapse s) = defect? s := by
  have hempty : collapse s = [] ↔ s = [] := by
    rw [collapse, collapseFrom_eq_nil_iff]
    exact and_iff_right rfl
  rw [defect?, defect?, findSome?_tokens, findSome?_tokens, findSome?_collapse]
  simp only [List.isEmpty_iff, hempty]

lemma regexOf_ne_nil (h : glob ≠ []) : ClassPattern.regexOf glob ≠ [] := by
  have htokens : tokens glob ≠ [] := by
    fun_induction tokens glob with
    | case1 => exact absurd rfl h
    | case2 | case3 | case4 | case5 => simp
  obtain ⟨t, ts, hts⟩ := List.exists_cons_of_ne_nil htokens
  have hatom : ∀ a, Regex.writeAtom a ≠ [] := by
    intro a
    cases a with
    | char c =>
      rw [Regex.writeAtom]
      split <;> simp
    | notLineFeed => simp [Regex.writeAtom]
    | notDot => simp [Regex.writeAtom]
  have hfactor : Regex.writeFactor t.factor ≠ [] := by
    cases t <;> simp [Token.factor, Regex.writeFactor, hatom]
  rw [ClassPattern.regexOf, hts, List.map_cons, Regex.write, List.flatMap_cons]
  exact fun hnone => hfactor (List.append_eq_nil_iff.mp hnone).1

/-! ### Refused texts -/

/-- The characters that no class pattern may hold: brackets, braces and blanks. -/
def isForbidden (c : Char) : Bool :=
  c = '[' || c = ']' || c = '\x7b' || c = '\x7d' || Text.isBlank c

/-- A text that is no class pattern: it is empty, nothing but the class file suffix, or holds a
forbidden character. -/
def IsRefused (pattern : String) : Prop :=
  pattern = "" ∨ pattern = ".class" ∨ ∃ c ∈ pattern.toList, isForbidden c = true

instance (pattern : String) : Decidable (IsRefused pattern) :=
  decidable_of_iff (pattern = "" ∨ pattern = ".class" ∨ pattern.toList.any isForbidden = true)
    (by rw [List.any_eq_true, IsRefused])

/-- Why a text is refused: for the first forbidden character in it, or for being empty if it has
none. -/
def complaint (pattern : String) : String :=
  match pattern.toList.find? isForbidden with
  | some c =>
    if Text.isBlank c then "class patterns cannot contain whitespace"
    else "unsupported construct '" ++ String.ofList [c] ++ "'"
  | none => "pattern is empty"

/-- The defect of a character that is forbidden. -/
def defectOf (c : Char) : Defect := if Text.isBlank c then .blank else .bracket c

lemma charDefect?_eq (c : Char) :
    charDefect? c = if isForbidden c then some (defectOf c) else none := by
  have hblank : ∀ d, isBracket d = true → Text.isBlank d = false := by
    intro d hd
    have hcases : d = '[' ∨ d = ']' ∨ d = '\x7b' ∨ d = '\x7d' := by
      simpa [isBracket, or_assoc] using hd
    rcases hcases with rfl | rfl | rfl | rfl <;> decide
  have hforbidden : isForbidden c = (isBracket c || Text.isBlank c) := rfl
  rw [hforbidden, charDefect?, defectOf]
  by_cases hc : isBracket c = true
  · simp [hc, hblank c hc]
  · by_cases hb : Text.isBlank c = true
    · simp [hc, hb]
    · simp [hc, hb]

lemma findSome?_charDefect? (s : List Char) :
    s.findSome? charDefect? = (s.find? isForbidden).map defectOf := by
  induction s with
  | nil => rfl
  | cons c s ih =>
    rw [List.findSome?_cons, List.find?_cons, charDefect?_eq]
    by_cases hc : isForbidden c = true
    · simp [hc]
    · simp [hc, ih]

/-- What is wrong with the dotted glob of a text, read off the text. -/
lemma defect?_dottedChars (pattern : String) : defect? (dottedChars pattern.toList) =
    if pattern = "" ∨ pattern = ".class" then some .empty
    else (pattern.toList.find? isForbidden).map defectOf := by
  by_cases h : pattern = "" ∨ pattern = ".class"
  · rw [if_pos h]
    rcases h with rfl | rfl <;> rfl
  · have hleft : dottedChars pattern.toList ≠ [] := fun hnone =>
      h ((dottedChars_eq_nil_iff.mp hnone).imp String.toList_eq_nil_iff.mp String.toList_inj.mp)
    rw [if_neg h, defect?, if_neg (by simpa using hleft), findSome?_tokens, findSome?_dottedChars,
      findSome?_charDefect?]

lemma isRefused_iff (pattern : String) :
    IsRefused pattern ↔ defect? (dottedChars pattern.toList) ≠ none := by
  rw [defect?_dottedChars, IsRefused, ← or_assoc]
  by_cases h : pattern = "" ∨ pattern = ".class"
  · simp [h]
  · simp [h]

lemma reason_eq_complaint {pattern : String} {d : Defect}
    (h : defect? (dottedChars pattern.toList) = some d) : d.reason = complaint pattern := by
  rw [defect?_dottedChars] at h
  by_cases hempty : pattern = "" ∨ pattern = ".class"
  · rw [if_pos hempty] at h
    obtain rfl := Option.some.inj h
    have hnone : pattern.toList.find? isForbidden = none := by
      rcases hempty with rfl | rfl <;> rfl
    rw [complaint, hnone]
    rfl
  · rw [if_neg hempty] at h
    obtain ⟨c, hc, rfl⟩ := Option.map_eq_some_iff.mp h
    rw [complaint, hc, defectOf]
    dsimp only
    by_cases hblank : Text.isBlank c = true
    · rw [if_pos hblank, if_pos hblank]
      rfl
    · rw [if_neg hblank, if_neg hblank]
      rfl

/-- A text is refused exactly if it is empty, nothing but the class file suffix, or holds a bracket,
a brace or a blank. The error is one about a class pattern; it shows the text as it was given and
the first of these characters in it, or that it is empty. Every other text becomes a class pattern,
with an expression that is not empty. -/
theorem refused_iff (pattern : String) :
    ((∃ e, ClassPattern.normalize pattern = .error e ∧ e.family = .pattern ∧
      e.cause.details = [("pattern", .text pattern), ("reason", .text (complaint pattern))]) ↔
        IsRefused pattern) ∧
    ((∃ p, ClassPattern.normalize pattern = .ok p ∧ p.regex ≠ "") ↔ ¬IsRefused pattern) := by
  rw [isRefused_iff]
  cases hdefect : defect? (dottedChars pattern.toList) with
  | none =>
    have hnormal := normalize_of_defect?_eq_none rfl hdefect
    have hglob := (defect?_eq_none_iff.mp hdefect).1
    refine ⟨by simp [hnormal], fun _ hnone => hnone rfl, fun _ => ⟨_, hnormal, fun hempty => ?_⟩⟩
    exact regexOf_ne_nil hglob (String.ofList_eq_empty_iff.mp hempty)
  | some d =>
    have hrefused : ClassPattern.normalize pattern =
        .error (.of (.invalidPattern pattern (complaint pattern))) := by
      rw [← reason_eq_complaint hdefect]
      unfold ClassPattern.normalize
      dsimp only
      rw [hdefect]
    refine ⟨⟨fun _ => by simp, fun _ => ⟨_, hrefused, rfl, rfl⟩⟩, by simp [hrefused]⟩

example : IsRefused "com/[Foo Bar].class" := by decide
example : complaint "com/[Foo Bar].class" = "unsupported construct '['" := by rfl

end TestImpact.Proofs
