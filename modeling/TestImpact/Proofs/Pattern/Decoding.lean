import TestImpact.Proofs.Pattern.Normal
import TestImpact.Proofs.Reading

/-!
# Globs read back from expressions

The expression of a class pattern has one factor for each token of the glob, and no two tokens become
the same factor. So the glob is read back from the expression alone, and different class patterns
never share an expression.
-/

namespace TestImpact.Proofs
open Pattern

/-- The text of a token in a glob. -/
def globText : Token → List Char
  | .anyRun => ['*', '*']
  | .nameRun => ['*']
  | .nameChar => ['?']
  | .literal c => [c]

/-- The token that becomes a factor, if there is one. -/
def tokenOf? : Factor → Option Token
  | .many .notLineFeed => some .anyRun
  | .many .notDot => some .nameRun
  | .one .notDot => some .nameChar
  | .one (.char c) => some (.literal c)
  | .many (.char _) | .one .notLineFeed => none

/-- The glob that an expression was made from. -/
def globOf? (regex : String) : Option String := do
  let factors ← Regex.read? regex.toList
  let ts ← factors.mapM tokenOf?
  some (String.ofList (ts.flatMap globText))

lemma flatMap_globText_tokens (glob : List Char) : (tokens glob).flatMap globText = glob := by
  fun_induction tokens glob with
  | case1 => rfl
  | case2 r ih => simp [globText, ih]
  | case3 r _ ih => simp [globText, ih]
  | case4 r ih => simp [globText, ih]
  | case5 c r _ _ _ ih => simp [globText, ih]

lemma tokenOf?_factor (t : Token) : tokenOf? t.factor = some t := by
  cases t <;> rfl

lemma mapM_tokenOf?_factors (ts : List Token) : (ts.map Token.factor).mapM tokenOf? = some ts := by
  induction ts with
  | nil => rfl
  | cons t ts ih =>
    rw [List.map_cons, List.mapM_cons, tokenOf?_factor, ih]
    rfl

lemma globOf?_regexOf (glob : List Char) :
    globOf? (String.ofList (ClassPattern.regexOf glob)) = some (String.ofList glob) := by
  simp only [globOf?, String.toList_ofList, ClassPattern.regexOf, read?_write,
    mapM_tokenOf?_factors, Option.bind_eq_bind, Option.bind_some, flatMap_globText_tokens]

lemma globOf?_of_normalize {pattern : String} {p : ClassPattern}
    (h : ClassPattern.normalize pattern = .ok p) : globOf? p.regex = some p.glob := by
  obtain ⟨-, rfl⟩ := normalize_eq_ok h
  exact globOf?_regexOf _

lemma regex_of_glob {pattern : String} {p : ClassPattern}
    (h : ClassPattern.normalize pattern = .ok p) :
    p.regex = String.ofList (ClassPattern.regexOf p.glob.toList) := by
  obtain ⟨-, rfl⟩ := normalize_eq_ok h
  rw [String.toList_ofList]

lemma includeRegexes_of_none {cwd : Path} {s : Selection} {args : List String}
    (hnone : s.filter.includeClasses = []) (h : Arguments.build cwd s = .ok args) :
    ∃ told, instructions? args = some told ∧ told.includeRegexes = [".*"] := by
  obtain ⟨told, htold, rfl⟩ := build_eq_ok h
  refine ⟨told, instructions?_items told, ?_⟩
  obtain ⟨includes, -, htold⟩ := bind_eq_ok.mp htold
  obtain ⟨excludes, -, htold⟩ := bind_eq_ok.mp htold
  obtain rfl := Except.ok.inj htold
  exact if_pos hnone

/-- The glob of a class pattern is read back from its expression, so class patterns with the same
expression are the same. The expression that a selection without class patterns tells the executor,
the one that matches everything, is that of the double star alone. -/
theorem glob_read_back (pattern : String) (p : ClassPattern)
    (h : ClassPattern.normalize pattern = .ok p) :
    globOf? p.regex = some p.glob ∧
      (∀ (other : String) (q : ClassPattern), ClassPattern.normalize other = .ok q →
        q.regex = p.regex → q = p) ∧
      (p.regex = ".*" ↔ p.glob = "**") ∧
      ∀ (cwd : Path) (s : Selection) (args : List String), s.filter.includeClasses = [] →
        Arguments.build cwd s = .ok args →
        ∃ told, instructions? args = some told ∧ told.includeRegexes = [".*"] := by
  have hread := globOf?_of_normalize h
  refine ⟨hread, fun other q hq hregex => ?_, ⟨fun hall => ?_, fun hstars => ?_⟩,
    fun cwd s args hnone hbuild => includeRegexes_of_none hnone hbuild⟩
  · have hglob : q.glob = p.glob := by
      have hread' := globOf?_of_normalize hq
      rw [hregex, hread] at hread'
      exact (Option.some.inj hread').symm
    obtain ⟨glob, regex⟩ := p
    obtain ⟨glob', regex'⟩ := q
    obtain rfl : glob' = glob := hglob
    obtain rfl : regex' = regex := hregex
    rfl
  · have hstars : globOf? ".*" = some "**" := by decide +kernel
    rw [hall, hstars] at hread
    exact (Option.some.inj hread).symm
  · rw [regex_of_glob h, hstars]
    rfl

/-- Stars, dots and question marks that stand for themselves in an expression are told from those that
are signs. -/
theorem sample_glob_read_back :
    ∃ p, ClassPattern.normalize "**/a.*^?-*.b$.class" = .ok p ∧
      p.regex = ".*a\\.[^.]*\\^[^.]\\-[^.]*\\.b\\$" ∧ globOf? p.regex = some "**a.*^?-*.b$" ∧
      p.regex ≠ ".*" := by
  have hnormal : ClassPattern.normalize "**/a.*^?-*.b$.class" =
      .ok ⟨"**a.*^?-*.b$", ".*a\\.[^.]*\\^[^.]\\-[^.]*\\.b\\$"⟩ := by rfl
  obtain ⟨hread, -, hall, -⟩ := glob_read_back _ _ hnormal
  exact ⟨_, hnormal, rfl, hread, fun he => absurd (hall.mp he) (by decide)⟩

end TestImpact.Proofs
