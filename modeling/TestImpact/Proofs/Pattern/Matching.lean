import Mathlib.Tactic.Lemma
import TestImpact.Pattern.Basic

/-!
# What class patterns match

`Selects` states by rules which names a dotted glob stands for. The expression of a class pattern is
written so that reading its text gives one factor for each token of the glob, and it matches exactly
the names that the glob stands for.
-/

namespace TestImpact.Proofs
open Pattern

/-- The names that a dotted glob stands for, read from left to right. -/
inductive Selects : List Char → List Char → Prop
  | done : Selects [] []
  | anyRun {run glob name : List Char} : '\n' ∉ run → Selects glob name →
      Selects ('*' :: '*' :: glob) (run ++ name)
  | nameRun {run glob name : List Char} : glob.head? ≠ some '*' → '.' ∉ run → Selects glob name →
      Selects ('*' :: glob) (run ++ name)
  | nameChar {c : Char} {glob name : List Char} : c ≠ '.' → Selects glob name →
      Selects ('?' :: glob) (c :: name)
  | literal {c : Char} {glob name : List Char} : c ≠ '*' → c ≠ '?' → Selects glob name →
      Selects (c :: glob) (c :: name)

variable {accepts : Char → Bool} {next : List Char → Bool} {glob name s : List Char} {c : Char}

/-! ### Runs and single characters -/

lemma runThen_iff : Token.runThen accepts next s = true ↔
    ∃ run rest, s = run ++ rest ∧ (∀ c ∈ run, accepts c = true) ∧ next rest = true := by
  induction s with
  | nil =>
    rw [Token.runThen]
    constructor
    · exact fun h => ⟨[], [], rfl, by simp, h⟩
    · rintro ⟨run, rest, hs, -, h⟩
      rwa [(List.append_eq_nil_iff.mp hs.symm).2] at h
  | cons c s ih =>
    rw [Token.runThen, Bool.or_eq_true, Bool.and_eq_true, ih]
    constructor
    · rintro (h | ⟨hc, run, rest, rfl, hrun, h⟩)
      · exact ⟨[], c :: s, rfl, by simp, h⟩
      · exact ⟨c :: run, rest, rfl, List.forall_mem_cons.mpr ⟨hc, hrun⟩, h⟩
    · rintro ⟨run, rest, hs, hrun, h⟩
      cases run with
      | nil =>
        rw [List.nil_append] at hs
        exact .inl (hs ▸ h)
      | cons d run =>
        obtain ⟨rfl, rfl⟩ := List.cons.inj hs
        obtain ⟨hd, hrun⟩ := List.forall_mem_cons.mp hrun
        exact .inr ⟨hd, run, rest, rfl, hrun, h⟩

/-- A run of characters other than one. -/
lemma runThen_ne_iff : Token.runThen (· != c) next s = true ↔
    ∃ run rest, s = run ++ rest ∧ c ∉ run ∧ next rest = true := by
  have hrun : ∀ run : List Char, (∀ d ∈ run, (d != c) = true) ↔ c ∉ run := fun run =>
    ⟨fun h hc => by simpa using h c hc, fun h d hd => by
      rw [bne_iff_ne]
      exact fun he => h (he ▸ hd)⟩
  simp only [runThen_iff, hrun]

lemma oneThen_iff : Token.oneThen accepts next s = true ↔
    ∃ c rest, s = c :: rest ∧ accepts c = true ∧ next rest = true := by
  cases s with
  | nil => simp [Token.oneThen]
  | cons c s =>
    rw [Token.oneThen, Bool.and_eq_true]
    constructor
    · exact fun ⟨hc, h⟩ => ⟨c, s, rfl, hc, h⟩
    · rintro ⟨d, rest, hs, hd, h⟩
      obtain ⟨rfl, rfl⟩ := List.cons.inj hs
      exact ⟨hd, h⟩

/-! ### Tokens and the language of a glob -/

attribute [local simp] tokens

lemma head?_ne_star (h : ∀ rest, glob = '*' :: rest → False) : glob.head? ≠ some '*' := by
  intro he
  obtain ⟨rest, rfl⟩ := List.head?_eq_some_iff.mp he
  exact h rest rfl

lemma tokens_nameRun (h : glob.head? ≠ some '*') :
    tokens ('*' :: glob) = .nameRun :: tokens glob := by
  cases glob with
  | nil => rfl
  | cons c r =>
    have hc : c ≠ '*' := fun he => h (by rw [he]; rfl)
    rw [tokens]
    exact fun r' he => hc (List.cons.inj he).1

lemma tokens_literal (hstar : c ≠ '*') (hmark : c ≠ '?') :
    tokens (c :: glob) = .literal c :: tokens glob := by
  rw [tokens]
  · exact fun _ he => absurd he hstar
  · exact hstar
  · exact hmark

lemma selects_of_selects_tokens (h : Token.selects (tokens glob) name = true) :
    Selects glob name := by
  induction glob using tokens.induct generalizing name with
  | case1 =>
    obtain rfl := List.isEmpty_iff.mp h
    exact .done
  | case2 r ih =>
    rw [tokens, Token.selects, runThen_ne_iff] at h
    obtain ⟨run, rest, rfl, hrun, hrest⟩ := h
    exact .anyRun hrun (ih hrest)
  | case3 r hr ih =>
    have hhead := head?_ne_star hr
    rw [tokens_nameRun hhead, Token.selects, runThen_ne_iff] at h
    obtain ⟨run, rest, rfl, hrun, hrest⟩ := h
    exact .nameRun hhead hrun (ih hrest)
  | case4 r ih =>
    rw [tokens, Token.selects, oneThen_iff] at h
    obtain ⟨c, rest, rfl, hc, hrest⟩ := h
    exact .nameChar (by simpa using hc) (ih hrest)
  | case5 c r _ hstar hmark ih =>
    rw [tokens_literal hstar hmark, Token.selects, oneThen_iff] at h
    obtain ⟨d, rest, rfl, hd, hrest⟩ := h
    obtain rfl : d = c := by simpa using hd
    exact .literal hstar hmark (ih hrest)

lemma selects_tokens_of_selects (h : Selects glob name) :
    Token.selects (tokens glob) name = true := by
  induction h with
  | done => rfl
  | anyRun hrun _ ih =>
    rw [tokens, Token.selects, runThen_ne_iff]
    exact ⟨_, _, rfl, hrun, ih⟩
  | nameRun hhead hrun _ ih =>
    rw [tokens_nameRun hhead, Token.selects, runThen_ne_iff]
    exact ⟨_, _, rfl, hrun, ih⟩
  | nameChar hc _ ih =>
    rw [tokens, Token.selects, oneThen_iff]
    exact ⟨_, _, rfl, by simpa using hc, ih⟩
  | literal hstar hmark _ ih =>
    rw [tokens_literal hstar hmark, Token.selects, oneThen_iff]
    exact ⟨_, _, rfl, by simp, ih⟩

/-- The tokens of a glob select exactly the names that the glob stands for. -/
theorem selects_tokens_iff : Token.selects (tokens glob) name = true ↔ Selects glob name :=
  ⟨selects_of_selects_tokens, selects_tokens_of_selects⟩

/-! ### Reading an expression back -/

/-- What is read for a factor. -/
def lexemes : Factor → List Regex.Lexeme
  | .one a => [.atom a]
  | .many a => [.atom a, .star]

/-- A character that is escaped is one that may be escaped. -/
lemma not_isAlphanum_of_escaped (h : c ∈ Regex.escapedChars) : c.isAlphanum = false := by
  have hall : Regex.escapedChars.all (fun d => !d.isAlphanum) = true := by decide +kernel
  simpa using List.all_eq_true.mp hall c h

lemma lex_writeAtom (a : Atom) (s : List Char) :
    Regex.lex (Regex.writeAtom a ++ s) = (Regex.lex s).map (.atom a :: ·) := by
  cases a with
  | char c =>
    rw [Regex.writeAtom]
    by_cases hc : c ∈ Regex.escapedChars
    · rw [if_pos (List.contains_iff_mem.mpr hc)]
      change Regex.lex ('\\' :: c :: s) = _
      rw [Regex.lex, if_neg (by simp [not_isAlphanum_of_escaped hc])]
    · have hne : ∀ d ∈ Regex.escapedChars, c ≠ d := fun d hd he => hc (he ▸ hd)
      rw [if_neg (by rwa [List.contains_iff_mem])]
      change Regex.lex (c :: s) = _
      rw [Regex.lex, if_neg (by rwa [List.contains_iff_mem])]
      · exact fun _ he => absurd he (hne '[' (by decide +kernel))
      · exact fun _ _ he => absurd he (hne '\\' (by decide +kernel))
      · exact hne '.' (by decide +kernel)
      · exact hne '*' (by decide +kernel)
  | notLineFeed => rfl
  | notDot => rfl

lemma lex_writeFactor (f : Factor) (s : List Char) :
    Regex.lex (Regex.writeFactor f ++ s) = (Regex.lex s).map (lexemes f ++ ·) := by
  cases f with
  | one a => exact lex_writeAtom a s
  | many a =>
    rw [Regex.writeFactor, List.append_assoc, lex_writeAtom]
    change (Regex.lex ('*' :: s)).map _ = _
    rw [Regex.lex, Option.map_map]
    rfl

lemma lex_write (r : Regex) : Regex.lex (Regex.write r) = some (r.flatMap lexemes) := by
  induction r with
  | nil => rfl
  | cons f r ih =>
    rw [Regex.write, List.flatMap_cons, lex_writeFactor]
    change (Regex.lex (Regex.write r)).map _ = _
    rw [ih]
    rfl

lemma factors_lexemes (r : Regex) : Regex.factors (r.flatMap lexemes) = some r := by
  induction r with
  | nil => rfl
  | cons f r ih =>
    cases f with
    | many a =>
      change (Regex.factors (r.flatMap lexemes)).map _ = _
      rw [ih]
      rfl
    | one a =>
      change Regex.factors (.atom a :: r.flatMap lexemes) = _
      -- The next factor starts with an atom, so that no sign for any number of times follows.
      have hatom : ∀ rest, r.flatMap lexemes ≠ .star :: rest := by
        intro rest he
        cases r with
        | nil => simp at he
        | cons g r => cases g <;> simp [lexemes] at he
      rw [Regex.factors, ih]
      · rfl
      · exact hatom

/-- Reading gives back the expression that was written: what stands for itself is escaped where it
would be a sign. -/
theorem read?_write (r : Regex) : Regex.read? (Regex.write r) = some r := by
  rw [Regex.read?, lex_write, Option.bind_some, factors_lexemes]

/-- A factor matches what its token stands for. -/
lemma accepts_factors (ts : List Token) :
    Regex.accepts (ts.map Token.factor) = Token.selects ts := by
  induction ts with
  | nil => rfl
  | cons t ts ih =>
    funext s
    cases t <;> simp only [List.map_cons, Token.factor, Regex.accepts, Token.selects, ih] <;> rfl

/-! ### Class patterns -/

lemma normalize_eq_ok {pattern : String} {p : ClassPattern}
    (h : ClassPattern.normalize pattern = .ok p) :
    defect? (dottedChars pattern.toList) = none ∧
      p = ⟨.ofList (dottedChars pattern.toList),
        .ofList (ClassPattern.regexOf (dottedChars pattern.toList))⟩ := by
  unfold ClassPattern.normalize at h
  dsimp only at h
  split at h
  · simp at h
  · rename_i hdefect
    exact ⟨hdefect, (Except.ok.inj h).symm⟩

/-- The expression of a class pattern reads back as one factor for each token of the glob, and it
matches exactly the names that the glob stands for. -/
theorem accepts_iff_glob_selects (pattern : String) (p : ClassPattern)
    (h : ClassPattern.normalize pattern = .ok p) :
    Regex.read? p.regex.toList = some ((tokens p.glob.toList).map Token.factor) ∧
      ∀ name : String, p.accepts name = true ↔ Selects p.glob.toList name.toList := by
  obtain ⟨-, rfl⟩ := normalize_eq_ok h
  have hread : Regex.read? (String.ofList (ClassPattern.regexOf
      (dottedChars pattern.toList))).toList =
        some ((tokens (dottedChars pattern.toList)).map Token.factor) := by
    rw [String.toList_ofList, ClassPattern.regexOf, read?_write]
  simp only [String.toList_ofList] at hread ⊢
  refine ⟨hread, fun name => ?_⟩
  rw [ClassPattern.accepts, String.toList_ofList, hread, ← selects_tokens_iff]
  change Regex.accepts _ _ = true ↔ _
  rw [accepts_factors]

/-- Signs of expressions in a class pattern stand for themselves. -/
theorem sample_pattern_accepts :
    ∃ p, ClassPattern.normalize "com/**/*(a|b)+$?.class" = .ok p ∧
      p.regex = "com.*\\(a\\|b\\)\\+\\$[^.]" ∧
      Selects p.glob.toList "com.x.y(a|b)+$1".toList ∧
      ¬Selects p.glob.toList "com.x.yaa$1".toList := by
  have hnormal : ClassPattern.normalize "com/**/*(a|b)+$?.class" =
      .ok ⟨"com**(a|b)+$?", "com.*\\(a\\|b\\)\\+\\$[^.]"⟩ := by rfl
  refine ⟨_, hnormal, rfl, ?_⟩
  obtain ⟨-, hiff⟩ := accepts_iff_glob_selects _ _ hnormal
  rw [← hiff, ← hiff]
  exact ⟨by decide +kernel, by decide +kernel⟩

end TestImpact.Proofs
