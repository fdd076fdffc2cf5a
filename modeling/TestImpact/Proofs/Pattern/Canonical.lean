import TestImpact.Proofs.Pattern.Refusal
import TestImpact.Proofs.Pattern.Spelling

/-!
# Canonical globs

A dotted glob holds no separators, and a double star in it stands apart from dots and stars. All other
characters of the text that it was made from are in it, in their order. Made dotted once more, a glob
loses a class file suffix that the first time has left, and nothing else.
-/

namespace TestImpact.Proofs
open Pattern

variable {s g run word : List Char} {c : Char}

/-! ### Double stars -/

/-- Neither a dot nor a star stands directly before or behind a double star. -/
def DoubleStarsApart (glob : List Char) : Prop :=
  ∀ c, isDotOrStar c = true → ¬[c, '*', '*'] <:+: glob ∧ ¬['*', '*', c] <:+: glob

lemma prefix_of_run (run : List Char) (hword : IsRun word) (hc : isDotOrStar c = false)
    (h : word <+: run ++ c :: s) : word <+: run := by
  have hborder : run ++ [c] <+: run ++ c :: s := ⟨s, by simp⟩
  rcases List.prefix_or_prefix_of_prefix h hborder with hshort | hlong
  · rcases List.prefix_concat_iff.mp hshort with rfl | hrun
    · simp [hword c (by simp)] at hc
    · exact hrun
  · simp [hword c (hlong.subset (by simp))] at hc

/-- A run does not reach over a character that is neither dot nor star. -/
lemma infix_of_run (hword : IsRun word) (hc : isDotOrStar c = false)
    (h : word <:+: run ++ c :: s) : word <:+: run ∨ word <:+: s := by
  induction run with
  | nil =>
    rcases List.infix_cons_iff.mp h with hhere | hlater
    · exact .inl (prefix_of_run [] hword hc hhere).isInfix
    · exact .inr hlater
  | cons d run ih =>
    rcases List.infix_cons_iff.mp h with hhere | hlater
    · exact .inl (prefix_of_run (d :: run) hword hc hhere).isInfix
    · exact (ih hlater).imp_left fun hrun => hrun.trans (List.suffix_cons d run).isInfix

lemma not_infix_collapsedRun (hstars : ['*', '*'] <:+: word) (hlong : 2 < word.length)
    (run : List Char) : ¬word <:+: collapsedRun run := by
  intro h
  by_cases hdouble : hasDoubleStar run = true
  · rw [collapsedRun, if_pos hdouble] at h
    exact absurd h.length_le (by simpa using hlong)
  · rw [collapsedRun, if_neg hdouble] at h
    exact hdouble (hasDoubleStar_iff.mpr (hstars.trans h))

/-- Of a run with a double star only the double star is left. -/
lemma not_infix_collapseFrom (hword : IsRun word) (hstars : ['*', '*'] <:+: word)
    (hlong : 2 < word.length) (run s : List Char) : ¬word <:+: collapseFrom run s := by
  induction s generalizing run with
  | nil => exact not_infix_collapsedRun hstars hlong _
  | cons c s ih =>
    rw [collapseFrom]
    by_cases hc : isDotOrStar c = true
    · rw [if_pos hc]
      exact ih (c :: run)
    · rw [if_neg hc]
      intro h
      rcases infix_of_run hword (by simpa using hc) h with hrun | hrest
      · exact not_infix_collapsedRun hstars hlong _ hrun
      · exact ih [] hrest

lemma doubleStarsApart_dottedChars (s : List Char) : DoubleStarsApart (dottedChars s) := by
  intro c hc
  have hstars : IsRun ['*', '*'] := by decide
  have hbefore : IsRun [c, '*', '*'] := hstars.cons hc
  have hbehind : IsRun ['*', '*', c] := ((IsRun.nil.cons hc).cons rfl).cons rfl
  exact ⟨not_infix_collapseFrom hbefore (List.suffix_cons c _).isInfix (by simp) _ _,
    not_infix_collapseFrom hbehind (List.prefix_append _ [c]).isInfix (by simp) _ _⟩

/-! ### What is kept -/

/-- Characters that are neither dots and stars nor separators. -/
def isKept (c : Char) : Bool := !isDotOrStar c && !isSeparator c

lemma filter_dottedChars (s : List Char) :
    (dottedChars s).filter isKept = (dropSuffix s).filter isKept := by
  have hrun : ∀ c, isDotOrStar c = true → Option.guard isKept c = none := by
    intro c hc
    simp [Option.guard, isKept, hc]
  have hsep : ∀ c, isSeparator c = true → Option.guard isKept c = none := by
    intro c hc
    simp [Option.guard, isKept, hc]
  rw [← List.filterMap_eq_filter, dottedChars, collapse, filterMap_collapseFrom hrun .nil,
    filterMap_separatorsAsDots hrun hsep]

lemma dropSuffix_append_lineFeed (g : List Char) :
    dropSuffix (g ++ (suffix ++ ['\n'])) = g ++ ['\n'] := by
  induction g with
  | nil => decide
  | cons c g ih =>
    have hwhole : c :: (g ++ (suffix ++ ['\n'])) ≠ suffix := by
      intro he
      have hlength := congrArg List.length he
      simp only [List.length_cons, List.length_append] at hlength
      omega
    have hbefore : c :: (g ++ (suffix ++ ['\n'])) ≠ suffix ++ ['\n'] := by
      intro he
      have hlength := congrArg List.length he
      simp only [List.length_cons, List.length_append] at hlength
      omega
    rw [List.cons_append, dropSuffix, if_neg hwhole, if_neg hbefore, ih]
    rfl

/-! ### Rewriting again -/

lemma length_collapsedRun_le (run : List Char) : (collapsedRun run).length ≤ run.length := by
  by_cases hdouble : hasDoubleStar run = true
  · rw [collapsedRun, if_pos hdouble]
    exact (hasDoubleStar_iff.mp hdouble).length_le
  · exact Nat.le_of_eq (by rw [collapsedRun, if_neg hdouble])

lemma length_collapseFrom_le (run s : List Char) :
    (collapseFrom run s).length ≤ run.length + s.length := by
  induction s generalizing run with
  | nil => simpa [collapseFrom] using length_collapsedRun_le run.reverse
  | cons c s ih =>
    rw [collapseFrom]
    by_cases hc : isDotOrStar c = true
    · rw [if_pos hc]
      have hrest := ih (c :: run)
      simp only [List.length_cons] at hrest ⊢
      omega
    · rw [if_neg hc]
      have hrest := ih []
      have hrun := length_collapsedRun_le run.reverse
      simp only [List.length_append, List.length_cons, List.length_nil, List.length_reverse]
        at hrest hrun ⊢
      omega

lemma length_dropSuffix_lt (h : ¬IsBare s) : (dropSuffix s).length < s.length := by
  rcases not_and_or.mp h with hsuffix | hfeed
  · obtain ⟨g, rfl⟩ := not_not.mp hsuffix
    rw [dropSuffix_append]
    simp [suffix]
  · obtain ⟨g, rfl⟩ := not_not.mp hfeed
    rw [dropSuffix_append_lineFeed]
    simp [suffix]

/-- A text that ends with the class file suffix is longer than its dotted glob. -/
lemma length_dottedChars_lt (h : ¬IsBare s) : (dottedChars s).length < s.length :=
  calc (dottedChars s).length
      ≤ 0 + (separatorsAsDots (dropSuffix s)).length := length_collapseFrom_le [] _
    _ = (separatorsAsDots (dropSuffix s)).length := Nat.zero_add _
    _ = (dropSuffix s).length := List.length_map _
    _ < s.length := length_dropSuffix_lt h

lemma dottedChars_dottedChars_iff : dottedChars (dottedChars s) = dottedChars s ↔
    IsBare (dottedChars s) := by
  constructor
  · intro hagain
    by_contra hends
    have hshorter := length_dottedChars_lt hends
    rw [hagain] at hshorter
    exact Nat.lt_irrefl _ hshorter
  · intro hbare
    exact dottedChars_of_kept hbare.1 hbare.2

/-- A dotted glob has no separators, its double stars stand apart from dots and stars, and all other
characters of the text are in it, but for those of a class file suffix. It is made again from itself
exactly if it does not end with such a suffix, also before a line feed that ends it. -/
theorem dottedGlob_canonical (text : String) :
    let glob := (dottedGlob text).toList
    ('/' ∉ glob ∧ '\\' ∉ glob) ∧ DoubleStarsApart glob ∧
    (∀ g, text.toList = g ++ suffix → glob.filter isKept = g.filter isKept) ∧
    (∀ g, text.toList = g ++ (suffix ++ ['\n']) →
      glob.filter isKept = (g ++ ['\n']).filter isKept) ∧
    (IsBare text.toList → glob.filter isKept = text.toList.filter isKept) ∧
    (dottedGlob (dottedGlob text) = dottedGlob text ↔ IsBare glob) := by
  intro glob
  have hglob : glob = dottedChars text.toList := String.toList_ofList
  have hsep : ∀ c ∈ glob, isSeparator c = false := fun c hc =>
    not_isSeparator_of_mem_dottedChars (hglob ▸ hc)
  have hfilter : glob.filter isKept = (dropSuffix text.toList).filter isKept := by
    rw [hglob, filter_dottedChars]
  refine ⟨⟨fun hm => absurd (hsep _ hm) (by decide), fun hm => absurd (hsep _ hm) (by decide)⟩,
    hglob ▸ doubleStarsApart_dottedChars _, fun g hg => ?_, fun g hg => ?_, fun hbare => ?_, ?_⟩
  · rw [hfilter, hg, dropSuffix_append]
  · rw [hfilter, hg, dropSuffix_append_lineFeed]
  · rw [hfilter, dropSuffix_eq_self hbare.1 hbare.2]
  · rw [dottedGlob, dottedGlob, String.ofList_inj, String.toList_ofList, hglob]
    exact dottedChars_dottedChars_iff

/-- A suffix before a line feed is dropped, and the one that this leaves is dropped the second time. -/
theorem sample_dottedGlob_canonical :
    (dottedGlob "a.**/b/class.class\n").toList = "a**b.class\n".toList ∧
    "a**b.class\n".toList.filter isKept = "a.**/b/class\n".toList.filter isKept ∧
    (dottedGlob "a.**/b").toList.filter isKept = "a.**/b".toList.filter isKept ∧
    (dottedGlob "a.**/b.class").toList.filter isKept = "a.**/b".toList.filter isKept ∧
    ¬dottedGlob (dottedGlob "a.**/b/class.class\n") = dottedGlob "a.**/b/class.class\n" := by
  have hglob : (dottedGlob "a.**/b/class.class\n").toList = "a**b.class\n".toList := by
    decide +kernel
  obtain ⟨-, -, -, hfeed, -, hagain⟩ := dottedGlob_canonical "a.**/b/class.class\n"
  obtain ⟨-, -, -, -, hbare, -⟩ := dottedGlob_canonical "a.**/b"
  obtain ⟨-, -, hsuffix, -⟩ := dottedGlob_canonical "a.**/b.class"
  rw [hglob] at hfeed hagain
  refine ⟨hglob, hfeed "a.**/b/class".toList (by decide +kernel), hbare (by decide +kernel),
    hsuffix "a.**/b".toList (by decide +kernel), fun hsame => ?_⟩
  exact (hagain.mp hsame).2 (by decide +kernel)

end TestImpact.Proofs
