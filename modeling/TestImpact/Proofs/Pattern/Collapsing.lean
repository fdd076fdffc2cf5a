import TestImpact.Proofs.Pattern.Refusal

/-!
# What collapsing does to the names

A run of dots and stars that holds a double star is collapsed to the double star alone. The names
that a glob stands for are kept, and there are new ones exactly if a dot stands beside a double
star: that dot is no longer asked for.
-/

namespace TestImpact.Proofs
open Pattern

variable {glob glob' name run s : List Char} {c : Char}

/-! ### Globs one after the other -/

/-- The texts that one token stands for. -/
def Takes : Token → List Char → Prop
  | .anyRun, s => '\n' ∉ s
  | .nameRun, s => '.' ∉ s
  | .nameChar, s => ∃ c, s = [c] ∧ c ≠ '.'
  | .literal c, s => s = [c]

lemma selects_cons_iff {t : Token} {ts : List Token} : Token.selects (t :: ts) s = true ↔
    ∃ before after, s = before ++ after ∧ Takes t before ∧ Token.selects ts after = true := by
  cases t with
  | anyRun => exact runThen_ne_iff
  | nameRun => exact runThen_ne_iff
  | nameChar =>
    rw [Token.selects, oneThen_iff]
    constructor
    · rintro ⟨c, rest, rfl, hc, hrest⟩
      exact ⟨[c], rest, rfl, ⟨c, rfl, by simpa using hc⟩, hrest⟩
    · rintro ⟨_, rest, rfl, ⟨c, rfl, hc⟩, hrest⟩
      exact ⟨c, rest, rfl, by simpa using hc, hrest⟩
  | literal c =>
    rw [Token.selects, oneThen_iff]
    constructor
    · rintro ⟨d, rest, rfl, hd, hrest⟩
      obtain rfl : d = c := by simpa using hd
      exact ⟨[d], rest, rfl, rfl, hrest⟩
    · rintro ⟨_, rest, rfl, rfl, hrest⟩
      exact ⟨c, rest, rfl, by simp, hrest⟩

lemma selects_append_tokens_iff {ts ts' : List Token} : Token.selects (ts ++ ts') s = true ↔
    ∃ before after, s = before ++ after ∧ Token.selects ts before = true ∧
      Token.selects ts' after = true := by
  induction ts generalizing s with
  | nil =>
    simp only [List.nil_append, Token.selects, List.isEmpty_iff]
    constructor
    · exact fun h => ⟨[], s, rfl, rfl, h⟩
    · rintro ⟨_, after, rfl, rfl, h⟩
      exact h
  | cons t ts ih =>
    simp only [List.cons_append, selects_cons_iff, ih]
    constructor
    · rintro ⟨first, _, rfl, hfirst, rest, after, rfl, hrest, hafter⟩
      exact ⟨first ++ rest, after, by simp, ⟨first, rest, rfl, hfirst, hrest⟩, hafter⟩
    · rintro ⟨_, after, rfl, ⟨first, rest, rfl, hfirst, hrest⟩, hafter⟩
      exact ⟨first, rest ++ after, by simp, hfirst, rest, after, rfl, hrest, hafter⟩

/-- Tokens do not reach over a border behind which no star stands. -/
lemma tokens_append (hhead : glob'.head? ≠ some '*') :
    tokens (glob ++ glob') = tokens glob ++ tokens glob' := by
  fun_induction tokens glob with
  | case1 => rfl
  | case2 r ih => exact congrArg (Token.anyRun :: ·) ih
  | case3 r hr ih =>
    have hstar := head?_ne_star hr
    have hboth : (r ++ glob').head? ≠ some '*' := by
      cases r with
      | nil => exact hhead
      | cons d r => exact hstar
    rw [List.cons_append, tokens_nameRun hboth, ih, List.cons_append]
  | case4 r ih => exact congrArg (Token.nameChar :: ·) ih
  | case5 c r _ hstar hmark ih =>
    rw [List.cons_append, tokens_literal hstar hmark, ih, List.cons_append]

lemma selects_append_iff (hhead : glob'.head? ≠ some '*') : Selects (glob ++ glob') name ↔
    ∃ before after, name = before ++ after ∧ Selects glob before ∧ Selects glob' after := by
  simp only [← selects_tokens_iff, tokens_append hhead]
  exact selects_append_tokens_iff

/-! ### Runs of dots and stars -/

/-- No run of dots and stars goes on with this text. -/
def EndsRun (s : List Char) : Prop := ∀ c, s.head? = some c → isDotOrStar c = false

lemma EndsRun.head?_ne (h : EndsRun s) : s.head? ≠ some '*' := fun he => absurd (h _ he) (by decide)

/-- A text starts with a run of dots and stars, which may be empty. -/
lemma exists_run (glob : List Char) : ∃ run s, glob = run ++ s ∧ IsRun run ∧ EndsRun s := by
  refine ⟨glob.takeWhile isDotOrStar, glob.dropWhile isDotOrStar,
    List.takeWhile_append_dropWhile.symm, List.all_eq_true.mp List.all_takeWhile, fun c hc => ?_⟩
  have hhead := List.head?_dropWhile_not isDotOrStar glob
  rw [hc] at hhead
  simpa using hhead

lemma collapse_cons (hc : isDotOrStar c = false) (s : List Char) :
    collapse (c :: s) = c :: collapse s := by
  have hempty : collapse ([] ++ c :: s) = collapsedRun [] ++ c :: collapse s :=
    collapse_run_cons .nil hc s
  exact hempty

lemma collapse_append (hrun : IsRun run) (hs : EndsRun s) :
    collapse (run ++ s) = collapsedRun run ++ collapse s := by
  cases s with
  | nil =>
    rw [List.append_nil, collapse_run hrun]
    exact (List.append_nil _).symm
  | cons c s => rw [collapse_run_cons hrun (hs c rfl), collapse_cons (hs c rfl)]

lemma EndsRun.collapse (h : EndsRun s) : EndsRun (collapse s) := by
  cases s with
  | nil => exact h
  | cons c s =>
    rw [collapse_cons (h c rfl)]
    exact h

lemma selects_collapse_iff (hrun : IsRun run) (hs : EndsRun s) :
    Selects (collapse (run ++ s)) name ↔ ∃ before after, name = before ++ after ∧
      Selects (collapsedRun run) before ∧ Selects (collapse s) after := by
  rw [collapse_append hrun hs]
  exact selects_append_iff hs.collapse.head?_ne

/-- A run with a double star stands for every text without a line feed. -/
lemma selects_collapsedRun_iff (h : hasDoubleStar run = true) :
    Selects (collapsedRun run) name ↔ '\n' ∉ name := by
  rw [collapsedRun, if_pos h]
  constructor
  · intro hname
    cases hname with
    | anyRun hfeed hrest =>
      cases hrest
      simpa using hfeed
    | nameRun hhead => exact absurd rfl hhead
    | literal hstar => exact absurd rfl hstar
  · intro hfeed
    simpa using Selects.anyRun hfeed .done

lemma hasDoubleStar_dot (run : List Char) : hasDoubleStar ('.' :: run) = hasDoubleStar run := rfl

/-! ### What a collapsed glob stands for -/

/-- A name is one that the glob stands for after its runs were collapsed. -/
def Covers (glob name : List Char) : Prop := Selects (collapse glob) name

namespace Covers

/-- What is put before a glob may lengthen the run that it starts with, so that the step is one on
runs. -/
lemma lengthen (lead text : List Char) (hlead : IsRun lead)
    (hstep : ∀ run before, '\n' ∉ before → Selects (collapsedRun run) before →
      Selects (collapsedRun (lead ++ run)) (text ++ before))
    (hfeed : '\n' ∉ name) (h : Covers glob name) : Covers (lead ++ glob) (text ++ name) := by
  obtain ⟨run, s, rfl, hrun, hs⟩ := exists_run glob
  obtain ⟨before, after, rfl, hbefore, hafter⟩ := (selects_collapse_iff hrun hs).mp h
  have hlong : IsRun (lead ++ run) := List.forall_mem_append.mpr ⟨hlead, hrun⟩
  rw [Covers, ← List.append_assoc, selects_collapse_iff hlong hs]
  have hkept : '\n' ∉ before := fun hm => hfeed (List.mem_append_left _ hm)
  exact ⟨text ++ before, after, by simp, hstep run before hkept hbefore, hafter⟩

lemma dot (hfeed : '\n' ∉ name) (h : Covers glob name) : Covers ('.' :: glob) ('.' :: name) := by
  refine lengthen ['.'] ['.'] (by decide) ?_ hfeed h
  intro run before hkept hbefore
  change Selects (collapsedRun ('.' :: run)) ('.' :: before)
  by_cases hdouble : hasDoubleStar run = true
  · have hlonger : hasDoubleStar ('.' :: run) = true := hdouble
    rw [selects_collapsedRun_iff hlonger]
    simpa using hkept
  · rw [collapsedRun, if_neg hdouble] at hbefore
    rw [collapsedRun, hasDoubleStar_dot, if_neg hdouble]
    exact .literal (by decide) (by decide) hbefore

lemma star (text : List Char) (hdot : '.' ∉ text) (hfeed : '\n' ∉ text ++ name)
    (h : Covers glob name) : Covers ('*' :: glob) (text ++ name) := by
  obtain ⟨htext, hname⟩ := not_or.mp (mt List.mem_append.mpr hfeed)
  refine lengthen ['*'] text (by decide) ?_ hname h
  intro run before hkept hbefore
  rw [List.singleton_append]
  by_cases hdouble : hasDoubleStar ('*' :: run) = true
  · rw [selects_collapsedRun_iff hdouble]
    exact List.not_mem_append htext hkept
  · have hhead : run.head? ≠ some '*' := head?_ne_star fun rest he => hdouble (by rw [he]; rfl)
    have hsingle : ¬hasDoubleStar run = true := fun he =>
      hdouble (hasDoubleStar_mono he (List.suffix_cons _ _).isInfix)
    rw [collapsedRun, if_neg hsingle] at hbefore
    rw [collapsedRun, if_neg hdouble]
    exact .nameRun hhead hdot hbefore

/-- A run with a double star takes any text. -/
lemma doubleStar (text : List Char) (hrun : IsRun run) (hdouble : hasDoubleStar run = true)
    (hfeed : '\n' ∉ text ++ name) (h : Covers glob name) : Covers (run ++ glob) (text ++ name) := by
  obtain ⟨htext, hname⟩ := not_or.mp (mt List.mem_append.mpr hfeed)
  refine lengthen run text hrun ?_ hname h
  intro run' before hkept _
  rw [selects_collapsedRun_iff (hasDoubleStar_mono hdouble (List.prefix_append _ _).isInfix)]
  exact List.not_mem_append htext hkept

lemma mark (hc : c ≠ '.') (h : Covers glob name) : Covers ('?' :: glob) (c :: name) := by
  rw [Covers, collapse_cons (by decide)]
  exact .nameChar hc h

lemma literal (hstar : c ≠ '*') (hmark : c ≠ '?') (hfeed : '\n' ∉ name) (h : Covers glob name) :
    Covers (c :: glob) (c :: name) := by
  by_cases hdot : c = '.'
  · rw [hdot]
    exact h.dot hfeed
  · rw [Covers, collapse_cons (by simp [isDotOrStar, hdot, hstar])]
    exact .literal hstar hmark h

end Covers

/-- No name is lost. -/
lemma covers_of_selects (h : Selects glob name) (hfeed : '\n' ∉ name) : Covers glob name := by
  induction h with
  | done => exact .done
  | anyRun _ _ ih =>
    have hstars : IsRun ['*', '*'] := by decide
    exact (ih fun hm => hfeed (List.mem_append_right _ hm)).doubleStar _ hstars rfl hfeed
  | nameRun _ hrun _ ih =>
    exact (ih fun hm => hfeed (List.mem_append_right _ hm)).star _ hrun hfeed
  | nameChar hc _ ih => exact (ih (List.not_mem_of_not_mem_cons hfeed)).mark hc
  | literal hstar hmark _ ih =>
    have hrest := List.not_mem_of_not_mem_cons hfeed
    exact (ih hrest).literal hstar hmark hrest

/-! ### Dots beside double stars -/

/-- A dot stands directly before or behind a double star. -/
def DotBesideStars (glob : List Char) : Prop :=
  ['.', '*', '*'] <:+: glob ∨ ['*', '*', '.'] <:+: glob

instance : Decidable (DotBesideStars glob) := inferInstanceAs (Decidable (_ ∨ _))

lemma DotBesideStars.mono (h : DotBesideStars run) (hrun : run <:+: glob) :
    DotBesideStars glob :=
  h.imp (fun hm => hm.trans hrun) fun hm => hm.trans hrun

/-- A run without dots holds stars only. -/
lemma eq_star_of_mem (hrun : IsRun run) (hdot : '.' ∉ run) (hc : c ∈ run) : c = '*' := by
  rcases eq_of_isDotOrStar (hrun c hc) with rfl | rfl
  · exact absurd hc hdot
  · rfl

lemma starts_with_doubleStar (hrun : IsRun run) (hdouble : hasDoubleStar run = true)
    (hdot : '.' ∉ run) : ∃ rest, run = '*' :: '*' :: rest := by
  match run with
  | [] => simp [hasDoubleStar] at hdouble
  | [c] => simp [hasDoubleStar] at hdouble
  | c :: d :: rest =>
    have hc : c = '*' := eq_star_of_mem hrun hdot (by simp)
    have hd : d = '*' := eq_star_of_mem hrun hdot (by simp)
    exact ⟨rest, by rw [hc, hd]⟩

lemma dot_not_mem_behind (hrun : IsRun run) (hbeside : ¬DotBesideStars ('*' :: '*' :: run)) :
    '.' ∉ run := by
  induction run with
  | nil => simp
  | cons c run ih =>
    obtain ⟨hc, hrest⟩ := List.forall_mem_cons.mp hrun
    rcases eq_of_isDotOrStar hc with rfl | rfl
    · exact absurd (.inr ⟨[], run, rfl⟩) hbeside
    · have hshort : ¬DotBesideStars ('*' :: '*' :: run) := fun h =>
        hbeside (h.mono (List.suffix_cons '*' _).isInfix)
      simpa using ih hrest hshort

/-- Between a double star and a dot of the same run there are only stars, so that a run with both
has a dot directly beside a double star. -/
lemma dot_not_mem (hrun : IsRun run) (hdouble : hasDoubleStar run = true)
    (hbeside : ¬DotBesideStars run) : '.' ∉ run := by
  fun_induction hasDoubleStar run with
  | case1 run =>
    obtain ⟨-, hrun⟩ := List.forall_mem_cons.mp hrun
    obtain ⟨-, hrun⟩ := List.forall_mem_cons.mp hrun
    simpa using dot_not_mem_behind hrun hbeside
  | case2 c run hc ih =>
    obtain ⟨-, hrun⟩ := List.forall_mem_cons.mp hrun
    have hshort : ¬DotBesideStars run := fun h =>
      hbeside (h.mono (List.suffix_cons c run).isInfix)
    have hdot := ih hrun hdouble hshort
    obtain ⟨rest, rfl⟩ := starts_with_doubleStar hrun hdouble hdot
    have hfirst : '.' ≠ c := by
      rintro rfl
      exact hbeside (.inl ⟨[], rest, rfl⟩)
    exact List.not_mem_cons_of_ne_of_not_mem hfirst hdot
  | case3 => simp

lemma selects_stars (h : ∀ c ∈ run, c = '*') : Selects run [] := by
  fun_induction tokens run with
  | case1 => exact .done
  | case2 rest ih =>
    have hrest := ih fun c hc => h c (by simp [hc])
    exact @Selects.anyRun [] _ _ (by simp) hrest
  | case3 rest hr ih =>
    have hrest := ih fun c hc => h c (by simp [hc])
    exact @Selects.nameRun [] _ _ (head?_ne_star hr) (by simp) hrest
  | case4 rest _ => exact absurd (h '?' (by simp)) (by decide)
  | case5 c rest _ hc => exact absurd (h c (by simp)) hc

lemma selects_of_collapsedRun (hrun : IsRun run) (hbeside : ¬DotBesideStars run)
    (h : Selects (collapsedRun run) name) : Selects run name := by
  by_cases hdouble : hasDoubleStar run = true
  · have hfeed := (selects_collapsedRun_iff hdouble).mp h
    have hdot := dot_not_mem hrun hdouble hbeside
    obtain ⟨rest, rfl⟩ := starts_with_doubleStar hrun hdouble hdot
    have hrest : Selects rest [] := selects_stars fun c hc =>
      eq_star_of_mem hrun hdot (by simp [hc])
    simpa using hrest.anyRun hfeed
  · rwa [collapsedRun, if_neg hdouble] at h

/-- Behind a character that is no star, whatever follows is read by itself. -/
lemma selects_cons_congr {rest rest' : List Char} (hc : c ≠ '*')
    (h : ∀ name, Selects rest name → Selects rest' name) (hname : Selects (c :: rest) name) :
    Selects (c :: rest') name := by
  generalize hglob : c :: rest = glob at hname
  cases hname with
  | done => simp at hglob
  | anyRun => exact absurd (List.cons.inj hglob).1 hc
  | nameRun => exact absurd (List.cons.inj hglob).1 hc
  | nameChar hd hrest =>
    obtain ⟨rfl, rfl⟩ := List.cons.inj hglob
    exact .nameChar hd (h _ hrest)
  | literal hstar hmark hrest =>
    obtain ⟨rfl, rfl⟩ := List.cons.inj hglob
    exact .literal hstar hmark (h _ hrest)

/-- Where no dot stands beside a double star, collapsing brings no new names: a run that it changes
has stars only. The induction goes from one run to the next. -/
lemma selects_of_covers (hbeside : ¬DotBesideStars glob) (h : Covers glob name) :
    Selects glob name := by
  induction hlength : glob.length using Nat.strongRecOn generalizing glob name with
  | ind n ih =>
    obtain ⟨run, s, rfl, hrun, hs⟩ := exists_run glob
    obtain ⟨before, after, rfl, hbefore, hafter⟩ := (selects_collapse_iff hrun hs).mp h
    have hrunBeside : ¬DotBesideStars run := fun hb =>
      hbeside (hb.mono (List.prefix_append run s).isInfix)
    refine (selects_append_iff hs.head?_ne).mpr
      ⟨before, after, rfl, selects_of_collapsedRun hrun hrunBeside hbefore, ?_⟩
    cases s with
    | nil => exact hafter
    | cons c rest =>
      rw [collapse_cons (hs c rfl)] at hafter
      have hc : c ≠ '*' := fun he => hs.head?_ne (by rw [he]; rfl)
      have hrestBeside : ¬DotBesideStars rest := fun hb =>
        hbeside (hb.mono ((List.suffix_cons c rest).trans (List.suffix_append run _)).isInfix)
      have hshorter : rest.length < n := by
        rw [← hlength, List.length_append, List.length_cons]
        omega
      exact selects_cons_congr hc (fun name hname => ih _ hshorter hrestBeside hname rfl) hafter

/-! ### A name that collapsing lets in -/

lemma count_dot_le (h : Selects glob name) : glob.count '.' ≤ name.count '.' := by
  induction h with
  | done => exact Nat.le_refl 0
  | anyRun _ _ ih =>
    rw [List.count_append]
    exact Nat.le_trans ih (Nat.le_add_left _ _)
  | nameRun _ _ _ ih =>
    rw [List.count_append]
    exact Nat.le_trans ih (Nat.le_add_left _ _)
  | nameChar _ _ ih => exact Nat.le_trans ih List.count_le_count_cons
  | literal _ _ _ ih =>
    rw [List.count_cons, List.count_cons]
    exact Nat.add_le_add_right ih _

/-- A short name that a glob stands for: nothing for a star. -/
def shortest : List Char → List Char
  | [] => []
  | c :: r => if c = '*' then shortest r else (if c = '?' then 'a' else c) :: shortest r

lemma count_dot_shortest (glob : List Char) : (shortest glob).count '.' = glob.count '.' := by
  induction glob with
  | nil => rfl
  | cons c r ih =>
    rw [shortest]
    by_cases hstar : c = '*'
    · rw [if_pos hstar, ih, hstar, List.count_cons_of_ne (by decide)]
    · rw [if_neg hstar, List.count_cons, List.count_cons, ih]
      by_cases hmark : c = '?'
      · rw [if_pos hmark, hmark]
        rfl
      · rw [if_neg hmark]

lemma lineFeed_not_mem_shortest (h : '\n' ∉ glob) : '\n' ∉ shortest glob := by
  induction glob with
  | nil => exact h
  | cons c r ih =>
    have hrest := ih (List.not_mem_of_not_mem_cons h)
    have hc := List.ne_of_not_mem_cons h
    rw [shortest]
    by_cases hstar : c = '*'
    · rwa [if_pos hstar]
    · rw [if_neg hstar]
      refine List.not_mem_cons_of_ne_of_not_mem ?_ hrest
      by_cases hmark : c = '?'
      · rw [if_pos hmark]
        decide
      · rwa [if_neg hmark]

lemma Covers.shortest_append (hlead : '\n' ∉ run) (hfeed : '\n' ∉ name) (h : Covers glob name) :
    Covers (run ++ glob) (shortest run ++ name) := by
  induction run with
  | nil => exact h
  | cons c r ih =>
    have hr := List.not_mem_of_not_mem_cons hlead
    have hrest : '\n' ∉ shortest r ++ name :=
      List.not_mem_append (lineFeed_not_mem_shortest hr) hfeed
    rw [shortest]
    by_cases hstar : c = '*'
    · rw [if_pos hstar, hstar]
      exact (ih hr).star [] (by simp) hrest
    · rw [if_neg hstar]
      by_cases hmark : c = '?'
      · rw [if_pos hmark, hmark]
        exact (ih hr).mark (by decide)
      · rw [if_neg hmark]
        exact (ih hr).literal hstar hmark hrest

/-- Without the dot that stands beside a double star, the shortest name has too few dots for the
glob, and it is one of the collapsed glob. -/
lemma exists_covered (hfeed : '\n' ∉ glob) (hbeside : DotBesideStars glob) :
    ∃ name, '\n' ∉ name ∧ Covers glob name ∧ ¬Selects glob name := by
  obtain ⟨run, hrun, hdouble, hdot, before, after, rfl⟩ : ∃ run, IsRun run ∧
      hasDoubleStar run = true ∧ 0 < run.count '.' ∧ run <:+: glob := by
    rcases hbeside with h | h
    · exact ⟨_, by decide, by decide, by decide, h⟩
    · exact ⟨_, by decide, by decide, by decide, h⟩
  have hbefore : '\n' ∉ before := fun hm => hfeed (by simp [hm])
  have hafter : '\n' ∉ after := fun hm => hfeed (by simp [hm])
  have hrest : '\n' ∉ shortest after := lineFeed_not_mem_shortest hafter
  refine ⟨shortest before ++ shortest after, ?_, ?_, fun h => ?_⟩
  · exact List.not_mem_append (lineFeed_not_mem_shortest hbefore) hrest
  · have hend : Covers after (shortest after) := by
      have hnone : Covers ([] : List Char) [] := .done
      simpa using hnone.shortest_append hafter (by simp)
    have hrunned : Covers (run ++ after) (shortest after) :=
      hend.doubleStar [] hrun hdouble hrest
    rw [List.append_assoc]
    exact hrunned.shortest_append hbefore hrest
  · have hdots := count_dot_le h
    simp only [List.count_append, count_dot_shortest] at hdots
    omega

/-! ### Class patterns -/

/-- The class pattern of a dotted glob as it stands. -/
def compiled (glob : List Char) : ClassPattern :=
  ⟨String.ofList glob, String.ofList (ClassPattern.regexOf glob)⟩

/-- The dotted glob of a class pattern before its runs are collapsed. -/
def uncollapsed (pattern : String) : List Char := separatorsAsDots (dropSuffix pattern.toList)

lemma accepts_compiled_iff (glob : List Char) (name : String) :
    (compiled glob).accepts name = true ↔ Selects glob name.toList := by
  rw [ClassPattern.accepts, compiled, String.toList_ofList, ClassPattern.regexOf, read?_write,
    ← selects_tokens_iff]
  change Regex.accepts _ _ = true ↔ _
  rw [accepts_factors]

lemma eq_compiled_of_normalize {pattern : String} {p : ClassPattern}
    (h : ClassPattern.normalize pattern = .ok p) : p = compiled (collapse (uncollapsed pattern)) :=
  (normalize_eq_ok h).2

lemma lineFeed_not_mem_uncollapsed {pattern : String} {p : ClassPattern}
    (h : ClassPattern.normalize pattern = .ok p) : '\n' ∉ uncollapsed pattern :=
  not_mem_lineFeed ((defect?_collapse _).symm.trans (normalize_eq_ok h).1)

/-- The glob before collapsing is one that could be compiled as well. Collapsing it keeps every name
without a line feed that it matches, and brings no new one exactly if no dot stands beside a double
star. -/
theorem collapsing_keeps_names (pattern : String) (p : ClassPattern)
    (h : ClassPattern.normalize pattern = .ok p) :
    defect? (uncollapsed pattern) = none ∧
    (∀ name : String, '\n' ∉ name.toList →
      (compiled (uncollapsed pattern)).accepts name = true → p.accepts name = true) ∧
    ((∀ name : String, '\n' ∉ name.toList →
      ((compiled (uncollapsed pattern)).accepts name = true ↔ p.accepts name = true)) ↔
        ¬DotBesideStars (uncollapsed pattern)) := by
  have hdefect : defect? (uncollapsed pattern) = none :=
    (defect?_collapse _).symm.trans (normalize_eq_ok h).1
  have hkept : ∀ name : String, '\n' ∉ name.toList →
      (compiled (uncollapsed pattern)).accepts name = true → p.accepts name = true := by
    intro name hfeed hname
    rw [eq_compiled_of_normalize h, accepts_compiled_iff]
    exact covers_of_selects ((accepts_compiled_iff _ _).mp hname) hfeed
  refine ⟨hdefect, hkept, fun hsame hbeside => ?_, fun hbeside name hfeed => ?_⟩
  · obtain ⟨name, hfeed, hnew, hold⟩ :=
      exists_covered (lineFeed_not_mem_uncollapsed h) hbeside
    have hname := hsame (String.ofList name) (by rwa [String.toList_ofList])
    rw [eq_compiled_of_normalize h, accepts_compiled_iff, accepts_compiled_iff,
      String.toList_ofList] at hname
    exact hold (hname.mpr hnew)
  · refine ⟨hkept name hfeed, fun hname => ?_⟩
    rw [eq_compiled_of_normalize h, accepts_compiled_iff] at hname
    exact (accepts_compiled_iff _ _).mpr (selects_of_covers hbeside hname)

/-- The dots beside the double star are no longer asked for, so that a name with the same beginning
is let in. -/
theorem sample_collapsing_adds :
    ∃ p, ClassPattern.normalize "a/**/Test" = .ok p ∧ '\n' ∉ "aTest".toList ∧
      p.accepts "aTest" = true ∧ (compiled (uncollapsed "a/**/Test")).accepts "aTest" = false := by
  have hnormal : ClassPattern.normalize "a/**/Test" = .ok ⟨"a**Test", "a.*Test"⟩ := by rfl
  exact ⟨_, hnormal, by decide, by rfl, by decide +kernel⟩

/-- One double star has a dot beside it, and another has a name beside it. -/
theorem sample_collapsing_keeps :
    (∃ p, ClassPattern.normalize "a/**/Test" = .ok p ∧ p.accepts "a.b.Test" = true ∧
      ¬∀ name : String, '\n' ∉ name.toList →
        ((compiled (uncollapsed "a/**/Test")).accepts name = true ↔ p.accepts name = true)) ∧
    ∃ p, ClassPattern.normalize "a***Test" = .ok p ∧ ∀ name : String, '\n' ∉ name.toList →
      ((compiled (uncollapsed "a***Test")).accepts name = true ↔ p.accepts name = true) := by
  have hdots : ClassPattern.normalize "a/**/Test" = .ok ⟨"a**Test", "a.*Test"⟩ := by rfl
  have hplain : ClassPattern.normalize "a***Test" = .ok ⟨"a**Test", "a.*Test"⟩ := by rfl
  obtain ⟨-, hkept, hsame⟩ := collapsing_keeps_names _ _ hdots
  obtain ⟨-, -, hsame'⟩ := collapsing_keeps_names _ _ hplain
  refine ⟨⟨_, hdots, hkept "a.b.Test" (by decide) (by rfl), fun hall => ?_⟩,
    _, hplain, hsame'.mpr (by decide +kernel)⟩
  exact hsame.mp hall (.inl ⟨['a'], ".Test".toList, by rfl⟩)

end TestImpact.Proofs
