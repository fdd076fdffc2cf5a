import TestImpact.Proofs.Pattern.Matching

/-!
# Normalizing twice

A class pattern that is normalized a second time loses a class file suffix that the first time has
left, and nothing else. So it stays as it is exactly if its glob does not end with that suffix.
-/

namespace TestImpact.Proofs
open Pattern

variable {s g glob run : List Char} {c : Char}

/-! ### Defects -/

/-- Stars and question marks have no defect, so that the tokens show what the characters show. -/
lemma findSome?_tokens (glob : List Char) :
    (tokens glob).findSome? Token.defect? = glob.findSome? charDefect? := by
  have hstar : charDefect? '*' = none := by decide
  have hmark : charDefect? '?' = none := by decide
  fun_induction tokens glob with
  | case1 => rfl
  | case2 r ih => simpa [List.findSome?_cons, Token.defect?, hstar] using ih
  | case3 r hr ih => simpa [List.findSome?_cons, Token.defect?, hstar] using ih
  | case4 r ih => simpa [List.findSome?_cons, Token.defect?, hmark] using ih
  | case5 c r _ _ _ ih =>
    rw [List.findSome?_cons, List.findSome?_cons, ih]
    rfl

/-- A glob is accepted if there is something in it and each of its characters is accepted. -/
lemma defect?_eq_none_iff :
    defect? glob = none ↔ glob ≠ [] ∧ ∀ c ∈ glob, charDefect? c = none := by
  rw [defect?, findSome?_tokens]
  cases glob with
  | nil => simp
  | cons c glob => simp [List.findSome?_eq_none_iff]

lemma not_mem_lineFeed (h : defect? glob = none) : '\n' ∉ glob := by
  intro hm
  have hc := (defect?_eq_none_iff.mp h).2 _ hm
  exact absurd hc (by decide)

lemma normalize_of_defect?_eq_none {pattern : String} (h : dottedChars pattern.toList = g)
    (hdefect : defect? g = none) :
    ClassPattern.normalize pattern = .ok ⟨.ofList g, .ofList (ClassPattern.regexOf g)⟩ := by
  subst h
  unfold ClassPattern.normalize
  dsimp only
  rw [hdefect]

/-! ### The class file suffix -/

lemma dropSuffix_append (g : List Char) : dropSuffix (g ++ suffix) = g := by
  induction g with
  | nil => decide
  | cons c g ih =>
    have hwhole : c :: (g ++ suffix) ≠ suffix := by
      intro he
      have hlength := congrArg List.length he
      rw [List.length_cons, List.length_append] at hlength
      omega
    have hbefore : c :: (g ++ suffix) ≠ suffix ++ ['\n'] := by
      intro he
      have hends := congrArg List.getLast? he
      rw [List.getLast?_concat, ← List.cons_append, List.getLast?_append] at hends
      simp [suffix] at hends
    rw [List.cons_append, dropSuffix, if_neg hwhole, if_neg hbefore, ih]

lemma dropSuffix_eq_self (h : ¬suffix <:+ s) (hfeed : ¬suffix ++ ['\n'] <:+ s) :
    dropSuffix s = s := by
  induction s with
  | nil => rfl
  | cons c s ih =>
    have hwhole : c :: s ≠ suffix := fun he => h (he ▸ List.suffix_rfl)
    have hbefore : c :: s ≠ suffix ++ ['\n'] := fun he => hfeed (he ▸ List.suffix_rfl)
    have hrest := ih (fun hs => h (hs.trans (List.suffix_cons c s)))
      (fun hs => hfeed (hs.trans (List.suffix_cons c s)))
    rw [dropSuffix, if_neg hwhole, if_neg hbefore, hrest]

lemma not_lineFeed_suffix (h : '\n' ∉ s) : ¬suffix ++ ['\n'] <:+ s :=
  fun hs => h (hs.subset (by simp))

/-! ### Separators -/

lemma not_isSeparator_of_mem_separatorsAsDots (h : c ∈ separatorsAsDots s) :
    isSeparator c = false := by
  obtain ⟨d, -, rfl⟩ := List.mem_map.mp h
  by_cases hd : isSeparator d = true
  · rw [if_pos hd]
    decide
  · rw [if_neg hd]
    simpa using hd

lemma separatorsAsDots_eq_self (h : ∀ c ∈ s, isSeparator c = false) : separatorsAsDots s = s := by
  rw [separatorsAsDots]
  calc s.map (fun c => if isSeparator c then '.' else c)
      = s.map id := List.map_congr_left fun c hc => by simp [h c hc]
    _ = s := List.map_id s

/-! ### Runs of dots and stars -/

attribute [local simp] collapseFrom

lemma eq_of_isDotOrStar (h : isDotOrStar c = true) : c = '.' ∨ c = '*' := by
  simpa [isDotOrStar] using h

/-- A run of dots and stars. -/
def IsRun (run : List Char) : Prop := ∀ c ∈ run, isDotOrStar c = true

instance : Decidable (IsRun run) := decidable_of_iff (run.all isDotOrStar = true) List.all_eq_true

lemma IsRun.nil : IsRun [] := by simp [IsRun]

lemma IsRun.cons (hc : isDotOrStar c = true) (h : IsRun run) : IsRun (c :: run) :=
  List.forall_mem_cons.mpr ⟨hc, h⟩

lemma IsRun.reverse (h : IsRun run) : IsRun run.reverse :=
  fun c hc => h c (List.mem_reverse.mp hc)

lemma IsRun.collapsedRun (h : IsRun run) : IsRun (collapsedRun run) := by
  rw [Pattern.collapsedRun]
  split
  · simp [IsRun, isDotOrStar]
  · exact h

lemma collapsedRun_collapsedRun (run : List Char) :
    collapsedRun (collapsedRun run) = collapsedRun run := by
  by_cases h : hasDoubleStar run = true
  · have hrun : collapsedRun run = ['*', '*'] := if_pos h
    rw [hrun]
    decide
  · have hrun : collapsedRun run = run := if_neg h
    rw [hrun, hrun]

lemma hasDoubleStar_iff : hasDoubleStar run = true ↔ ['*', '*'] <:+: run := by
  fun_induction hasDoubleStar run with
  | case1 r => exact ⟨fun _ => ⟨[], r, rfl⟩, fun _ => rfl⟩
  | case2 c r hc ih =>
    rw [ih, List.infix_cons_iff]
    constructor
    · exact .inr
    · rintro (⟨rest, he⟩ | h)
      · obtain ⟨hstar, hrest⟩ := List.cons.inj he
        exact absurd hrest.symm (hc rest hstar.symm)
      · exact h
  | case3 => simp

lemma hasDoubleStar_mono {run' : List Char} (h : hasDoubleStar run = true)
    (hrun : run <:+: run') : hasDoubleStar run' = true :=
  hasDoubleStar_iff.mpr ((hasDoubleStar_iff.mp h).trans hrun)

/-- A run to which a dot is added without change has no double star. -/
lemma collapsedRun_of_concat_dot (h : collapsedRun (run ++ ['.']) = run ++ ['.']) :
    collapsedRun run = run := by
  by_cases hdouble : hasDoubleStar run = true
  · have hlonger : hasDoubleStar (run ++ ['.']) = true :=
      hasDoubleStar_mono hdouble (List.prefix_append _ _).isInfix
    rw [collapsedRun, if_pos hlonger] at h
    have hends := congrArg List.getLast? h
    rw [List.getLast?_concat] at hends
    exact absurd hends (by decide)
  · exact if_neg hdouble

/-- A run is read to its end before it is collapsed. -/
lemma collapseFrom_append (h : IsRun run) (read s : List Char) :
    collapseFrom read (run ++ s) = collapseFrom (run.reverse ++ read) s := by
  induction run generalizing read with
  | nil => rfl
  | cons c run ih =>
    obtain ⟨hc, hrun⟩ := List.forall_mem_cons.mp h
    rw [List.cons_append, collapseFrom, if_pos hc, ih hrun, List.reverse_cons, List.append_assoc]
    rfl

lemma collapse_run (h : IsRun run) : collapse run = collapsedRun run := by
  have hread := collapseFrom_append h [] []
  rw [List.append_nil, List.append_nil] at hread
  rw [collapse, hread, collapseFrom, List.reverse_reverse]

lemma collapse_run_cons (h : IsRun run) (hc : isDotOrStar c = false) (s : List Char) :
    collapse (run ++ c :: s) = collapsedRun run ++ c :: collapse s := by
  rw [collapse, collapseFrom_append h, collapseFrom, if_neg (by simp [hc]), List.append_nil,
    List.reverse_reverse]
  rfl

/-- What was collapsed stays as it is. -/
lemma collapse_collapseFrom (h : IsRun run) (s : List Char) :
    collapse (collapseFrom run s) = collapseFrom run s := by
  induction s generalizing run with
  | nil =>
    rw [collapseFrom, collapse_run h.reverse.collapsedRun, collapsedRun_collapsedRun]
  | cons c s ih =>
    rw [collapseFrom]
    by_cases hc : isDotOrStar c = true
    · rw [if_pos hc]
      exact ih (h.cons hc)
    · rw [if_neg hc, collapse_run_cons h.reverse.collapsedRun (by simpa using hc),
        collapsedRun_collapsedRun, ih .nil]

lemma mem_collapseFrom (h : c ∈ collapseFrom run s) : c ∈ run ∨ c ∈ s ∨ c = '*' := by
  have hcollapsed : ∀ {r : List Char}, c ∈ collapsedRun r.reverse → c ∈ r ∨ c = '*' := by
    intro r hm
    rw [collapsedRun] at hm
    split at hm
    · exact .inr (by simpa using hm)
    · exact .inl (List.mem_reverse.mp hm)
  induction s generalizing run with
  | nil => exact (hcollapsed h).imp_right .inr
  | cons d s ih =>
    rw [collapseFrom] at h
    split at h
    · rcases ih h with hm | hm | hm
      · rcases List.mem_cons.mp hm with rfl | hm
        · exact .inr (.inl (by simp))
        · exact .inl hm
      · exact .inr (.inl (List.mem_cons_of_mem _ hm))
      · exact .inr (.inr hm)
    · rcases List.mem_append.mp h with hm | hm
      · exact (hcollapsed hm).imp_right .inr
      · rcases List.mem_cons.mp hm with rfl | hm
        · exact .inr (.inl (by simp))
        · rcases ih hm with hm | hm | hm
          · simp at hm
          · exact .inr (.inl (List.mem_cons_of_mem _ hm))
          · exact .inr (.inr hm)

/-- The runs before two like characters that are in no run are alike. -/
lemma eq_of_run_append {run' s' : List Char} (h : IsRun run) (h' : IsRun run')
    (hc : isDotOrStar c = false) (he : run ++ c :: s = run' ++ c :: s') : run = run' ∧ s = s' := by
  have htake : ∀ {r t : List Char}, IsRun r → (r ++ c :: t).takeWhile isDotOrStar = r := by
    intro r t hr
    rw [List.takeWhile_append_of_pos hr, List.takeWhile_cons_of_neg (by simp [hc]),
      List.append_nil]
  have hrun : run = run' := by rw [← htake h, he, htake h']
  subst hrun
  exact ⟨rfl, (List.cons.inj (List.append_cancel_left he)).2⟩

/-- A glob that is collapsed is so without its class file suffix too: after a double star the dot
of the suffix would be gone. -/
lemma collapseFrom_of_append_suffix (h : IsRun run)
    (he : collapseFrom run (g ++ suffix) = run.reverse ++ (g ++ suffix)) :
    collapseFrom run g = run.reverse ++ g := by
  induction g generalizing run with
  | nil =>
    have hlonger : IsRun ('.' :: run) := h.cons rfl
    have hread : collapsedRun ('.' :: run).reverse ++ 'c' :: "lass".toList =
        ('.' :: run).reverse ++ 'c' :: "lass".toList :=
      calc collapsedRun ('.' :: run).reverse ++ 'c' :: "lass".toList
          = run.reverse ++ '.' :: 'c' :: "lass".toList := he
        _ = ('.' :: run).reverse ++ 'c' :: "lass".toList := by
          rw [List.reverse_cons, List.append_assoc, List.singleton_append]
    have hrun := (eq_of_run_append hlonger.reverse.collapsedRun hlonger.reverse rfl hread).1
    rw [List.reverse_cons] at hrun
    rw [collapseFrom, List.append_nil, collapsedRun_of_concat_dot hrun]
  | cons c g ih =>
    rw [List.cons_append, collapseFrom] at he
    rw [collapseFrom]
    by_cases hc : isDotOrStar c = true
    · rw [if_pos hc] at he ⊢
      have hrest := ih (h.cons hc) (by simpa using he)
      simpa using hrest
    · rw [if_neg hc] at he ⊢
      obtain ⟨hrun, hrest⟩ :=
        eq_of_run_append h.reverse.collapsedRun h.reverse (by simpa using hc) he
      rw [hrun, ih .nil hrest]
      rfl

/-! ### Dotted globs -/

lemma not_isSeparator_of_mem_dottedChars (h : c ∈ dottedChars s) : isSeparator c = false := by
  rcases mem_collapseFrom h with hm | hm | rfl
  · simp at hm
  · exact not_isSeparator_of_mem_separatorsAsDots hm
  · rfl

lemma collapse_dottedChars (s : List Char) : collapse (dottedChars s) = dottedChars s :=
  collapse_collapseFrom .nil _

/-- A dotted glob without the class file suffix is one that is made again. -/
lemma dottedChars_of_kept (h : ¬suffix <:+ dottedChars s)
    (hfeed : ¬suffix ++ ['\n'] <:+ dottedChars s) :
    dottedChars (dottedChars s) = dottedChars s := by
  rw [dottedChars, dropSuffix_eq_self h hfeed,
    separatorsAsDots_eq_self fun c hc => not_isSeparator_of_mem_dottedChars hc,
    collapse_dottedChars]

lemma dottedChars_dottedChars (h : ¬suffix <:+ dottedChars s) (hfeed : '\n' ∉ dottedChars s) :
    dottedChars (dottedChars s) = dottedChars s :=
  dottedChars_of_kept h (not_lineFeed_suffix hfeed)

/-- From a dotted glob that ends with the class file suffix the suffix is dropped. -/
lemma dottedChars_of_append_suffix (h : dottedChars s = g ++ suffix) :
    dottedChars (g ++ suffix) = g := by
  have hplain : ∀ c ∈ g, isSeparator c = false := fun c hc =>
    not_isSeparator_of_mem_dottedChars (s := s) (by rw [h]; exact List.mem_append_left _ hc)
  have hcollapsed : collapse (g ++ suffix) = g ++ suffix := by
    rw [← h, collapse_dottedChars]
  rw [dottedChars, dropSuffix_append, separatorsAsDots_eq_self hplain]
  exact collapseFrom_of_append_suffix .nil hcollapsed

/-! ### Normalizing again -/

/-- A glob that ends with the class file suffix loses it. -/
lemma normalize_of_append_suffix (hdefect : defect? (dottedChars s) = none)
    (h : dottedChars s = g ++ suffix) :
    ClassPattern.normalize (String.ofList (dottedChars s)) =
      if g = [] then .error (.of (.invalidPattern (String.ofList (dottedChars s))
        Defect.empty.reason))
      else .ok ⟨.ofList g, .ofList (ClassPattern.regexOf g)⟩ := by
  have hagain : dottedChars (String.ofList (dottedChars s)).toList = g := by
    rw [String.toList_ofList, h, dottedChars_of_append_suffix h]
  by_cases hempty : g = []
  · rw [if_pos hempty, ClassPattern.normalize, hagain, hempty]
    rfl
  · rw [if_neg hempty]
    refine normalize_of_defect?_eq_none hagain (defect?_eq_none_iff.mpr ⟨hempty, ?_⟩)
    intro c hc
    exact (defect?_eq_none_iff.mp hdefect).2 c (by rw [h]; exact List.mem_append_left _ hc)

/-- A pattern that is normal already is kept, given as it is or as its glob, exactly if its glob does
not end with the class file suffix. From a glob that does, one suffix is dropped, and if nothing is
left the pattern is refused. -/
theorem renormalize_eq_self_iff (pattern : String) (p : ClassPattern)
    (h : ClassPattern.normalize pattern = .ok p) :
    (p.renormalize = .ok p ∧ ClassPattern.normalize p.glob = .ok p ↔
      ¬suffix <:+ p.glob.toList) ∧
    ∀ g, p.glob.toList = g ++ suffix → p.renormalize =
      if g = [] then .error (.of (.invalidPattern p.glob Defect.empty.reason))
      else .ok ⟨.ofList g, .ofList (ClassPattern.regexOf g)⟩ := by
  obtain ⟨hdefect, rfl⟩ := normalize_eq_ok h
  simp only [String.toList_ofList, ClassPattern.renormalize, and_self]
  have hdropped := fun g => normalize_of_append_suffix (g := g) hdefect
  refine ⟨⟨fun hkept => ?_, fun hsuffix => ?_⟩, hdropped⟩
  · rintro ⟨g, hg⟩
    have hagain := hdropped g hg.symm
    rw [hkept] at hagain
    split at hagain
    · simp at hagain
    · have hglob := congrArg ClassPattern.glob (Except.ok.inj hagain)
      have hlist : dottedChars pattern.toList = g := String.ofList_inj.mp hglob
      rw [hlist] at hg
      simp [suffix] at hg
  · refine normalize_of_defect?_eq_none ?_ hdefect
    rw [String.toList_ofList, dottedChars_dottedChars hsuffix (not_mem_lineFeed hdefect)]

/-- A class file suffix that is left is dropped by the second time. -/
theorem sample_renormalize_drops :
    ∃ p, ClassPattern.normalize "com/class" = .ok p ∧ p.glob = "com.class" ∧
      ¬(p.renormalize = .ok p ∧ ClassPattern.normalize p.glob = .ok p) := by
  have hnormal : ClassPattern.normalize "com/class" = .ok ⟨"com.class", "com\\.class"⟩ := by rfl
  refine ⟨_, hnormal, rfl, fun hkept => ?_⟩
  have hsuffix := (renormalize_eq_self_iff _ _ hnormal).1.mp hkept
  exact hsuffix (by decide +kernel)

end TestImpact.Proofs
