import TestImpact.Proofs.Pattern.Collapsing
import TestImpact.Proofs.Pattern.Spelling

/-!
# Class patterns as path globs

A class pattern may be meant as the glob of a path and is then read segment by segment: a double
star that is a segment of its own stands for any number of segments, every other segment for one. A
class that is selected by this reading is matched by the class pattern too.
-/

namespace TestImpact.Proofs
open Pattern

variable {segment name tail glob s : List Char} {segments names : List (List Char)}

/-! ### The reading by segments -/

/-- What one segment stands for: a star for any run of characters, a question mark for one
character, and every other character for itself. -/
inductive Fits : List Char → List Char → Prop
  | done : Fits [] []
  | star (run : List Char) {segment name : List Char} : Fits segment name →
      Fits ('*' :: segment) (run ++ name)
  | mark {c : Char} {segment name : List Char} : Fits segment name →
      Fits ('?' :: segment) (c :: name)
  | same {c : Char} {segment name : List Char} : c ≠ '*' → c ≠ '?' → Fits segment name →
      Fits (c :: segment) (c :: name)

/-- What a list of segments stands for. -/
inductive FitsPath : List (List Char) → List (List Char) → Prop
  | done : FitsPath [] []
  | anySegments (names : List (List Char)) {segments rest : List (List Char)} :
      FitsPath segments rest → FitsPath (['*', '*'] :: segments) (names ++ rest)
  | oneSegment {segment name : List Char} {segments names : List (List Char)} :
      segment ≠ ['*', '*'] → Fits segment name → FitsPath segments names →
      FitsPath (segment :: segments) (name :: names)

/-- The segments of a path glob. A class file suffix at its end belongs to none of them. -/
def globSegments (pattern : List Char) : List (List Char) :=
  (if suffix <:+ pattern then pattern.take (pattern.length - suffix.length)
    else pattern).splitOnP isDivider

/-- A name is selected by a class pattern that is read as a path glob. -/
def SelectedByPath (pattern name : String) : Prop :=
  FitsPath (globSegments pattern.toList) (name.toList.splitOn '.')

/-! ### Segments with a dot before each -/

/-- Every segment with a dot before it: then each of them is added in the same way, also the first
one, and none of them leaves a dot over if it stands for no segment. -/
def dotted (segments : List (List Char)) : List Char := segments.flatMap ('.' :: ·)

lemma dotted_splitOnP (p : Char → Bool) (s : List Char) :
    dotted (s.splitOnP p) = '.' :: s.map fun c => if p c then '.' else c := by
  induction s with
  | nil => rfl
  | cons c s ih =>
    rw [List.splitOnP_cons_eq_if_modifyHead, List.map_cons]
    by_cases hc : p c = true
    · rw [if_pos hc, if_pos hc, ← ih]
      rfl
    · rw [if_neg hc, if_neg hc]
      obtain ⟨first, rest, hpieces⟩ := List.exists_cons_of_ne_nil (List.splitOnP_ne_nil p s)
      rw [hpieces] at ih ⊢
      exact congrArg ('.' :: c :: ·) (List.cons.inj ih).2

lemma not_mem_of_mem_splitOnP {p : Char → Bool} {c : Char} (hc : p c = true)
    (h : segment ∈ s.splitOnP p) : c ∉ segment := by
  induction s generalizing segment with
  | nil =>
    rw [List.splitOnP_nil, List.mem_singleton] at h
    simp [h]
  | cons d s ih =>
    rw [List.splitOnP_cons_eq_if_modifyHead] at h
    by_cases hd : p d = true
    · rw [if_pos hd] at h
      rcases List.mem_cons.mp h with rfl | hm
      · simp
      · exact ih hm
    · rw [if_neg hd] at h
      obtain ⟨first, rest, hpieces⟩ := List.exists_cons_of_ne_nil (List.splitOnP_ne_nil p s)
      rw [hpieces] at h ih
      rcases List.mem_cons.mp h with rfl | hm
      · have hne : c ≠ d := fun he => hd (he ▸ hc)
        exact List.not_mem_cons_of_ne_of_not_mem hne (ih List.mem_cons_self)
      · exact ih (List.mem_cons_of_mem _ hm)

lemma dotted_splitOn (name : List Char) : dotted (name.splitOn '.') = '.' :: name := by
  rw [List.splitOn, dotted_splitOnP]
  refine congrArg ('.' :: ·) ?_
  calc name.map (fun c => if c == '.' then '.' else c)
      = name.map id := List.map_congr_left fun c _ => by
        by_cases hc : c = '.' <;> simp [hc]
    _ = name := List.map_id name

lemma dotted_globSegments (h : '\n' ∉ s) :
    dotted (globSegments s) = '.' :: separatorsAsDots (dropSuffix s) := by
  have hmap : ∀ t : List Char, (t.map fun c => if isDivider c then '.' else c) =
      separatorsAsDots t := by
    intro t
    refine List.map_congr_left fun c _ => ?_
    by_cases hdot : c = '.'
    · rw [hdot]
      rfl
    · simp [isDivider, isSeparator, hdot]
  rw [globSegments, dotted_splitOnP, hmap]
  by_cases hsuffix : suffix <:+ s
  · obtain ⟨g, rfl⟩ := hsuffix
    rw [if_pos (List.suffix_append g suffix), dropSuffix_append, List.length_append,
      Nat.add_sub_cancel, List.take_left]
  · rw [if_neg hsuffix, dropSuffix_eq_self hsuffix (not_lineFeed_suffix h)]

/-! ### What the reading selects -/

lemma covers_of_fits (h : Fits segment name) (hdot : '.' ∉ name) (hfeed : '\n' ∉ name ++ tail)
    (htail : Covers glob tail) : Covers (segment ++ glob) (name ++ tail) := by
  induction h with
  | done => exact htail
  | star run _ ih =>
    rw [List.append_assoc] at hfeed ⊢
    obtain ⟨hrun, hname⟩ := not_or.mp (mt List.mem_append.mpr hdot)
    exact (ih hname fun hm => hfeed (List.mem_append_right _ hm)).star run hrun hfeed
  | mark _ ih =>
    have hrest := ih (List.not_mem_of_not_mem_cons hdot) (List.not_mem_of_not_mem_cons hfeed)
    exact hrest.mark (List.ne_of_not_mem_cons hdot).symm
  | same hstar hmark _ ih =>
    have hrest := ih (List.not_mem_of_not_mem_cons hdot) (List.not_mem_of_not_mem_cons hfeed)
    exact hrest.literal hstar hmark (List.not_mem_of_not_mem_cons hfeed)

/-- A double star takes the segments that it stands for with the dots before them, and its own dot
is absorbed by it. -/
lemma covers_of_fitsPath (h : FitsPath segments names) (hdot : ∀ name ∈ names, '.' ∉ name)
    (hfeed : '\n' ∉ dotted names) : Covers (dotted segments) (dotted names) := by
  induction h with
  | done => exact .done
  | @anySegments names segments rest _ ih =>
    have hparts : dotted (names ++ rest) = dotted names ++ dotted rest := List.flatMap_append
    rw [hparts] at hfeed ⊢
    have hrest := ih (fun name hm => hdot name (List.mem_append_right _ hm))
      fun hm => hfeed (List.mem_append_right _ hm)
    have hrun : IsRun ['.', '*', '*'] := by decide
    exact hrest.doubleStar (dotted names) hrun rfl hfeed
  | oneSegment _ hfits _ ih =>
    obtain ⟨hname, hnames⟩ := List.forall_mem_cons.mp hdot
    have hall : '\n' ∉ _ ++ dotted _ := List.not_mem_of_not_mem_cons hfeed
    have hrest := ih hnames fun hm => hall (List.mem_append_right _ hm)
    exact (covers_of_fits hfits hname hall hrest).dot hall

lemma selects_dot (h : Selects ('.' :: glob) name) :
    ∃ rest, name = '.' :: rest ∧ Selects glob rest := by
  cases h with
  | literal _ _ hrest => exact ⟨_, rfl, hrest⟩

/-- What no run starts takes no dot first. -/
lemma EndsRun.not_selects_dot (hs : EndsRun glob) : ¬Selects glob ('.' :: name) := by
  generalize hdot : '.' :: name = text
  intro h
  cases h with
  | done => cases hdot
  | anyRun => exact absurd (hs '*' rfl) (by decide)
  | nameRun => exact absurd (hs '*' rfl) (by decide)
  | nameChar hc => exact hc (List.cons.inj hdot).1.symm
  | literal => exact absurd (hs '.' (by rw [(List.cons.inj hdot).1]; rfl)) (by decide)

/-- A dot before both the glob and the name may be left out. -/
lemma Covers.of_dot (hfeed : '\n' ∉ name) (h : Covers ('.' :: glob) ('.' :: name)) :
    Covers glob name := by
  obtain ⟨run, s, rfl, hrun, hs⟩ := exists_run glob
  have hlong : IsRun ('.' :: run) := hrun.cons rfl
  obtain ⟨before, after, hname, hbefore, hafter⟩ := (selects_collapse_iff hlong hs).mp h
  rw [Covers, selects_collapse_iff hrun hs]
  by_cases hdouble : hasDoubleStar run = true
  · cases before with
    | nil =>
      rw [List.nil_append] at hname
      rw [← hname] at hafter
      exact absurd hafter hs.collapse.not_selects_dot
    | cons d before =>
      obtain ⟨rfl, rfl⟩ := List.cons.inj hname
      refine ⟨before, after, rfl, (selects_collapsedRun_iff hdouble).mpr ?_, hafter⟩
      exact fun hm => hfeed (List.mem_append_left _ hm)
  · rw [collapsedRun, hasDoubleStar_dot, if_neg hdouble] at hbefore
    obtain ⟨rest, rfl, hrest⟩ := selects_dot hbefore
    rw [collapsedRun, if_neg hdouble]
    exact ⟨rest, after, (List.cons.inj hname).2, hrest, hafter⟩

/-! ### Class patterns -/

lemma lineFeed_not_mem_pattern {pattern : String} {p : ClassPattern}
    (h : ClassPattern.normalize pattern = .ok p) : '\n' ∉ pattern.toList := by
  intro hm
  have hrefused : IsRefused pattern := .inr (.inr ⟨_, hm, by decide⟩)
  exact (isRefused_iff pattern).mp hrefused (normalize_eq_ok h).1

/-- No class is lost: whatever a class pattern selects as a path glob, segment by segment, it
matches after it was normalized. -/
theorem accepts_of_selectedByPath (pattern : String) (p : ClassPattern)
    (h : ClassPattern.normalize pattern = .ok p) (name : String) (hfeed : '\n' ∉ name.toList)
    (hpath : SelectedByPath pattern name) : p.accepts name = true := by
  have hsegments := dotted_globSegments (lineFeed_not_mem_pattern h)
  have hnames := dotted_splitOn name.toList
  have hcovers : Covers (dotted (globSegments pattern.toList))
      (dotted (name.toList.splitOn '.')) := by
    refine covers_of_fitsPath hpath (fun segment hm => not_mem_of_mem_splitOnP (by decide) hm) ?_
    rw [hnames]
    simpa using hfeed
  rw [hsegments, hnames] at hcovers
  rw [eq_compiled_of_normalize h, accepts_compiled_iff]
  exact hcovers.of_dot hfeed

/-- A double star stands for no segment at all, and one inside a segment for a part of it. -/
theorem sample_selectedByPath :
    ∃ p, ClassPattern.normalize "com/**/a**b/?x*.class" = .ok p ∧
      SelectedByPath "com/**/a**b/?x*.class" "com.a1b.Ox" ∧ p.accepts "com.a1b.Ox" = true := by
  have hnormal : ClassPattern.normalize "com/**/a**b/?x*.class" =
      .ok ⟨"com**a**b.?x*", "com.*a.*b\\.[^.]x[^.]*"⟩ := by rfl
  have hglob : globSegments "com/**/a**b/?x*.class".toList =
      [['c', 'o', 'm'], ['*', '*'], ['a', '*', '*', 'b'], ['?', 'x', '*']] := by rfl
  have hname : "com.a1b.Ox".toList.splitOn '.' =
      [['c', 'o', 'm'], ['a', '1', 'b'], ['O', 'x']] := by rfl
  have hfirst : Fits ['c', 'o', 'm'] ['c', 'o', 'm'] :=
    .same (by decide) (by decide)
      (.same (by decide) (by decide) (.same (by decide) (by decide) .done))
  have hsecond : Fits ['a', '*', '*', 'b'] ['a', '1', 'b'] :=
    .same (by decide) (by decide)
      (.star ['1'] (.star [] (.same (by decide) (by decide) .done)))
  have hthird : Fits ['?', 'x', '*'] ['O', 'x'] :=
    .mark (.same (by decide) (by decide) (.star [] .done))
  have hpath : SelectedByPath "com/**/a**b/?x*.class" "com.a1b.Ox" := by
    rw [SelectedByPath, hglob, hname]
    refine .oneSegment (by decide) hfirst (.anySegments [] ?_)
    exact .oneSegment (by decide) hsecond (.oneSegment (by decide) hthird .done)
  exact ⟨_, hnormal, hpath, accepts_of_selectedByPath _ _ hnormal _ (by decide) hpath⟩

end TestImpact.Proofs
