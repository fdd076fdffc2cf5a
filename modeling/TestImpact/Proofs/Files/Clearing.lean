import TestImpact.Proofs.Files.Growth

/-!
# Paths that stay clear

A path without double dots at which nothing is has no file either once the directories above it were
made, nor after further directories were made. With double dots it may: the directory before the dots
can be what the walk to an old file was stopped at.
-/

namespace TestImpact.Proofs
open Files

variable {fs mid later : Files} {cwd l : Location} {p : Path} {name : String} {follow : Bool}
  {links n : Nat} {spot : Spot}

/-- A path without double dots. -/
def Straight (p : Path) : Prop := ".." ∉ p.segments

instance (p : Path) : Decidable (Straight p) := inferInstanceAs (Decidable (_ ∉ _))

lemma Straight.parent (h : Straight p) : Straight p.parent :=
  fun hm => h ((List.dropLast_sublist _).mem hm)

lemma exists_last_segment (h : p.segments ≠ []) :
    ∃ name, p.segments = p.parent.segments ++ [name] ∧ IsSegment name :=
  ⟨p.segments.getLast h, (List.dropLast_concat_getLast h).symm,
    p.valid _ (List.getLast_mem h)⟩

/-- What is at a path is found in the directory that is at its parent. -/
lemma leads_of_find (hsegs : p.segments = p.parent.segments ++ [name])
    (hparent : fs.find cwd true p.parent = .ok ⟨l, some .dir⟩) :
    ∃ left, ∀ follow spot, fs.find cwd follow p = .ok spot ↔
      hasNull p.toText = false ∧ p.toText.utf8ByteSize ≤ maxPath ∧
        Leads fs follow left l [name] spot := by
  obtain ⟨-, -, hleads⟩ := find_eq_ok_iff.mp hparent
  obtain ⟨left, hleft⟩ := walk_append hleads
  refine ⟨left, fun follow spot => ?_⟩
  have hstart : startOf cwd p.parent = startOf cwd p := rfl
  rw [find_eq_ok_iff, ← walk_eq_ok_iff, ← walk_eq_ok_iff, hsegs, ← hstart,
    hleft follow [name] (by simp)]

/-- A single name leads to the entry of that name, or to where a link with that name points. -/
lemma get?_of_leads_name (hname : IsSegment name) (hdots : name ≠ "..")
    (h : Leads fs follow links l [name] spot) :
    IsName name ∧ (fs.get? (name :: l) = spot.entry ∨ ∃ target, fs.get? (name :: l) = some (.link target)) := by
  cases h with
  | skip hskip _ =>
    rcases hskip with he | hd
    · exact absurd he hname.1
    · exact absurd hd hname.2.1
  | up _ => exact absurd rfl hdots
  | absent hn hget => exact ⟨hn, .inl hget⟩
  | enter hn hget hrest =>
    cases hrest
    exact ⟨hn, .inl hget⟩
  | found hn hget _ _ => exact ⟨hn, .inl hget⟩
  | jump hn hget _ _ _ => exact ⟨hn, .inr ⟨_, hget⟩⟩

/-- A directory that could be made with those above it was there before, or nothing is in it. -/
lemma ensureDirFrom_fresh (hp : Straight p) (h : ensureDirFrom cwd n p fs = (later, .ok ())) :
    later = fs ∨ ∃ l, later.find cwd true p = .ok ⟨l, some .dir⟩ ∧
      ∀ name, later.get? (name :: l) = none := by
  induction n generalizing p later with
  | zero =>
    rcases ensureDirFrom_eq_ok h with hmade | ⟨rfl, -⟩ | ⟨m, _, _, hn, -⟩
    · exact .inr (makeDir_fresh hmade)
    · exact .inl rfl
    · omega
  | succ n ih =>
    rcases ensureDirFrom_eq_ok h with hmade | ⟨rfl, -⟩ |
      ⟨m, above, g, hn, hg, hmissing, habove, hmade | ⟨rfl, ⟨d, hd⟩, g', hg', hthere⟩⟩
    · exact .inr (makeDir_fresh hmade)
    · exact .inl rfl
    · exact .inr (makeDir_fresh hmade)
    obtain rfl : n = m := by omega
    -- The directory turned out to be there after its parent was made, which needs double dots.
    exfalso
    rcases ih hp.parent habove with rfl | ⟨l, hl, hempty⟩
    · rw [hg, Except.error.injEq] at hg'
      rw [hg', hthere] at hmissing
      exact Bool.false_ne_true hmissing
    by_cases hsegs : p.segments = []
    · have hroot : ∃ spot, fs.find cwd false p = .ok ⟨spot, some .dir⟩ := by
        obtain ⟨hnull, hsize, -⟩ := find_eq_ok_iff.mp hd
        refine ⟨startOf cwd p, find_eq_ok_iff.mpr ⟨hnull, hsize, ?_⟩⟩
        rw [hsegs]
        exact .here
      obtain ⟨root, hroot⟩ := hroot
      rw [makeDir, hroot] at hg
      cases hg
      simp [errorAt, isMissing, OsError.kind] at hmissing
    · obtain ⟨name, hlast, hname⟩ := exists_last_segment hsegs
      have hdots : name ≠ ".." := fun he => hp (by rw [hlast, he]; simp)
      obtain ⟨left, hleft⟩ := leads_of_find hlast hl
      obtain ⟨-, -, hleads⟩ := (hleft _ _).mp hd
      rcases get?_of_leads_name hname hdots hleads with ⟨-, hget | ⟨target, hget⟩⟩
      · simp [hempty] at hget
      · simp [hempty] at hget

/-- Where nothing was, nothing is after the directory around it was made. -/
lemma not_present_of_ensureDirFrom (hp : Straight p) (hne : p.segments ≠ [])
    (hvacant : Vacant fs cwd p) (h : ensureDirFrom cwd n p.parent fs = (later, .ok ())) :
    ¬Present later cwd p := by
  rcases ensureDirFrom_fresh hp.parent h with rfl | ⟨l, hl, hempty⟩
  · exact hvacant.not_present
  rintro ⟨m, e, hfind⟩
  obtain ⟨name, hlast, hname⟩ := exists_last_segment hne
  have hdots : name ≠ ".." := fun he => hp (by rw [hlast, he]; simp)
  obtain ⟨left, hleft⟩ := leads_of_find hlast hl
  obtain ⟨-, -, hleads⟩ := (hleft _ _).mp hfind
  have hnone := hempty name
  rcases get?_of_leads_name hname hdots hleads with ⟨-, hget | ⟨target, hget⟩⟩
  · rw [hnone] at hget
    cases hget
  · rw [hnone] at hget
    cases hget

/-- Where nothing was, no file is to be seen after the directories above were made and others. -/
theorem not_fileAt_of_ensureDirFrom (hp : Straight p) (hne : p.segments ≠ [])
    (hvacant : Vacant fs cwd p) (h : ensureDirFrom cwd n p.parent fs = (mid, .ok ()))
    (hgrows : Grows mid later) : ¬FileAt later cwd p := by
  rintro ⟨at_, content, executable, hfile⟩
  obtain ⟨name, hlast, hname⟩ := exists_last_segment hne
  have hdots : name ≠ ".." := fun he => hp (by rw [hlast, he]; simp)
  -- The parent is the same directory in both trees.
  obtain ⟨l, hl⟩ := ensureDirFrom_dirAt h
  obtain ⟨left, hleft⟩ := leads_of_find hlast (find_dir_grows hgrows hl)
  obtain ⟨hnull, hsize, hleads⟩ := (hleft _ _).mp hfile
  obtain ⟨hplain, hget⟩ := get?_of_leads_name hname hdots hleads
  -- What is at the name is no directory, so it was there before.
  obtain ⟨e, hdir, he⟩ : ∃ e, e ≠ .dir ∧ later.get? (name :: l) = some e := by
    rcases hget with hget | ⟨target, hget⟩
    · exact ⟨_, by simp, hget⟩
    · exact ⟨_, by simp, hget⟩
  have hmid : mid.get? (name :: l) = some e := by
    cases hm : mid.get? (name :: l) with
    | none =>
      rcases hgrows.adds _ hm with hn | hd
      · simp [hn] at he
      · rw [hd] at he
        exact absurd (Option.some.inj he).symm hdir
    | some e' => rw [← hgrows.keeps _ _ hm, he]
  obtain ⟨left, hleft⟩ := leads_of_find hlast hl
  have hthere : mid.find cwd false p = .ok ⟨name :: l, some e⟩ :=
    (hleft _ _).mpr ⟨hnull, hsize, .found hplain hmid hdir (fun _ _ => rfl)⟩
  exact not_present_of_ensureDirFrom hp hne hvacant h ⟨_, _, hthere⟩

end TestImpact.Proofs
