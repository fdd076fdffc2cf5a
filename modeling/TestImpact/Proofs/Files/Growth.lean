import TestImpact.Proofs.Files.Walk

/-!
# Removing files and making directories

What is at a path after the file there was removed, and after directories were made. Making a
directory with those above it only adds directories, and a program that stands in a directory stands
there still.
-/

namespace TestImpact.Proofs
open Files

variable {fs later : Files} {cwd l : Location} {p : Path} {follow : Bool} {spot : Spot} {f : Fault}

/-! ### What is at a path -/

/-- An entry is at the path; a link is not followed. -/
def Present (fs : Files) (cwd : Location) (p : Path) : Prop :=
  ∃ l e, fs.find cwd false p = .ok ⟨l, some e⟩

instance (fs : Files) (cwd : Location) (p : Path) : Decidable (Present fs cwd p) :=
  match h : fs.find cwd false p with
  | .ok ⟨l, some e⟩ => .isTrue ⟨l, e, h⟩
  | .ok ⟨_, none⟩ => .isFalse fun ⟨_, _, h'⟩ => by simp [h] at h'
  | .error _ => .isFalse fun ⟨_, _, h'⟩ => by simp [h] at h'

/-- A file is at the path, with links followed. -/
def FileAt (fs : Files) (cwd : Location) (p : Path) : Prop :=
  ∃ l content executable, fs.find cwd true p = .ok ⟨l, some (.file content executable)⟩

/-- A directory is at the path, with links followed. -/
def DirAt (fs : Files) (cwd : Location) (p : Path) : Prop :=
  ∃ l, fs.find cwd true p = .ok ⟨l, some .dir⟩

/-- The system says that there is no entry at the path. -/
def Vacant (fs : Files) (cwd : Location) (p : Path) : Prop :=
  (∃ l, fs.find cwd false p = .ok ⟨l, none⟩) ∨ fs.find cwd false p = .error (errorAt .noEntry p)

/-- The location from which a path is walked. -/
def startOf (cwd : Location) (p : Path) : Location := if p.isAbsolute then [] else cwd

lemma find_eq_ok_iff :
    fs.find cwd follow p = .ok spot ↔
      hasNull p.toText = false ∧ p.toText.utf8ByteSize ≤ maxPath ∧
        Leads fs follow maxLinks (startOf cwd p) p.segments spot := by
  rw [← walk_eq_ok_iff, find, locate, startOf]
  by_cases hnull : hasNull p.toText = true
  · simp [hnull]
  · by_cases hsize : maxPath < p.toText.utf8ByteSize
    · simp [hnull, hsize, Nat.not_le.mpr hsize]
    · simp only [hnull, Bool.false_eq_true, if_false, hsize, true_and, Nat.not_lt.mp hsize]
      split
      · rename_i found h
        simp [h]
      · rename_i kind h
        simp [h]

lemma Vacant.not_present (h : Vacant fs cwd p) : ¬Present fs cwd p := by
  rintro ⟨l, e, hfind⟩
  rcases h with ⟨m, hm⟩ | hm
  · simp [hfind] at hm
  · simp [hfind] at hm

lemma stat_eq_ok_iff {e : Entry} :
    fs.stat cwd p = .ok e ↔ ∃ l, fs.find cwd true p = .ok ⟨l, some e⟩ := by
  rw [stat]
  split
  · rename_i l e' h
    simp [h]
  · rename_i l h
    simp [h]
  · rename_i g h
    simp [h]

lemma look?_eq_some_iff {e : Entry} :
    fs.look? cwd p = .ok (some e) ↔ ∃ l, fs.find cwd true p = .ok ⟨l, some e⟩ := by
  rw [← stat_eq_ok_iff, look?]
  split
  · rename_i e' h
    simp [h]
  · rename_i g h
    split
    · simp [h]
    · simp [h]
  · rename_i h
    simp [h]
  · rename_i g _ _ h
    simp [h]

lemma isDir_eq_true_iff : fs.isDir cwd p = .ok true ↔ DirAt fs cwd p := by
  rw [DirAt, ← look?_eq_some_iff, isDir]
  cases fs.look? cwd p with
  | error g => simp [Except.map]
  | ok found => simp [Except.map]

lemma isFile_eq_true_iff : fs.isFile cwd p = .ok true ↔ FileAt fs cwd p := by
  have hfile : FileAt fs cwd p ↔
      ∃ content executable, fs.look? cwd p = .ok (some (.file content executable)) := by
    simp only [look?_eq_some_iff, FileAt]
    constructor
    · rintro ⟨l, content, executable, h⟩
      exact ⟨content, executable, l, h⟩
    · rintro ⟨content, executable, l, h⟩
      exact ⟨l, content, executable, h⟩
  rw [hfile, isFile]
  cases fs.look? cwd p with
  | error g => simp [Except.map]
  | ok found =>
    cases found with
    | none => simp [Except.map]
    | some e => cases e <;> simp [Except.map]

/-! ### Where a program stands -/

lemma standing_erase (h : Handle) : (fs.erase l).standing h = fs.standing h := by
  by_cases hl : l ≠ [] ∧ fs.get? l ≠ some .dir
  · have hbirths : (fs.erase l).births = fs.births := by rw [erase, dif_pos hl]
    have hat : (fs.erase l).isDirAt h = fs.isDirAt h := by
      funext m
      have hdir : (fs.erase l).get? m = some .dir ↔ fs.get? m = some .dir := by
        rw [get?_erase fs hl.1 hl.2]
        by_cases hm : m = l
        · rw [if_pos hm, hm]
          simp [hl.2]
        · rw [if_neg hm]
      simp only [isDirAt, number, hbirths, hdir]
    simp only [standing, directory?, seek, hat, hbirths]
  · rw [erase, dif_neg hl]

lemma standing_place_dir {name : String} {dir : Location} {h : Handle}
    (hdir : fs.get? dir = some .dir) (hnone : fs.get? (name :: dir) = none)
    (hknown : h.number ≤ fs.made) :
    (fs.place name dir .dir).standing h = fs.standing h := by
  have hplace : fs.get? dir = some .dir ∧ fs.get? (name :: dir) ≠ some .dir :=
    ⟨hdir, by simp [hnone]⟩
  have hbirths : (fs.place name dir .dir).births = (name :: dir, fs.made + 1) :: fs.births := by
    rw [place, dif_pos hplace]
    simp [Entry.isFile, renew]
  -- The new directory has a number that was not given before, so it is not the one that is held.
  have hat : (fs.place name dir .dir).isDirAt h = fs.isDirAt h := by
    funext m
    rw [isDirAt, isDirAt, get?_place fs _ hplace.1 hplace.2, number, number, hbirths]
    by_cases hm : m = name :: dir
    · rw [hm, hnone]
      simp only [if_true, List.lookup_cons, BEq.rfl, Option.getD_some]
      have : ¬fs.made + 1 = h.number := by omega
      simp [this]
    · have hm' : (m == name :: dir) = false := by simpa using hm
      simp only [if_neg hm, List.lookup_cons, hm']
  have hnew : fs.isDirAt h (name :: dir) = false := by simp [isDirAt, hnone]
  simp only [standing, directory?, seek, hat, hbirths, List.map_cons, List.find?_cons, hnew]

/-! ### Removing a file -/

lemma unlink_eq_ok_iff :
    fs.unlink cwd p = .ok later ↔
      ∃ l e, fs.find cwd false p = .ok ⟨l, some e⟩ ∧ e ≠ .dir ∧ later = fs.erase l := by
  rw [unlink]
  split
  · rename_i g h
    simp [h]
  · rename_i l h
    simp [h]
  · rename_i l h
    simp only [reduceCtorEq, h, Except.ok.injEq, Spot.mk.injEq, Option.some.injEq, false_iff,
      not_exists, not_and]
    rintro m e ⟨-, he⟩ hdir
    exact absurd he.symm hdir
  · rename_i l e hdir h
    simp only [h, Except.ok.injEq, Spot.mk.injEq, Option.some.injEq]
    constructor
    · rintro rfl
      exact ⟨l, e, ⟨rfl, rfl⟩, fun he => hdir (by rw [he]), rfl⟩
    · rintro ⟨m, e', ⟨rfl, rfl⟩, -, rfl⟩
      rfl

/-- What an unlinked path leads to can be told from the tree before. -/
lemma get?_of_unlink (h : fs.unlink cwd p = .ok later) :
    ∃ l e, fs.find cwd false p = .ok ⟨l, some e⟩ ∧ e ≠ .dir ∧ fs.get? l = some e ∧
      ∀ m, later.get? m = if m = l then none else fs.get? m := by
  obtain ⟨l, e, hfind, hdir, rfl⟩ := unlink_eq_ok_iff.mp h
  have hget : fs.get? l = some e := by
    rcases get?_of_leads (find_eq_ok_iff.mp hfind).2.2 with hd | hg
    · exact absurd (Option.some.inj hd) hdir
    · exact hg
  have hl : l ≠ [] := by
    rintro rfl
    exact hdir (Option.some.inj hget).symm
  refine ⟨l, e, hfind, hdir, hget, get?_erase fs hl ?_⟩
  rw [hget]
  simpa using hdir

/-- Once the file at a path is removed, nothing is there. -/
lemma vacant_of_unlink (h : fs.unlink cwd p = .ok later) : Vacant later cwd p := by
  obtain ⟨l, e, hfind, hdir, -, hget⟩ := get?_of_unlink h
  obtain ⟨hnull, hsize, hleads⟩ := find_eq_ok_iff.mp hfind
  rw [Vacant, find, locate]
  rcases walk_without hdir hget hleads with hw | hw
  · left
    refine ⟨l, ?_⟩
    rw [startOf] at hw
    simp [hnull, Nat.not_lt.mpr hsize, hw]
  · right
    rw [startOf] at hw
    simp [hnull, Nat.not_lt.mpr hsize, hw]

lemma standing_of_unlink (h : fs.unlink cwd p = .ok later) (held : Handle) :
    later.standing held = fs.standing held := by
  obtain ⟨l, e, -, -, rfl⟩ := unlink_eq_ok_iff.mp h
  exact standing_erase held

lemma made_of_unlink (h : fs.unlink cwd p = .ok later) : later.made = fs.made := by
  obtain ⟨l, e, -, -, rfl⟩ := unlink_eq_ok_iff.mp h
  rw [erase]
  split <;> rfl

/-- A file that is not there cannot be removed. -/
lemma vacant_of_unlink_noEntry {e : OsError} (h : fs.unlink cwd p = .error (.os e))
    (he : e.kind = .noEntry) : Vacant fs cwd p := by
  rw [unlink] at h
  split at h
  · rename_i g hfind
    cases h
    right
    rw [hfind]
    rw [find] at hfind
    split at hfind
    · simp at hfind
    · split at hfind
      · simp at hfind
      · rename_i kind _
        simp only [errorAt, Except.error.injEq, Fault.os.injEq] at hfind
        subst hfind
        simp only [OsError.kind] at he
        rw [he, errorAt]
  · rename_i l hfind
    exact .inl ⟨l, hfind⟩
  · simp only [errorAt, Except.error.injEq, Fault.os.injEq] at h
    subst h
    simp [OsError.kind] at he
  · simp at h

/-! ### Making directories -/

lemma makeDir_eq_ok (h : fs.makeDir cwd p = .ok later) :
    ∃ name dir, fs.find cwd false p = .ok ⟨name :: dir, none⟩ ∧ fs.get? dir = some .dir ∧
      fs.get? (name :: dir) = none ∧ later = fs.place name dir .dir := by
  rw [makeDir] at h
  split at h
  · simp at h
  · simp at h
  · rename_i l hfind
    cases l with
    | nil => simp [create] at h
    | cons name dir =>
      rw [create] at h
      split at h
      · rename_i hdir
        rcases get?_of_leads (find_eq_ok_iff.mp hfind).2.2 with hd | hg
        · simp at hd
        · exact ⟨name, dir, hfind, hdir, hg, (Except.ok.inj h).symm⟩
      · simp at h

lemma get?_place_dir {name : String} {dir : Location} (hdir : fs.get? dir = some .dir)
    (hnone : fs.get? (name :: dir) = none) (m : Location) :
    (fs.place name dir .dir).get? m = if m = name :: dir then some .dir else fs.get? m :=
  get?_place fs .dir hdir (by simp [hnone]) m

/-- In a tree that has grown a directory is where it was. -/
lemma find_dir_grows (hgrows : Grows fs later) (h : fs.find cwd true p = .ok ⟨l, some .dir⟩) :
    later.find cwd true p = .ok ⟨l, some .dir⟩ := by
  obtain ⟨hnull, hsize, hleads⟩ := find_eq_ok_iff.mp h
  exact find_eq_ok_iff.mpr ⟨hnull, hsize, leads_grows hgrows hleads⟩

lemma exists_of_isMissing (h : isMissing f = true) : ∃ e, f = .os e ∧ e.kind = .noEntry := by
  cases f with
  | os e => exact ⟨e, rfl, by simpa [isMissing] using h⟩
  | _ => simp [isMissing] at h

/-- A tree in which directories were made: whoever stands somewhere stands there still. -/
structure Built (fs later : Files) : Prop extends Grows fs later where
  made_le : fs.made ≤ later.made
  stands : ∀ h : Handle, h.number ≤ fs.made → later.standing h = fs.standing h

lemma Built.refl (fs : Files) : Built fs fs := ⟨.refl fs, Nat.le_refl _, fun _ _ => rfl⟩

lemma Built.trans {first second third : Files} (h : Built first second) (k : Built second third) :
    Built first third :=
  ⟨h.toGrows.trans k.toGrows, Nat.le_trans h.made_le k.made_le, fun held hheld => by
    rw [k.stands held (Nat.le_trans hheld h.made_le), h.stands held hheld]⟩

lemma makeDir_built (h : fs.makeDir cwd p = .ok later) : Built fs later := by
  obtain ⟨name, dir, -, hdir, hnone, rfl⟩ := makeDir_eq_ok h
  have hget := get?_place_dir hdir hnone
  refine ⟨⟨fun l e he => ?_, fun l hl => ?_⟩, ?_, fun held hheld =>
    standing_place_dir hdir hnone hheld⟩
  · have hne : l ≠ name :: dir := by
      rintro rfl
      simp [hnone] at he
    rw [hget, if_neg hne, he]
  · rw [hget]
    by_cases hm : l = name :: dir
    · exact .inr (if_pos hm)
    · exact .inl (by rw [if_neg hm, hl])
  · have hplace : fs.get? dir = some .dir ∧ fs.get? (name :: dir) ≠ some .dir :=
      ⟨hdir, by simp [hnone]⟩
    rw [place, dif_pos hplace]
    simp [Entry.isFile, renew]

/-- A directory that was made is at its path, and all else is as it was. -/
lemma makeDir_found (h : fs.makeDir cwd p = .ok later) :
    ∃ l, later.find cwd true p = .ok ⟨l, some .dir⟩ ∧ fs.get? l = none ∧
      ∀ m, later.get? m = if m = l then some .dir else fs.get? m := by
  obtain ⟨name, dir, hfind, hdir, hnone, rfl⟩ := makeDir_eq_ok h
  have hget := get?_place_dir hdir hnone
  obtain ⟨hnull, hsize, hleads⟩ := find_eq_ok_iff.mp hfind
  refine ⟨name :: dir, find_eq_ok_iff.mpr ⟨hnull, hsize, ?_⟩, hnone, hget⟩
  have hgrown := leads_grows (makeDir_built h).toGrows (leads_follow hleads rfl)
  simpa [hget] using hgrown

/-- A directory that was just made is there, and nothing is in it. -/
lemma makeDir_fresh (h : fs.makeDir cwd p = .ok later) :
    ∃ l, later.find cwd true p = .ok ⟨l, some .dir⟩ ∧ ∀ name, later.get? (name :: l) = none := by
  obtain ⟨l, hfind, hnone, hget⟩ := makeDir_found h
  refine ⟨l, hfind, fun name => ?_⟩
  rw [hget, if_neg (by simp)]
  cases hbelow : fs.get? (name :: l) with
  | none => rfl
  | some e =>
    have hparent := fs.get?_parent (Option.isSome_of_eq_some hbelow)
    simp [hnone] at hparent

lemma makeDir_adds {e : Entry} (h : fs.makeDir cwd p = .ok later) (hnone : fs.get? l = none)
    (hthere : later.get? l = some e) : later.find cwd true p = .ok ⟨l, some .dir⟩ := by
  obtain ⟨m, hfind, -, hget⟩ := makeDir_found h
  by_cases hl : l = m
  · rw [hl, hfind]
  · rw [hget, if_neg hl, hnone] at hthere
    simp at hthere

/-- A directory and those above it are there once they could be made. The cases tell where the
directory comes from. -/
lemma ensureDirFrom_eq_ok {n : Nat} (h : ensureDirFrom cwd n p fs = (later, .ok ())) :
    fs.makeDir cwd p = .ok later ∨
    (later = fs ∧ DirAt fs cwd p) ∨
    ∃ m above g, n = m + 1 ∧ fs.makeDir cwd p = .error g ∧ isMissing g = true ∧
      ensureDirFrom cwd m p.parent fs = (above, .ok ()) ∧
      (above.makeDir cwd p = .ok later ∨
        later = above ∧ DirAt above cwd p ∧
          ∃ g', above.makeDir cwd p = .error g' ∧ isMissing g' = false) := by
  have hsettle : ∀ (fs : Files) (g : Fault), fs.settle cwd p g = .ok () → DirAt fs cwd p := by
    intro fs g hg
    cases g with
    | os e =>
      rw [settle] at hg
      cases hdir : fs.isDir cwd p with
      | error g => simp [hdir] at hg
      | ok there =>
        cases there with
        | false => simp [hdir] at hg
        | true => exact isDir_eq_true_iff.mp hdir
    | _ => simp [settle] at hg
  rw [ensureDirFrom] at h
  split at h
  · rename_i made hmade
    obtain ⟨rfl, -⟩ := Prod.mk.inj h
    exact .inl hmade
  · rename_i g hg
    split at h
    · rename_i hmissing
      split at h
      · simp at h
      · rename_i m
        split at h
        · simp at h
        · rename_i above habove
          right; right
          refine ⟨m, above, g, rfl, hg, hmissing, habove, ?_⟩
          split at h
          · rename_i made hmade
            obtain ⟨rfl, -⟩ := Prod.mk.inj h
            exact .inl hmade
          · rename_i g' hg'
            obtain ⟨rfl, hr⟩ := Prod.mk.inj h
            split at hr
            · simp at hr
            · rename_i hthere
              exact .inr ⟨rfl, hsettle _ _ hr, g', hg', by simpa using hthere⟩
    · obtain ⟨rfl, hr⟩ := Prod.mk.inj h
      exact .inr (.inl ⟨rfl, hsettle _ _ hr⟩)

lemma ensureDirFrom_dirAt {n : Nat} (h : ensureDirFrom cwd n p fs = (later, .ok ())) :
    DirAt later cwd p := by
  rcases ensureDirFrom_eq_ok h with hmade | ⟨rfl, hdir⟩ |
    ⟨m, above, g, -, -, -, -, hmade | ⟨rfl, hdir, -⟩⟩
  · obtain ⟨l, hl, -⟩ := makeDir_fresh hmade
    exact ⟨l, hl⟩
  · exact hdir
  · obtain ⟨l, hl, -⟩ := makeDir_fresh hmade
    exact ⟨l, hl⟩
  · exact hdir

lemma ensureDirFrom_built (cwd : Location) (n : Nat) (p : Path) (fs : Files) :
    Built fs (ensureDirFrom cwd n p fs).1 := by
  induction n generalizing p with
  | zero =>
    rw [ensureDirFrom]
    split
    · exact makeDir_built ‹_›
    · split <;> exact .refl fs
  | succ n ih =>
    rw [ensureDirFrom]
    split
    · exact makeDir_built ‹_›
    · split
      · have habove := ih p.parent
        dsimp only
        split
        · rename_i above g hg
          rwa [hg] at habove
        · rename_i above hg
          rw [hg] at habove
          split
          · rename_i made hmade
            exact habove.trans (makeDir_built hmade)
          · exact habove
      · exact .refl fs

/-! ### Where directories are made -/

/-- A path that another one starts with. -/
def IsLead (q p : Path) : Prop := q.anchor = p.anchor ∧ q.segments <+: p.segments

lemma IsLead.refl (p : Path) : IsLead p p := ⟨rfl, List.prefix_refl _⟩

lemma IsLead.of_parent {q : Path} (h : IsLead q p.parent) : IsLead q p :=
  ⟨h.1, h.2.trans (List.dropLast_prefix _)⟩

/-- What is new after a directory was made with those above it, or after that failed half way, is at
a path that the path of the directory starts with. -/
lemma ensureDirFrom_adds {n : Nat} {e : Entry} {result : Except Fault Unit}
    (h : ensureDirFrom cwd n p fs = (later, result)) (hnone : fs.get? l = none)
    (hthere : later.get? l = some e) :
    ∃ q, IsLead q p ∧ later.find cwd true q = .ok ⟨l, some .dir⟩ := by
  have hunchanged : later ≠ fs := by
    rintro rfl
    simp [hnone] at hthere
  induction n generalizing p later result e with
  | zero =>
    rw [ensureDirFrom] at h
    split at h
    · rename_i made hmade
      obtain ⟨rfl, -⟩ := Prod.mk.inj h
      exact ⟨p, .refl p, makeDir_adds hmade hnone hthere⟩
    · split at h <;> exact absurd (Prod.mk.inj h).1.symm hunchanged
  | succ n ih =>
    rw [ensureDirFrom] at h
    split at h
    · rename_i made hmade
      obtain ⟨rfl, -⟩ := Prod.mk.inj h
      exact ⟨p, .refl p, makeDir_adds hmade hnone hthere⟩
    split at h
    · dsimp only at h
      split at h
      · rename_i above g habove
        obtain ⟨rfl, -⟩ := Prod.mk.inj h
        obtain ⟨q, hq, hfind⟩ := ih habove hthere hunchanged
        exact ⟨q, hq.of_parent, hfind⟩
      · rename_i above habove
        -- What is new was made above the path, or it is the directory at the path itself.
        have hfound : ∀ e, above.get? l = some e →
            ∃ q, IsLead q p ∧ above.find cwd true q = .ok ⟨l, some .dir⟩ := by
          intro e he
          have hgrown : above ≠ fs := by
            rintro rfl
            simp [hnone] at he
          obtain ⟨q, hq, hfind⟩ := ih habove he hgrown
          exact ⟨q, hq.of_parent, hfind⟩
        split at h
        · rename_i made hmade
          obtain ⟨rfl, -⟩ := Prod.mk.inj h
          cases hbefore : above.get? l with
          | none => exact ⟨p, .refl p, makeDir_adds hmade hbefore hthere⟩
          | some e' =>
            obtain ⟨q, hq, hfind⟩ := hfound e' hbefore
            exact ⟨q, hq, find_dir_grows (makeDir_built hmade).toGrows hfind⟩
        · obtain ⟨rfl, -⟩ := Prod.mk.inj h
          exact hfound e hthere
    · exact absurd (Prod.mk.inj h).1.symm hunchanged

/-! ### Where directories stay -/

/-- Every directory is still there. -/
def KeepsDirs (fs later : Files) : Prop := ∀ l, fs.get? l = some .dir → later.get? l = some .dir

lemma KeepsDirs.refl (fs : Files) : KeepsDirs fs fs := fun _ h => h

lemma KeepsDirs.trans {first second third : Files} (h : KeepsDirs first second)
    (k : KeepsDirs second third) : KeepsDirs first third :=
  fun l hl => k l (h l hl)

lemma place_keepsDirs (fs : Files) (name : String) (dir : Location) (e : Entry) :
    KeepsDirs fs (fs.place name dir e) := by
  by_cases hplace : fs.get? dir = some .dir ∧ fs.get? (name :: dir) ≠ some .dir
  · intro l hl
    have hne : l ≠ name :: dir := by
      rintro rfl
      exact hplace.2 hl
    rw [get?_place fs e hplace.1 hplace.2, if_neg hne, hl]
  · rw [place, dif_neg hplace]
    exact .refl fs

lemma create_keepsDirs {e : Entry} (h : fs.create p e l = .ok later) : KeepsDirs fs later := by
  cases l with
  | nil => simp [create] at h
  | cons name dir =>
    rw [create] at h
    split at h
    · obtain rfl := Except.ok.inj h
      exact place_keepsDirs fs name dir e
    · simp at h

lemma append_keepsDirs {bytes : List UInt8} (h : fs.append cwd p bytes = .ok later) :
    KeepsDirs fs later := by
  rw [append, update] at h
  split at h
  · simp at h
  · obtain rfl := Except.ok.inj h
    exact place_keepsDirs _ _ _ _
  · exact create_keepsDirs h
  · simp at h

lemma extend_keepsDirs (fs : Files) (held : Handle) (bytes : List UInt8) :
    KeepsDirs fs (fs.extend held bytes) := by
  rw [extend, alter]
  split
  · split
    · exact place_keepsDirs _ _ _ _
    · exact .refl fs
  · exact .refl fs

lemma ensureDir_keepsDirs (fs : Files) (cwd : Location) (p : Path) :
    KeepsDirs fs (fs.ensureDir cwd p).1 :=
  fun l hl => (ensureDirFrom_built cwd p.segments.length p fs).keeps l .dir hl

end TestImpact.Proofs
