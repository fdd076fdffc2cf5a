import TestImpact.Proofs.Files.Clearing
import TestImpact.Proofs.Files.Faults

/-!
# Paths in a directory

What is at a path stands in the directory at its parent. A directory that is there needs not to be
made, and it is still reached when a file is taken away. In it, a name that is too long cannot even
be looked up.
-/

namespace TestImpact.Proofs
open Files

variable {fs later : Files} {cwd dir l : Location} {p : Path} {name : String} {names : List String}
  {follow : Bool} {links : Nat} {spot : Spot}

/-! ### The directory around a path -/

/-- A walk passes the directory in which its last name is looked up. -/
lemma leads_init (h : Leads fs follow links dir (names ++ [name]) spot) :
    ∃ d, Leads fs true links dir names ⟨d, some .dir⟩ := by
  generalize hall : names ++ [name] = all at h
  induction h generalizing names with
  | here => simp at hall
  | absent =>
    obtain ⟨rfl, -⟩ := List.append_eq_singleton_iff.mp hall |>.resolve_right (by simp)
    exact ⟨_, .here⟩
  | found =>
    obtain ⟨rfl, -⟩ := List.append_eq_singleton_iff.mp hall |>.resolve_right (by simp)
    exact ⟨_, .here⟩
  | skip hskip _ ih =>
    cases names with
    | nil => exact ⟨_, .here⟩
    | cons first names =>
      obtain ⟨rfl, hrest⟩ := List.cons.inj hall
      obtain ⟨d, hd⟩ := ih hrest
      exact ⟨d, .skip hskip hd⟩
  | up _ ih =>
    cases names with
    | nil => exact ⟨_, .here⟩
    | cons first names =>
      obtain ⟨rfl, hrest⟩ := List.cons.inj hall
      obtain ⟨d, hd⟩ := ih hrest
      exact ⟨d, .up hd⟩
  | enter hname hget _ ih =>
    cases names with
    | nil => exact ⟨_, .here⟩
    | cons first names =>
      obtain ⟨rfl, hrest⟩ := List.cons.inj hall
      obtain ⟨d, hd⟩ := ih hrest
      exact ⟨d, .enter hname hget hd⟩
  | jump hname hget _ htarget _ ih =>
    cases names with
    | nil => exact ⟨_, .here⟩
    | cons first names =>
      obtain ⟨rfl, rfl⟩ := List.cons.inj hall
      obtain ⟨d, hd⟩ := ih (List.append_assoc ..)
      exact ⟨d, .jump hname hget (fun _ => rfl) htarget hd⟩

lemma joinText_size_le (sep : String) (texts : List String) (last : String) :
    (Text.joinText sep texts).utf8ByteSize ≤ (Text.joinText sep (texts ++ [last])).utf8ByteSize := by
  induction texts with
  | nil => simp [Text.joinText]
  | cons first rest ih =>
    cases rest with
    | nil =>
      simp only [List.cons_append, List.nil_append, Text.joinText, String.utf8ByteSize_append]
      omega
    | cons second rest =>
      simp only [List.cons_append, Text.joinText, String.utf8ByteSize_append] at ih ⊢
      omega

lemma parent_size_le (h : p.toText.utf8ByteSize ≤ maxPath) :
    p.parent.toText.utf8ByteSize ≤ maxPath := by
  by_cases hsegs : p.segments = []
  · have hparent : p.parent = p := by
      cases p
      simp_all [Path.parent]
    rw [hparent]
    exact h
  · obtain ⟨name, hlast, -⟩ := exists_last_segment hsegs
    rw [Path.toText, if_neg (fun hhere => hsegs hhere.2), hlast, String.utf8ByteSize_append] at h
    have hshorter := joinText_size_le "/" p.parent.segments name
    rw [Path.toText]
    split
    · decide
    · change (Path.Anchor.toText p.anchor ++ _).utf8ByteSize ≤ maxPath
      rw [String.utf8ByteSize_append]
      omega

/-- Whatever a path leads to, the directory around it is there. -/
lemma dirAt_parent (hsegs : p.segments ≠ []) (h : fs.find cwd follow p = .ok spot) :
    DirAt fs cwd p.parent := by
  obtain ⟨hnull, hsize, hleads⟩ := find_eq_ok_iff.mp h
  obtain ⟨name, hlast, -⟩ := exists_last_segment hsegs
  rw [hlast] at hleads
  obtain ⟨d, hd⟩ := leads_init hleads
  exact ⟨d, find_eq_ok_iff.mpr ⟨hasNull_parent hnull, parent_size_le hsize, hd⟩⟩

/-! ### Directories that are there -/

/-- If the last link is not followed, there is something all the same. -/
lemma leads_unfollowed (h : Leads fs true links dir names ⟨l, some .dir⟩) :
    ∃ m e, Leads fs false links dir names ⟨m, some e⟩ := by
  generalize hspot : (⟨l, some .dir⟩ : Spot) = spot at h
  induction h with
  | here => exact ⟨_, _, .here⟩
  | skip hskip _ ih =>
    obtain ⟨m, e, hm⟩ := ih hspot
    exact ⟨m, e, .skip hskip hm⟩
  | up _ ih =>
    obtain ⟨m, e, hm⟩ := ih hspot
    exact ⟨m, e, .up hm⟩
  | absent => simp at hspot
  | enter hname hget _ ih =>
    obtain ⟨m, e, hm⟩ := ih hspot
    exact ⟨m, e, .enter hname hget hm⟩
  | found _ _ hdir _ =>
    obtain ⟨-, he⟩ := Spot.mk.inj hspot
    exact absurd (Option.some.inj he).symm hdir
  | @jump _ dir name target rest _ hname hget _ htarget _ ih =>
    by_cases hrest : rest = []
    · subst hrest
      exact ⟨name :: dir, .link target, .found hname hget (by simp) (fun _ _ => rfl)⟩
    · obtain ⟨m, e, hm⟩ := ih hspot
      exact ⟨m, e, .jump hname hget (fun hnil => absurd hnil hrest) htarget hm⟩

/-- A directory that is there is not made again. -/
lemma ensureDirFrom_of_dirAt (h : DirAt fs cwd p) (n : Nat) :
    ensureDirFrom cwd n p fs = (fs, .ok ()) := by
  obtain ⟨l, hfind⟩ := h
  obtain ⟨hnull, hsize, hleads⟩ := find_eq_ok_iff.mp hfind
  obtain ⟨m, e, hm⟩ := leads_unfollowed hleads
  have hthere : fs.find cwd false p = .ok ⟨m, some e⟩ := find_eq_ok_iff.mpr ⟨hnull, hsize, hm⟩
  have hmake : fs.makeDir cwd p = .error (errorAt .present p) := by rw [makeDir, hthere]
  have hsettle : fs.settle cwd p (errorAt .present p) = .ok () := by
    rw [errorAt, settle, isDir_eq_true_iff.mpr ⟨l, hfind⟩]
  have hmissing : isMissing (errorAt .present p) = false := rfl
  cases n <;> simp [ensureDirFrom, hmake, hmissing, hsettle]

/-- A walk to a directory does not pass a file. -/
lemma leads_without_file {content : List UInt8} {executable : Bool}
    (hfile : fs.get? l = some (.file content executable))
    (hlater : ∀ m, later.get? m = if m = l then none else fs.get? m) {d : Location}
    (h : Leads fs follow links dir names ⟨d, some .dir⟩) :
    Leads later follow links dir names ⟨d, some .dir⟩ := by
  have hkeeps : ∀ m e, fs.get? m = some e → e.isFile = false → later.get? m = some e := by
    intro m e hm he
    have hne : m ≠ l := by
      rintro rfl
      obtain rfl := Option.some.inj (hm.symm.trans hfile)
      cases he
    rw [hlater, if_neg hne, hm]
  generalize hspot : (⟨d, some .dir⟩ : Spot) = spot at h
  induction h with
  | here => exact .here
  | skip hskip _ ih => exact .skip hskip (ih hspot)
  | up _ ih => exact .up (ih hspot)
  | absent => simp at hspot
  | enter hname hget _ ih => exact .enter hname (hkeeps _ _ hget rfl) (ih hspot)
  | found _ _ hdir _ =>
    obtain ⟨-, he⟩ := Spot.mk.inj hspot
    exact absurd (Option.some.inj he).symm hdir
  | jump hname hget hrest htarget _ ih =>
    exact .jump hname (hkeeps _ _ hget rfl) hrest htarget (ih hspot)

/-- Taking a file away leaves all directories where they are found. -/
lemma dirAt_without_file {content : List UInt8} {executable : Bool}
    (hfile : fs.get? l = some (.file content executable))
    (hlater : ∀ m, later.get? m = if m = l then none else fs.get? m) (h : DirAt fs cwd p) :
    DirAt later cwd p := by
  obtain ⟨d, hfind⟩ := h
  obtain ⟨hnull, hsize, hleads⟩ := find_eq_ok_iff.mp hfind
  exact ⟨d, find_eq_ok_iff.mpr ⟨hnull, hsize, leads_without_file hfile hlater hleads⟩⟩

/-! ### Names in a directory -/

lemma Vacant.sizes (h : Vacant fs cwd p) :
    hasNull p.toText = false ∧ p.toText.utf8ByteSize ≤ maxPath := by
  rcases h with ⟨l, hfind⟩ | hfind
  · obtain ⟨hnull, hsize, -⟩ := find_eq_ok_iff.mp hfind
    exact ⟨hnull, hsize⟩
  · rw [find] at hfind
    split at hfind
    · simp [errorAt] at hfind
    · rename_i hnull
      refine ⟨by simpa using hnull, Nat.not_lt.mp fun hsize => ?_⟩
      rw [locate, if_pos hsize] at hfind
      simp [errorAt] at hfind

/-- What is looked up in a directory and is not there. -/
lemma find_of_not_present (hsegs : p.segments = p.parent.segments ++ [name]) (hname : IsName name)
    (hnull : hasNull p.toText = false) (hsize : p.toText.utf8ByteSize ≤ maxPath)
    (hparent : DirAt fs cwd p.parent) (habsent : ¬Present fs cwd p) :
    ∃ l, fs.find cwd false p = .ok ⟨l, none⟩ := by
  obtain ⟨l, hl⟩ := hparent
  obtain ⟨left, hleft⟩ := leads_of_find hsegs hl
  have hpresent : ∀ spot e, spot.entry = some e → ¬Leads fs false left l [name] spot := by
    rintro ⟨m, entry⟩ e rfl hleads
    exact habsent ⟨m, e, (hleft _ _).mpr ⟨hnull, hsize, hleads⟩⟩
  cases hget : fs.get? (name :: l) with
  | none => exact ⟨name :: l, (hleft _ _).mpr ⟨hnull, hsize, .absent hname hget⟩⟩
  | some e =>
    by_cases hdir : e = .dir
    · subst hdir
      exact absurd (.enter hname hget .here) (hpresent _ .dir rfl)
    · exact absurd (.found hname hget hdir fun _ _ => rfl) (hpresent _ e rfl)

lemma walk_long (hname : IsSegment name) (hdots : name ≠ "..") (hlong : maxName < name.utf8ByteSize)
    (rest : List String) :
    fs.walk follow links dir (name :: rest) = .error .nameTooLong := by
  obtain ⟨hempty, hdot, -⟩ := hname
  cases links <;> simp [walk, walkTo, hempty, hdot, hdots, hlong]

/-- A name that is too long is refused once its directory is there. -/
lemma find_long (hsegs : p.segments = p.parent.segments ++ [name]) (hname : IsSegment name)
    (hdots : name ≠ "..") (hlong : maxName < name.utf8ByteSize)
    (hnull : hasNull p.toText = false) (hsize : p.toText.utf8ByteSize ≤ maxPath)
    (hparent : DirAt fs cwd p.parent) :
    fs.find cwd false p = .error (errorAt .nameTooLong p) := by
  obtain ⟨l, hl⟩ := hparent
  obtain ⟨-, -, hleads⟩ := find_eq_ok_iff.mp hl
  obtain ⟨left, hleft⟩ := walk_append hleads
  have hwalk : fs.walk false maxLinks (startOf cwd p) p.segments = .error .nameTooLong := by
    have hstart : startOf cwd p.parent = startOf cwd p := rfl
    rw [hsegs, ← hstart, hleft false [name] (by simp)]
    exact walk_long hname hdots hlong []
  rw [startOf] at hwalk
  simp [find, locate, hnull, Nat.not_lt.mpr hsize, hwalk]

end TestImpact.Proofs
