import TestImpact.Proofs.Files.Walk

/-!
# The contents of files

A tree is compared with the one in which every file is empty. Finding, removing and making entries
come to the same in both, so none of them can tell trees apart that differ in the bytes of their
files alone.
-/

namespace TestImpact.Proofs
open Files

variable {fs : Files} {cwd dir l : Location} {p : Path} {follow : Bool}

/-- An entry without the bytes of a file. -/
def emptiedEntry : Entry → Entry
  | .file _ executable => .file [] executable
  | e => e

lemma emptiedEntry_eq_dir {e : Entry} : emptiedEntry e = .dir ↔ e = .dir := by
  cases e <;> simp [emptiedEntry]

lemma isFile_emptiedEntry (e : Entry) : (emptiedEntry e).isFile = e.isFile := by cases e <;> rfl

lemma get?_emptiedTable (t : FileTable) (l : Location) :
    FileTable.get? (t.map fun e => (e.1, emptiedEntry e.2)) l = (t.get? l).map emptiedEntry := by
  cases l with
  | nil => rfl
  | cons name dir =>
    simp only [FileTable.get?]
    induction t with
    | nil => rfl
    | cons e t ih =>
      obtain ⟨k, e⟩ := e
      simp only [List.map_cons, List.lookup_cons]
      cases name :: dir == k with
      | true => rfl
      | false => exact ih

/-- The tree with all of its files empty. -/
def emptied (fs : Files) : Files where
  table := fs.table.map fun e => (e.1, emptiedEntry e.2)
  grounded := by
    intro name dir h
    rw [get?_emptiedTable, Option.isSome_map] at h
    rw [get?_emptiedTable, fs.grounded name dir h]
    rfl
  births := fs.births
  made := fs.made

lemma get?_emptied (fs : Files) (l : Location) :
    (emptied fs).get? l = (fs.get? l).map emptiedEntry := get?_emptiedTable fs.table l

lemma emptied_emptied (fs : Files) : emptied (emptied fs) = emptied fs := by
  have htwice : ∀ e, emptiedEntry (emptiedEntry e) = emptiedEntry e := by
    intro e
    cases e <;> rfl
  simp only [emptied, List.map_map, Function.comp_def, htwice]

lemma get?_emptied_dir : (emptied fs).get? l = some .dir ↔ fs.get? l = some .dir := by
  rw [get?_emptied]
  cases fs.get? l with
  | none => simp
  | some e => simp [emptiedEntry_eq_dir]

/-! ### Keeping hold of entries -/

lemma isDirAt_emptied (h : Handle) : (emptied fs).isDirAt h = fs.isDirAt h := by
  funext m
  simp only [isDirAt, get?_emptied_dir]
  rfl

lemma directory?_emptied (h : Handle) : (emptied fs).directory? h = fs.directory? h := by
  simp only [directory?, isDirAt_emptied]
  rfl

lemma standing_emptied (h : Handle) : (emptied fs).standing h = fs.standing h := by
  rw [standing, directory?_emptied, standing]

lemma pathOf_emptied (h : Handle) : (emptied fs).pathOf h = fs.pathOf h := by
  rw [pathOf, directory?_emptied, pathOf]

lemma whereabouts_emptied (h : Handle) : (emptied fs).whereabouts h = fs.whereabouts h := by
  have hat : (emptied fs).isAt h = fs.isAt h := by
    funext m
    simp only [isAt, get?_emptied, Option.isSome_map]
    rfl
  simp only [whereabouts, hat]
  rfl

/-! ### Finding entries -/

def emptiedSpot (spot : Spot) : Spot := { spot with entry := spot.entry.map emptiedEntry }

lemma walkTo_emptied {jump jump' : Location → String → List String → Except OsErrorKind Spot}
    (hjump : ∀ dir target rest, jump' dir target rest = (jump dir target rest).map emptiedSpot)
    (dir : Location) (names : List String) :
    (emptied fs).walkTo follow jump' dir names =
      (fs.walkTo follow jump dir names).map emptiedSpot := by
  induction names generalizing dir with
  | nil => rfl
  | cons name rest ih =>
    rw [walkTo, walkTo]
    by_cases hskip : name = "" ∨ name = "."
    · rw [if_pos hskip, if_pos hskip, ih]
    rw [if_neg hskip, if_neg hskip]
    by_cases hup : name = ".."
    · rw [if_pos hup, if_pos hup, ih]
    rw [if_neg hup, if_neg hup]
    by_cases hsize : maxName < name.utf8ByteSize
    · rw [if_pos hsize, if_pos hsize]
      rfl
    rw [if_neg hsize, if_neg hsize, get?_emptied]
    cases fs.get? (name :: dir) with
    | none => by_cases hrest : rest = [] <;> simp [hrest, Except.map, emptiedSpot]
    | some e =>
      cases e with
      | dir => exact ih (name :: dir)
      | file content executable =>
        by_cases hrest : rest = [] <;> simp [hrest, Except.map, emptiedSpot, emptiedEntry]
      | link target =>
        by_cases hend : rest = [] ∧ (!follow) = true
        · simp [hend, Except.map, emptiedSpot, emptiedEntry]
        · simp only [Option.map_some, emptiedEntry, hend, if_false, hjump]

lemma walk_emptied (fs : Files) (follow : Bool) (links : Nat) (dir : Location)
    (names : List String) :
    (emptied fs).walk follow links dir names =
      (fs.walk follow links dir names).map emptiedSpot := by
  induction links generalizing dir names with
  | zero =>
    have hstop : ∀ (_ : Location) (_ : String) (_ : List String),
        (.error .tooManyLinks : Except OsErrorKind Spot) =
          (Except.error .tooManyLinks : Except OsErrorKind Spot).map emptiedSpot :=
      fun _ _ _ => rfl
    exact walkTo_emptied hstop dir names
  | succ links ih =>
    refine walkTo_emptied (fun dir target rest => ?_) dir names
    by_cases htarget : target = ""
    · rw [if_pos htarget, if_pos htarget]
      rfl
    · rw [if_neg htarget, if_neg htarget, ih]

lemma locateText_emptied (fs : Files) (cwd : Location) (follow : Bool) (s : String) :
    (emptied fs).locateText cwd follow s = (fs.locateText cwd follow s).map emptiedSpot := by
  rw [locateText, locateText]
  by_cases hempty : s = ""
  · rw [if_pos hempty, if_pos hempty]
    rfl
  rw [if_neg hempty, if_neg hempty]
  by_cases hsize : maxPath < s.utf8ByteSize
  · rw [if_pos hsize, if_pos hsize]
    rfl
  · rw [if_neg hsize, if_neg hsize, walk_emptied]

lemma find_emptied (fs : Files) (cwd : Location) (follow : Bool) (p : Path) :
    (emptied fs).find cwd follow p = (fs.find cwd follow p).map emptiedSpot := by
  have hlocate : (emptied fs).locate cwd follow p = (fs.locate cwd follow p).map emptiedSpot := by
    rw [locate, locate]
    by_cases hsize : maxPath < p.toText.utf8ByteSize
    · rw [if_pos hsize, if_pos hsize]
      rfl
    · rw [if_neg hsize, if_neg hsize, walk_emptied]
  rw [find, find, hlocate]
  by_cases hnull : hasNull p.toText = true
  · rw [if_pos hnull, if_pos hnull]
    rfl
  · rw [if_neg hnull, if_neg hnull]
    cases fs.locate cwd follow p <;> rfl

lemma stat_emptied (fs : Files) (cwd : Location) (p : Path) :
    (emptied fs).stat cwd p = (fs.stat cwd p).map emptiedEntry := by
  rw [stat, stat, find_emptied]
  rcases fs.find cwd true p with f | ⟨l, _ | e⟩ <;> rfl

lemma look?_emptied (fs : Files) (cwd : Location) (p : Path) :
    (emptied fs).look? cwd p = (fs.look? cwd p).map (Option.map emptiedEntry) := by
  rw [look?, look?, stat_emptied]
  cases fs.stat cwd p with
  | ok e => rfl
  | error f =>
    cases f with
    | os e => cases habsent : meansAbsent e.kind <;> simp [Except.map, habsent]
    | _ => rfl

lemma isDir_emptied (fs : Files) (cwd : Location) (p : Path) :
    (emptied fs).isDir cwd p = fs.isDir cwd p := by
  rw [isDir, isDir, look?_emptied]
  rcases fs.look? cwd p with f | _ | e
  · rfl
  · rfl
  · simp [Except.map, emptiedEntry_eq_dir]

lemma isFile_emptied (fs : Files) (cwd : Location) (p : Path) :
    (emptied fs).isFile cwd p = fs.isFile cwd p := by
  rw [isFile, isFile, look?_emptied]
  rcases fs.look? cwd p with f | _ | e
  · rfl
  · rfl
  · cases e <;> rfl

lemma which_emptied (fs : Files) (cwd : Location) (path : Option String) (name : String) :
    (emptied fs).which cwd path name = fs.which cwd path name := by
  have hcan : (emptied fs).isExecutable cwd = fs.isExecutable cwd := by
    funext candidate
    rw [isExecutable, isExecutable, locateText_emptied]
    rcases fs.locateText cwd true candidate with f | ⟨l, _ | e⟩
    · rfl
    · rfl
    · cases e <;> rfl
  rw [which, which, hcan]

/-! ### Changing the tree -/

lemma place_emptied (fs : Files) (name : String) (dir : Location) (e : Entry) :
    (emptied fs).place name dir (emptiedEntry e) = emptied (fs.place name dir e) := by
  by_cases h : fs.get? dir = some .dir ∧ fs.get? (name :: dir) ≠ some .dir
  · have h' : (emptied fs).get? dir = some .dir ∧ (emptied fs).get? (name :: dir) ≠ some .dir :=
      ⟨get?_emptied_dir.mpr h.1, fun hd => h.2 (get?_emptied_dir.mp hd)⟩
    have hstays : ((emptied fs).get? (name :: dir)).any Entry.isFile =
        (fs.get? (name :: dir)).any Entry.isFile := by
      rw [get?_emptied]
      cases fs.get? (name :: dir) with
      | none => rfl
      | some old => exact isFile_emptiedEntry old
    rw [place, dif_pos h', place, dif_pos h]
    simp only [hstays, isFile_emptiedEntry]
    cases e.isFile && (fs.get? (name :: dir)).any Entry.isFile <;> rfl
  · have h' : ¬((emptied fs).get? dir = some .dir ∧
        (emptied fs).get? (name :: dir) ≠ some .dir) := by
      rwa [get?_emptied_dir, Ne, get?_emptied_dir]
    rw [place, dif_neg h', place, dif_neg h]

lemma erase_emptied (fs : Files) (l : Location) : (emptied fs).erase l = emptied (fs.erase l) := by
  by_cases h : l ≠ [] ∧ fs.get? l ≠ some .dir
  · have h' : l ≠ [] ∧ (emptied fs).get? l ≠ some .dir :=
      ⟨h.1, fun hd => h.2 (get?_emptied_dir.mp hd)⟩
    rw [erase, dif_pos h', erase, dif_pos h]
    simp only [emptied, List.filter_map]
    rfl
  · have h' : ¬(l ≠ [] ∧ (emptied fs).get? l ≠ some .dir) := by
      rwa [Ne, Ne, get?_emptied_dir]
    rw [erase, dif_neg h', erase, dif_neg h]

lemma create_emptied (fs : Files) (p : Path) (e : Entry) (l : Location) :
    (emptied fs).create p (emptiedEntry e) l = (fs.create p e l).map emptied := by
  cases l with
  | nil => rfl
  | cons name dir =>
    rw [create, create]
    by_cases hdir : fs.get? dir = some .dir
    · rw [if_pos (get?_emptied_dir.mpr hdir), if_pos hdir, place_emptied]
      rfl
    · rw [if_neg fun hd => hdir (get?_emptied_dir.mp hd), if_neg hdir]
      rfl

lemma unlink_emptied (fs : Files) (cwd : Location) (p : Path) :
    (emptied fs).unlink cwd p = (fs.unlink cwd p).map emptied := by
  rw [unlink, unlink, find_emptied]
  rcases fs.find cwd false p with f | ⟨l, _ | e⟩
  · rfl
  · rfl
  · cases e with
    | dir => rfl
    | file content executable => exact congrArg Except.ok (erase_emptied fs l)
    | link target => exact congrArg Except.ok (erase_emptied fs l)

lemma makeDir_emptied (fs : Files) (cwd : Location) (p : Path) :
    (emptied fs).makeDir cwd p = (fs.makeDir cwd p).map emptied := by
  rw [makeDir, makeDir, find_emptied]
  rcases fs.find cwd false p with f | ⟨l, _ | e⟩
  · rfl
  · exact create_emptied fs p .dir l
  · rfl

lemma settle_emptied (fs : Files) (cwd : Location) (p : Path) (f : Fault) :
    (emptied fs).settle cwd p f = fs.settle cwd p f := by
  cases f <;> simp only [settle, isDir_emptied]

lemma ensureDirFrom_emptied (cwd : Location) (n : Nat) (p : Path) (fs : Files) :
    ensureDirFrom cwd n p (emptied fs) =
      (emptied (ensureDirFrom cwd n p fs).1, (ensureDirFrom cwd n p fs).2) := by
  induction n generalizing p fs with
  | zero =>
    rw [ensureDirFrom, ensureDirFrom, makeDir_emptied]
    cases fs.makeDir cwd p with
    | ok made => rfl
    | error f => cases hmissing : isMissing f <;> simp [Except.map, hmissing, settle_emptied]
  | succ n ih =>
    rw [ensureDirFrom, ensureDirFrom, makeDir_emptied]
    cases fs.makeDir cwd p with
    | ok made => rfl
    | error f =>
      cases hmissing : isMissing f with
      | false => simp [Except.map, hmissing, settle_emptied]
      | true =>
        simp only [Except.map, hmissing, if_true, ih]
        generalize ensureDirFrom cwd n p.parent fs = done
        rcases done with ⟨above, g | ⟨⟩⟩
        · rfl
        · simp only [makeDir_emptied]
          cases above.makeDir cwd p with
          | ok made => rfl
          | error g => simp [Except.map, settle_emptied]

lemma ensureDir_emptied (fs : Files) (cwd : Location) (p : Path) :
    (emptied fs).ensureDir cwd p = (emptied (fs.ensureDir cwd p).1, (fs.ensureDir cwd p).2) :=
  ensureDirFrom_emptied cwd p.segments.length p fs

lemma append_emptied (fs : Files) (cwd : Location) (p : Path) (bytes : List UInt8) :
    (emptied fs).append cwd p [] = (fs.append cwd p bytes).map emptied := by
  rw [append, append, update, update, find_emptied]
  rcases fs.find cwd true p with f | ⟨_ | ⟨name, dir⟩, _ | e⟩
  · rfl
  · rfl
  · cases e <;> rfl
  · exact create_emptied fs p (.file ([] ++ bytes) false) (name :: dir)
  · cases e with
    | dir => rfl
    | file content executable =>
      exact congrArg Except.ok (place_emptied fs name dir (.file (content ++ bytes) executable))
    | link target => rfl

/-- Text that is written to a file is lost with the contents of all files. -/
lemma extend_emptied (fs : Files) (h : Handle) (bytes : List UInt8) :
    (emptied fs).extend h [] = emptied (fs.extend h bytes) := by
  rw [extend, extend, alter, alter, whereabouts_emptied]
  rcases fs.whereabouts h with _ | _ | ⟨name, dir⟩
  · rfl
  · rfl
  · simp only [get?_emptied]
    rcases fs.get? (name :: dir) with _ | e
    · rfl
    · cases e with
      | dir => rfl
      | file content executable =>
        exact place_emptied fs name dir (.file (content ++ bytes) executable)
      | link target => rfl

/-! ### Real paths -/

lemma get?_emptied_link {target : String} (h : fs.get? l = some (.link target)) :
    (emptied fs).get? l = some (.link target) := by
  rw [get?_emptied, h]
  rfl

lemma realFrom_emptied (fs : Files) (links : Nat) (opened : List Location) (dir : Location)
    (names : List String) :
    (emptied fs).realFrom links opened dir names = fs.realFrom links opened dir names := by
  fun_induction realFrom fs links opened dir names with
  | case1 => rw [realFrom]
  | case2 _ _ _ _ _ hskip ih => rw [realFrom, if_pos hskip, ih]
  | case3 _ _ _ _ hskip ih => rw [realFrom, if_neg hskip, if_pos rfl, ih]
  | case4 _ _ _ _ _ hskip hup _ hlink hopen =>
    rw [realFrom, if_neg hskip, if_neg hup, get?_emptied_link hlink]
    simp only [if_pos hopen]
  | case5 _ _ _ _ hskip hup _ hlink hopen =>
    rw [realFrom, if_neg hskip, if_neg hup, get?_emptied_link hlink]
    simp only [if_neg hopen]
  | case6 _ dir _ _ hskip hup target hlink hopen _ start _ hreal ih ih' =>
    have hstart : start = if isRooted target then [] else dir := rfl
    rw [realFrom, if_neg hskip, if_neg hup, get?_emptied_link hlink]
    rw [hreal, hstart] at ih
    simp only [if_neg hopen, ih, ih']
  | case7 _ dir _ _ hskip hup target hlink hopen _ start _ hreal ih =>
    have hstart : start = if isRooted target then [] else dir := rfl
    rw [realFrom, if_neg hskip, if_neg hup, get?_emptied_link hlink]
    rw [hreal, hstart] at ih
    simp only [if_neg hopen, ih]
  | case8 _ _ _ name _ hskip hup hlink ih =>
    rw [realFrom, if_neg hskip, if_neg hup, ih]
    split
    · rename_i target htarget
      rw [get?_emptied, Option.map_eq_some_iff] at htarget
      obtain ⟨e, he, htarget⟩ := htarget
      cases e with
      | link target' => exact absurd he (hlink target')
      | dir => simp [emptiedEntry] at htarget
      | file => simp [emptiedEntry] at htarget
    · rfl

lemma resolve_emptied (fs : Files) (cwd : Location) (p : Path) :
    (emptied fs).resolve cwd p = fs.resolve cwd p := by
  have hlength : (emptied fs).table.length = fs.table.length := List.length_map ..
  rw [resolve, resolve]
  simp only [hlength, realFrom_emptied, stat_emptied]
  by_cases hnull : hasNull p.toText = true
  · rw [if_pos hnull, if_pos hnull]
  · rw [if_neg hnull, if_neg hnull]
    generalize Path.ofText _ = real
    cases fs.stat cwd real <;> rfl

end TestImpact.Proofs
