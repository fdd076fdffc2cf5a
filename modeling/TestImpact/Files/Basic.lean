import TestImpact.Fault
import TestImpact.Path
import TestImpact.Text.Utf8

/-!
# A tree of files

Directories, files and symbolic links, by location. Whatever exists stands in a directory, which is
part of the type; `place`, `erase` and `eraseTree` keep it. Entries are told apart by a number that
each gets when it is made, so that one can be kept hold of: a file that is put in place of another
is not the same file. `walk` finds what a path leads to, with links followed on the way.

There are no permissions, owners, quotas or mounts: whoever asks may read and change every entry, so
that no operation is refused for them (`EACCES`, `EPERM`, `EROFS`, `ENOSPC`).
-/

namespace TestImpact

/-- The names that lead to an entry, the innermost first. The root has no name. -/
abbrev Location := List String

/-- A directory, a file with its bytes, or a symbolic link. -/
inductive Entry where
  | dir
  | file (content : List UInt8) (executable : Bool)
  | link (target : String)
  deriving DecidableEq, Repr, Inhabited

def Entry.isFile : Entry → Bool
  | file .. => true
  | _ => false

/-- Entries by location. -/
abbrev FileTable := List (Location × Entry)

/-- The entry at a location; the root is a directory. -/
def FileTable.get? (t : FileTable) : Location → Option Entry
  | [] => some .dir
  | name :: dir => t.lookup (name :: dir)

/-- Whatever exists stands in a directory. -/
def FileTable.Grounded (t : FileTable) : Prop :=
  ∀ name dir, (t.get? (name :: dir)).isSome → t.get? dir = some .dir

/-- A tree of files. `births` holds the numbers of entries, the last ones first, and `made` is the
next number. -/
structure Files where
  table : FileTable
  grounded : table.Grounded
  births : List (Location × Nat)
  made : Nat

namespace Files

def get? (fs : Files) (l : Location) : Option Entry := fs.table.get? l

/-- The tree with nothing in it. -/
def empty : Files := ⟨[], fun name dir h => by simp [FileTable.get?] at h, [], 0⟩

instance : Inhabited Files := ⟨empty⟩

theorem get?_parent (fs : Files) {name : String} {dir : Location}
    (h : (fs.get? (name :: dir)).isSome) : fs.get? dir = some .dir :=
  fs.grounded name dir h

/-! ### Changing the tree -/

theorem get?_without (t : FileTable) (gone : Location → Bool) (l : Location) (hl : l ≠ []) :
    FileTable.get? (t.filter fun e => !gone e.1) l = if gone l then none else t.get? l := by
  obtain ⟨name, dir, rfl⟩ := List.exists_cons_of_ne_nil hl
  simp only [FileTable.get?]
  induction t with
  | nil => simp
  | cons e t ih =>
    obtain ⟨k, v⟩ := e
    by_cases hk : name :: dir = k
    · subst hk
      by_cases hg : gone (name :: dir)
      · simpa [List.filter_cons, hg] using ih
      · simp [hg]
    · have hk' : ((name :: dir) == k) = false := by simpa using hk
      by_cases hg : gone k
      · simpa [List.filter_cons, hg, List.lookup_cons, hk'] using ih
      · simpa [List.filter_cons, hg, List.lookup_cons, hk'] using ih

theorem get?_placed (t : FileTable) (e : Entry) (name : String) (dir l : Location) :
    FileTable.get? ((name :: dir, e) :: t) l =
      if l = name :: dir then some e else t.get? l := by
  cases l with
  | nil => simp [FileTable.get?]
  | cons n d =>
    by_cases h : n :: d = name :: dir
    · simp [FileTable.get?, h]
    · have h' : ((n :: d) == (name :: dir)) = false := by simpa using h
      simp [FileTable.get?, List.lookup_cons, h, h']

theorem not_self_below (name : String) (dir : Location) : dir ≠ name :: dir := fun h => by
  simpa using congrArg List.length h

/-- The number of an entry. -/
def number (fs : Files) (l : Location) : Nat := (fs.births.lookup l).getD 0

/-- Gives an entry a new number. -/
def renew (fs : Files) (l : Location) : Files :=
  { fs with births := (l, fs.made + 1) :: fs.births, made := fs.made + 1 }

/-- Puts an entry into a directory, in place of one that is no directory. A file that gets other
bytes stays the file that it is. -/
def place (fs : Files) (name : String) (dir : Location) (e : Entry) : Files :=
  if h : fs.get? dir = some .dir ∧ fs.get? (name :: dir) ≠ some .dir then
    let stays := e.isFile && (fs.get? (name :: dir)).any Entry.isFile
    let numbered := if stays then fs else fs.renew (name :: dir)
    { numbered with
      table := (name :: dir, e) :: fs.table
      grounded := by
        intro n d hn
        rw [get?_placed] at hn ⊢
        by_cases hl : n :: d = name :: dir
        · obtain ⟨rfl, rfl⟩ := List.cons.inj hl
          rw [if_neg (not_self_below _ _)]
          exact h.1
        · rw [if_neg hl] at hn
          have hd := fs.grounded n d hn
          rw [if_neg (fun hd' => h.2 (by rw [← hd']; exact hd))]
          exact hd }
  else fs

/-- Takes away an entry that is no directory. -/
def erase (fs : Files) (l : Location) : Files :=
  if h : l ≠ [] ∧ fs.get? l ≠ some .dir then
    { fs with
      table := fs.table.filter fun e => !decide (e.1 = l)
      grounded := by
        intro n d hn
        rw [get?_without _ (fun k => decide (k = l)) _ (by simp)] at hn
        by_cases hl : n :: d = l
        · simp [hl] at hn
        · have hd := fs.grounded n d (by simpa [hl] using hn)
          by_cases hr : d = []
          · subst hr; rfl
          · rw [get?_without _ (fun k => decide (k = l)) _ hr]
            have hne : d ≠ l := fun he => h.2 (by rw [← he]; exact hd)
            simpa [hne] using hd }
  else fs

/-- Takes away an entry with all that is below it. -/
def eraseTree (fs : Files) (l : Location) : Files :=
  if l = [] then fs
  else
    { fs with
      table := fs.table.filter fun e => !decide (l <:+ e.1)
      grounded := by
        intro n d hn
        rw [get?_without _ (fun k => decide (l <:+ k)) _ (by simp)] at hn
        by_cases hl : l <:+ n :: d
        · simp [hl] at hn
        · have hd := fs.grounded n d (by simpa [hl] using hn)
          by_cases hr : d = []
          · subst hr; rfl
          · rw [get?_without _ (fun k => decide (l <:+ k)) _ hr]
            have hne : ¬l <:+ d := fun hs => hl (hs.trans (List.suffix_cons n d))
            simpa [hne] using hd }

theorem get?_place (fs : Files) {name : String} {dir : Location} (e : Entry)
    (hd : fs.get? dir = some .dir) (hn : fs.get? (name :: dir) ≠ some .dir) (l : Location) :
    (fs.place name dir e).get? l = if l = name :: dir then some e else fs.get? l := by
  rw [place, dif_pos ⟨hd, hn⟩]
  exact get?_placed _ _ _ _ _

theorem get?_erase (fs : Files) {l : Location} (hl : l ≠ []) (hn : fs.get? l ≠ some .dir)
    (m : Location) : (fs.erase l).get? m = if m = l then none else fs.get? m := by
  rw [erase, dif_pos ⟨hl, hn⟩]
  by_cases hm : m = []
  · subst hm
    simp [get?, FileTable.get?, hl.symm]
  · have := get?_without fs.table (fun k => decide (k = l)) m hm
    simpa [get?] using this

/-! ### Keeping hold of entries -/

/-- An entry that is kept hold of: where it was met, and its number. -/
structure Handle where
  location : Location
  number : Nat
  deriving DecidableEq, Repr, Inhabited

/-- Takes hold of the entry at a location. -/
def hold (fs : Files) (l : Location) : Handle := ⟨l, fs.number l⟩

/-- Whether an entry is at a location. -/
def isAt (fs : Files) (h : Handle) (l : Location) : Bool :=
  (fs.get? l).isSome && fs.number l == h.number

/-- The first location at which an entry is that is kept hold of: the one where it was met, or the one
of a birth. -/
def seek (fs : Files) (h : Handle) (holds : Location → Bool) : Option Location :=
  if holds h.location then some h.location else (fs.births.map (·.1)).find? holds

/-- Where an entry is now, if it was not removed. -/
def whereabouts (fs : Files) (h : Handle) : Option Location := fs.seek h (fs.isAt h)

/-- Whether a directory is at a location. -/
def isDirAt (fs : Files) (h : Handle) (l : Location) : Bool :=
  fs.get? l = some .dir && fs.number l == h.number

/-- Where a directory is now, if it was not removed. -/
def directory? (fs : Files) (h : Handle) : Option Location := fs.seek h (fs.isDirAt h)

/-- Where a program stands that has taken hold of a directory. A directory that was removed is a
place without a name in the directory around it: nothing is in it, and nothing can be made there. -/
def standing (fs : Files) (h : Handle) : Location :=
  (fs.directory? h).getD ("" :: h.location.tail)

/-! ### Finding entries -/

/-- Longest name of an entry, in bytes. -/
def maxName : Nat := 255

/-- Longest path, in bytes. -/
def maxPath : Nat := 4095

/-- The number of links that are followed on one path. -/
def maxLinks : Nat := 40

/-- What a path leads to: a location in an existing directory, and the entry there, if any. -/
structure Spot where
  location : Location
  entry : Option Entry
  deriving DecidableEq, Repr, Inhabited

/-- The names on a path that is given as text, with empty ones between slashes. -/
def namesOf (s : String) : List String := Path.pieces s

def isRooted (s : String) : Bool := s.toList.head? = some '/'

/-- Walks from a directory along names up to the first link that is to be followed, where `jump` goes
on: it is told the directory of the link, its target and the names that are left. A link that the last
name leads to is followed only if `follow` is set. The directory to walk from may have been removed. -/
def walkTo (fs : Files) (follow : Bool)
    (jump : Location → String → List String → Except OsErrorKind Spot) :
    Location → List String → Except OsErrorKind Spot
  | dir, [] => .ok ⟨dir, some .dir⟩
  | dir, name :: rest =>
    if name = "" ∨ name = "." then walkTo fs follow jump dir rest
    else if name = ".." then walkTo fs follow jump dir.tail rest
    else if maxName < name.utf8ByteSize then .error .nameTooLong
    else
      match fs.get? (name :: dir) with
      | none => if rest = [] then .ok ⟨name :: dir, none⟩ else .error .noEntry
      | some .dir => walkTo fs follow jump (name :: dir) rest
      | some (.file content executable) =>
        if rest = [] then .ok ⟨name :: dir, some (.file content executable)⟩
        else .error .notDirectory
      | some (.link target) =>
        if rest = [] ∧ !follow then .ok ⟨name :: dir, some (.link target)⟩
        else jump dir target rest

/-- Walks from a directory along names, with links followed up to a number of them. -/
def walk (fs : Files) (follow : Bool) : Nat → Location → List String → Except OsErrorKind Spot
  | 0 => fs.walkTo follow fun _ _ _ => .error .tooManyLinks
  | links + 1 => fs.walkTo follow fun dir target rest =>
    if target = "" then .error .noEntry
    else walk fs follow links (if isRooted target then [] else dir) (namesOf target ++ rest)

/-- What a path leads to from the current directory. -/
def locate (fs : Files) (cwd : Location) (follow : Bool) (p : Path) : Except OsErrorKind Spot :=
  if maxPath < p.toText.utf8ByteSize then .error .nameTooLong
  else walk fs follow maxLinks (if p.isAbsolute then [] else cwd) p.segments

/-- What a path that is given as text leads to; a slash at its end asks for a directory. -/
def locateText (fs : Files) (cwd : Location) (follow : Bool) (s : String) :
    Except OsErrorKind Spot :=
  if s = "" then .error .noEntry
  else if maxPath < s.utf8ByteSize then .error .nameTooLong
  else walk fs follow maxLinks (if isRooted s then [] else cwd) (namesOf s)

/-- The path to a location. -/
def pathText (l : Location) : String := "/" ++ Text.joinText "/" l.reverse

end Files

end TestImpact
