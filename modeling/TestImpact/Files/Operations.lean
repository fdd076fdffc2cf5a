import TestImpact.Files.Basic

/-!
# Operations on files

What programs do with a tree of files: looking at entries, removing files, making directories,
reading, writing and appending. An operation that fails says why, and one that fails half way leaves
what it has done.
-/

namespace TestImpact.Files

/-- No name holds a null character. -/
@[irreducible]
def hasNull (s : String) : Bool := s.toList.contains '\x00'

def errorAt (kind : OsErrorKind) (p : Path) : Fault := .os (.at kind p.toText)

/-- What a path leads to, or why it cannot be followed. -/
def find (fs : Files) (cwd : Location) (follow : Bool) (p : Path) : Except Fault Spot :=
  if hasNull p.toText then .error .nullByte
  else
    match fs.locate cwd follow p with
    | .ok spot => .ok spot
    | .error kind => .error (errorAt kind p)

/-- The entry that a path leads to, with links followed. -/
def stat (fs : Files) (cwd : Location) (p : Path) : Except Fault Entry :=
  match fs.find cwd true p with
  | .ok ⟨_, some e⟩ => .ok e
  | .ok ⟨_, none⟩ => .error (errorAt .noEntry p)
  | .error f => .error f

/-- The errors that mean that there is nothing at a path. -/
def meansAbsent : OsErrorKind → Bool
  | .noEntry | .notDirectory | .tooManyLinks => true
  | _ => false

/-- The entry that a path leads to, if there is one. -/
def look? (fs : Files) (cwd : Location) (p : Path) : Except Fault (Option Entry) :=
  match fs.stat cwd p with
  | .ok e => .ok (some e)
  | .error (.os e) => if meansAbsent e.kind then .ok none else .error (.os e)
  | .error .nullByte => .ok none
  | .error f => .error f

def isDir (fs : Files) (cwd : Location) (p : Path) : Except Fault Bool :=
  (fs.look? cwd p).map (· = some .dir)

def isFile (fs : Files) (cwd : Location) (p : Path) : Except Fault Bool :=
  (fs.look? cwd p).map fun e => match e with | some (.file ..) => true | _ => false

def exists? (fs : Files) (cwd : Location) (p : Path) : Except Fault Bool :=
  (fs.look? cwd p).map (·.isSome)

/-- Removes the file or link at a path; a link is not followed. -/
def unlink (fs : Files) (cwd : Location) (p : Path) : Except Fault Files :=
  match fs.find cwd false p with
  | .error f => .error f
  | .ok ⟨_, none⟩ => .error (errorAt .noEntry p)
  | .ok ⟨_, some .dir⟩ => .error (errorAt .isDirectory p)
  | .ok ⟨l, some _⟩ => .ok (fs.erase l)

/-- Makes a new entry, unless the directory that it is to stand in was removed. -/
def create (fs : Files) (p : Path) (e : Entry) : Location → Except Fault Files
  | [] => .error (errorAt .present p)
  | name :: dir =>
    if fs.get? dir = some .dir then .ok (fs.place name dir e) else .error (errorAt .noEntry p)

/-- Makes a directory in an existing one. -/
def makeDir (fs : Files) (cwd : Location) (p : Path) : Except Fault Files :=
  match fs.find cwd false p with
  | .error f => .error f
  | .ok ⟨_, some _⟩ => .error (errorAt .present p)
  | .ok ⟨l, none⟩ => fs.create p .dir l

/-- A directory that could not be made is as good as made if it is there. -/
def settle (fs : Files) (cwd : Location) (p : Path) (f : Fault) : Except Fault Unit :=
  match f with
  | .os _ =>
    match fs.isDir cwd p with
    | .ok true => .ok ()
    | .ok false => .error f
    | .error g => .error g
  | _ => .error f

def isMissing : Fault → Bool
  | .os e => e.kind == .noEntry
  | _ => false

/-- Makes a directory with the missing ones above it; the first argument is the number of segments
of the path. An existing directory is left as it is. -/
def ensureDirFrom (cwd : Location) : Nat → Path → Files → Files × Except Fault Unit
  | n, p, fs =>
    match fs.makeDir cwd p with
    | .ok made => (made, .ok ())
    | .error f =>
      if isMissing f then
        match n with
        | 0 => (fs, .error f)
        | n + 1 =>
          match ensureDirFrom cwd n p.parent fs with
          | (above, .error g) => (above, .error g)
          | (above, .ok ()) =>
            match above.makeDir cwd p with
            | .ok made => (made, .ok ())
            | .error g => (above, if isMissing g then .error g else above.settle cwd p g)
      else (fs, fs.settle cwd p f)

def ensureDir (fs : Files) (cwd : Location) (p : Path) : Files × Except Fault Unit :=
  ensureDirFrom cwd p.segments.length p fs

/-- The bytes of a file. -/
def read (fs : Files) (cwd : Location) (p : Path) : Except Fault (List UInt8) :=
  match fs.stat cwd p with
  | .ok (.file content _) => .ok content
  | .ok _ => .error (errorAt .isDirectory p)
  | .error f => .error f

/-- Changes the bytes of the file that a path leads to, or makes the file. -/
def update (fs : Files) (cwd : Location) (p : Path) (change : List UInt8 → List UInt8) :
    Except Fault Files :=
  match fs.find cwd true p with
  | .error f => .error f
  | .ok ⟨name :: dir, some (.file content executable)⟩ =>
    .ok (fs.place name dir (.file (change content) executable))
  | .ok ⟨l, none⟩ => fs.create p (.file (change []) false) l
  | .ok _ => .error (errorAt .isDirectory p)

/-- Writes bytes at the end of a file. -/
def append (fs : Files) (cwd : Location) (p : Path) (bytes : List UInt8) : Except Fault Files :=
  fs.update cwd p (· ++ bytes)

/-- The bytes of a file that is kept hold of, if it was not removed. -/
def contentOf? (fs : Files) (h : Handle) : Option (List UInt8) :=
  match (fs.whereabouts h).bind fs.get? with
  | some (.file content _) => some content
  | _ => none

/-- Changes the bytes of a file that is kept hold of; one that was removed takes nothing. -/
def alter (fs : Files) (h : Handle) (change : List UInt8 → List UInt8) : Files :=
  match fs.whereabouts h with
  | some (name :: dir) =>
    match fs.get? (name :: dir) with
    | some (.file content executable) => fs.place name dir (.file (change content) executable)
    | _ => fs
  | _ => fs

/-- Writes bytes at the end of a file that is kept hold of. -/
def extend (fs : Files) (h : Handle) (bytes : List UInt8) : Files := fs.alter h (· ++ bytes)

/-- Bytes with others written over them from a position on. -/
def overwrite (position : Nat) (bytes content : List UInt8) : List UInt8 :=
  content.take position ++ List.replicate (position - content.length) 0 ++ bytes ++
    content.drop (position + bytes.length)

/-- Replaces the bytes of a file. -/
def write (fs : Files) (cwd : Location) (p : Path) (bytes : List UInt8) : Except Fault Files :=
  fs.update cwd p fun _ => bytes

/-- Whether a file may be run. -/
def setExecutable (fs : Files) (cwd : Location) (p : Path) (executable : Bool) : Files :=
  match fs.find cwd true p with
  | .ok ⟨name :: dir, some (.file content _)⟩ => fs.place name dir (.file content executable)
  | _ => fs

/-- Makes a symbolic link. What goes wrong is told about both of its ends. -/
def makeLink (fs : Files) (cwd : Location) (p : Path) (target : String) : Except Fault Files :=
  let wrong (kind : OsErrorKind) : Fault := .os (.linking kind target p.toText)
  if hasNull target || hasNull p.toText then .error .nullByte
  else if target = "" then .error (wrong .noEntry)
  else if maxPath < target.utf8ByteSize then .error (wrong .nameTooLong)
  else
    match fs.locate cwd false p with
    | .error kind => .error (wrong kind)
    | .ok ⟨name :: dir, none⟩ =>
      if fs.get? dir = some .dir then .ok (fs.place name dir (.link target))
      else .error (wrong .noEntry)
    | .ok _ => .error (wrong .present)

/-- Removes whatever is at a path, with all that is below it. It is no error if there is nothing. -/
def removeTree (fs : Files) (cwd : Location) (p : Path) : Except Fault Files :=
  match fs.find cwd false p with
  | .ok ⟨l, some _⟩ => .ok (fs.eraseTree l)
  | .ok ⟨_, none⟩ => .ok fs
  | .error f => if isMissing f then .ok fs else .error f

/-- Moves an entry with all that is below it to a place in an existing directory. What is moved
keeps its numbers, and what stood in the place is gone. -/
def move (fs : Files) (source target : Location) : Files :=
  let moved (l : Location) : Location := l.take (l.length - source.length) ++ target
  let locations := ((fs.table.map (·.1)).filter (source <:+ ·)).eraseDups.mergeSort
    fun a b => a.length ≤ b.length
  let entries := locations.filterMap fun l => (fs.get? l).map fun e => (l, e)
  let cleared := (fs.eraseTree source).eraseTree target
  let placed := entries.foldl (fun done (l, e) =>
    match moved l with
    | name :: dir => done.place name dir e
    | [] => done) cleared
  { placed with births := entries.map (fun (l, _) => (moved l, fs.number l)) ++ placed.births }

/-- The path of a directory that is kept hold of. -/
def pathOf (fs : Files) (h : Handle) : Option Path :=
  (fs.directory? h).map fun l => Path.ofText (pathText l)

/-! ### Differences -/

/-- What has to be done to one tree to make it another, the upper entries first. -/
def changesTo (fs later : Files) : List (Location × Option Entry) :=
  let locations := ((fs.table ++ later.table).map (·.1)).eraseDups.mergeSort
    fun a b => a.length ≤ b.length
  locations.filterMap fun l =>
    let now := later.get? l
    if fs.get? l = now then none else some (l, now)

/-! ### Setting up a tree -/

/-- Makes the directories above a path, then does the rest. -/
def afterParents (fs : Files) (cwd : Location) (p : Path) (rest : Files → Except Fault Files) :
    Files × Except Fault Unit :=
  match fs.ensureDir cwd p.parent with
  | (fs, .error f) => (fs, .error f)
  | (fs, .ok ()) =>
    match rest fs with
    | .ok fs => (fs, .ok ())
    | .error f => (fs, .error f)

/-- Puts a file at a path, with the directories above it. -/
def putFile (fs : Files) (cwd : Location) (p : Path) (bytes : List UInt8) (executable : Bool) :
    Files × Except Fault Unit :=
  fs.afterParents cwd p fun fs => (fs.write cwd p bytes).map (·.setExecutable cwd p executable)

/-- Puts a link at a path, with the directories above it. -/
def putLink (fs : Files) (cwd : Location) (p : Path) (target : String) :
    Files × Except Fault Unit :=
  fs.afterParents cwd p fun fs => fs.makeLink cwd p target

/-- The entries below a directory, each with the names that lead to it from there. -/
def below (fs : Files) (dir : Location) : List (List String × Entry) :=
  let locations := ((fs.table.map (·.1)).filter fun l => dir <:+ l && l ≠ dir).eraseDups
  locations.filterMap fun l =>
    (fs.get? l).map fun e => ((l.take (l.length - dir.length)).reverse, e)

/-! ### Real paths -/

/-- How far the links on a path could be resolved: to a location, or to names that run in a circle.
-/
inductive RealPath where
  | location (l : Location)
  | circle (names : List String)
  deriving Repr

/-- Resolves links and double dots along names, whether or not there is something. `open_` holds the
links that are being resolved, and the first argument bounds their number. -/
def realFrom (fs : Files) (links : Nat) (open_ : List Location) (dir : Location)
    (names : List String) : RealPath :=
  match names with
  | [] => .location dir
  | name :: rest =>
    if name = "" ∨ name = "." then realFrom fs links open_ dir rest
    else if name = ".." then realFrom fs links open_ dir.tail rest
    else
      match fs.get? (name :: dir) with
      | some (.link target) =>
        if (name :: dir) ∈ open_ then .circle ((name :: dir).reverse ++ rest)
        else
          match links with
          | 0 => .circle ((name :: dir).reverse ++ rest)
          | links + 1 =>
            let start := if isRooted target then [] else dir
            match realFrom fs links ((name :: dir) :: open_) start (namesOf target) with
            | .location l => realFrom fs (links + 1) open_ l rest
            | .circle names => .circle (names ++ rest)
      | _ => realFrom fs links open_ (name :: dir) rest
  termination_by (links, names.length)

/-- The path without links and double dots. -/
def resolve (fs : Files) (cwd : Location) (p : Path) : Except Fault Path :=
  if hasNull p.toText then .error .nullByte
  else
    let names :=
      match fs.realFrom fs.table.length [] (if p.isAbsolute then [] else cwd) p.segments with
      | .location l => l.reverse
      | .circle names => Path.climb [] (names.filter fun name => name ≠ "" && name ≠ ".")
    let real := Path.ofText ("/" ++ Text.joinText "/" names)
    match fs.stat cwd real with
    | .error (.os e) => if e.kind == .tooManyLinks then .error (.linkLoop real.toText) else .ok real
    | _ => .ok real

/-! ### Executables -/

/-- Whether a text names a file that can be run. -/
def isExecutable (fs : Files) (cwd : Location) (name : String) : Bool :=
  !hasNull name &&
    match fs.locateText cwd true name with
    | .ok ⟨_, some (.file _ executable)⟩ => executable
    | _ => false

/-- The directories that are searched if no variable names them. -/
def standardPath : String := "/bin:/usr/bin"

/-- A name in a directory of a search path; the empty text is the current directory. -/
def inDirectory (dir name : String) : String :=
  if dir = "" then name
  else if dir.toList.getLast? = some '/' then dir ++ name
  else dir ++ "/" ++ name

/-- The names under which an executable is looked for. -/
def candidates (path : Option String) (name : String) : List String :=
  if name.toList.contains '/' then [name]
  else
    match path.getD standardPath with
    | "" => []
    | dirs =>
      (Text.splitOn ':' dirs.toList).map fun dir => inDirectory (String.ofList dir) name

/-- The first executable of a name: a name with a slash as it is, and any other one in the
directories of a search path. -/
def which (fs : Files) (cwd : Location) (path : Option String) (name : String) : Option String :=
  (candidates path name).find? (fs.isExecutable cwd)

end TestImpact.Files
