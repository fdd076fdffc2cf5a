import TestImpact.Child.Utility.Program

/-!
# Programs that make and remove files

Each goes through the paths that it is given, tells about those that fail and goes on with the
others.
-/

namespace TestImpact.Child.Utility

/-- What a path leads to for the program that runs. -/
def spotAt (m : Machine) (follow : Bool) (p : Raw) : Except OsErrorKind Files.Spot :=
  m.world.files.locateText m.location follow p.toText

def entryAt? (m : Machine) (follow : Bool) (p : Raw) : Option Entry :=
  match spotAt m follow p with
  | .ok ⟨_, e⟩ => e
  | .error _ => none

def isDirAt (m : Machine) (p : Raw) : Bool := entryAt? m true p = some .dir

/-- Puts an entry at a location. -/
def putAt (files : Files) (e : Entry) : Location → Except OsErrorKind Files
  | [] => .error .isDirectory
  | name :: dir =>
    if files.get? dir = some .dir then .ok (files.place name dir e) else .error .noEntry

/-- What a program did to one path: the files after it, what it says, and what went wrong. -/
structure Outcome where
  files : Files
  said : Raw
  complaints : List String

namespace Outcome

def done (files : Files) : Outcome := ⟨files, [], []⟩

def failed (files : Files) (complaint : String) : Outcome := ⟨files, [], [complaint]⟩

/-- Says something more. -/
def saying (o : Outcome) (text : String) : Outcome := { o with said := o.said ++ text.toList }

/-- Two things one after the other. -/
def andThen (o : Outcome) (act : Files → Outcome) : Outcome :=
  let next := act o.files
  ⟨next.files, o.said ++ next.said, o.complaints ++ next.complaints⟩

end Outcome

/-- Goes through things that are to be done one after the other. -/
def forEach {α : Type} (name : Raw) (things : List α) (act : Machine → α → Outcome) :
    Action Unit := do
  let mut status := 0
  for thing in things do
    let o := act (← get) thing
    setFiles o.files
    say o.said
    for text in o.complaints do
      tell name text
      status := 1
  setStatus status

/-- The kind of a fault of the operating system. -/
def kindOf (f : Fault) : OsErrorKind :=
  match f with
  | .os e => e.kind
  | _ => .noEntry

/-- A path without slashes at its end. -/
def trimSlashes (p : Raw) : Raw :=
  match (p.reverse.dropWhile (· = '/')).reverse with
  | [] => p.take 1
  | s => s

/-- The last name of a path. -/
def baseName (p : Raw) : Raw :=
  let s := trimSlashes p
  if s = ['/'] then s else (s.reverse.takeWhile (· ≠ '/')).reverse

/-- What stands before the last name of a path. -/
def dirName (p : Raw) : Raw :=
  let s := trimSlashes p
  let dir := (s.reverse.dropWhile (· ≠ '/')).reverse
  if dir.isEmpty then ['.'] else trimSlashes dir

/-- Whether a path leads to a link, but asks for the directory behind it. -/
def isLinkAsDir (m : Machine) (p : Raw) : Bool :=
  p.getLast? = some '/' &&
    match entryAt? m false (trimSlashes p) with
    | some (.link _) => true
    | _ => false

/-- The names below a directory as far as they belong to one entry: those of an entry come before
it.
-/
def comesBefore : List String → List String → Bool
  | _, [] => true
  | [], _ :: _ => false
  | a :: as, b :: bs => if a = b then comesBefore as bs else a < b

/-! ### Making -/

def runTouch (name : Raw) (arguments : List Raw) : Action Unit := do
  let spec : OptionSpec := ⟨"acfhm", "rtd", [("no-create", 'c'), ("no-dereference", 'h')]⟩
  let (found, paths) ← spec.read name 1 arguments
  if paths.isEmpty then misuse name 1 "missing file operand"
  forEach name paths fun m p =>
    let wrong (kind : OsErrorKind) : Outcome :=
      .failed m.world.files ("cannot touch " ++ quoted p ++ ": " ++ kind.text)
    match spotAt m true p with
    | .ok ⟨_, some _⟩ => .done m.world.files
    | .ok ⟨l, none⟩ =>
      if has found 'c' then .done m.world.files
      else if has found 'h' then
        .failed m.world.files ("setting times of " ++ quoted p ++ ": " ++ OsErrorKind.noEntry.text)
      else if p.getLast? = some '/' then wrong .noEntry
      else
        match putAt m.world.files (.file [] false) l with
        | .ok files => .done files
        | .error kind => wrong kind
    | .error kind =>
      if has found 'c' && kind = .noEntry then .done m.world.files else wrong kind

/-- The paths of the directories on a path, the upper ones first. -/
def stepsOf (p : Raw) : List Raw :=
  (List.range (p.length + 1)).filterMap fun n =>
    let q := p.take n
    if q.getLast?.any (· ≠ '/') && (p[n]?).all (· = '/') then some q else none

def runMakeDir (name : Raw) (arguments : List Raw) : Action Unit := do
  let spec : OptionSpec := ⟨"pv", "m", [("parents", 'p'), ("verbose", 'v'), ("mode", 'm')]⟩
  let (found, paths) ← spec.read name 1 arguments
  checkOperands name 1 none paths
  forEach name paths fun m p =>
    let files := m.world.files
    let path := Path.ofText p.toText
    let (files, result) : Files × Except Fault Unit :=
      if p.isEmpty then (files, .error (.os (.at .noEntry "")))
      else if has found 'p' then files.ensureDir m.location path
      else
        match files.makeDir m.location path with
        | .ok made => (made, .ok ())
        | .error f => (files, .error f)
    let made := if has found 'p' then
        (stepsOf p).filter fun q =>
          (entryAt? m true q).isNone && (files.isDir m.location (.ofText q.toText)) matches .ok true
      else [p]
    let told := (made.map fun q =>
      let shown := if trimSlashes p = q then p else q
      String.ofList name ++ ": created directory " ++ quoted shown ++ "\n").foldl (· ++ ·) ""
    match result with
    | .ok () => if has found 'v' then Outcome.saying (.done files) told else .done files
    | .error f =>
      ⟨files, [], ["cannot create directory " ++ quoted p ++ ": " ++ (kindOf f).text]⟩

/-! ### Removing -/

/-- Removes an empty directory. -/
def removeDir (m : Machine) (p : Raw) : Except String Files :=
  if baseName p = ['.'] then .error "Invalid argument"
  else if isLinkAsDir m p then .error OsErrorKind.notDirectory.text
  else
    match spotAt m false p with
    | .ok ⟨l, some .dir⟩ =>
      if (m.world.files.below l).isEmpty then .ok (m.world.files.eraseTree l)
      else .error "Directory not empty"
    | .ok ⟨_, some _⟩ => .error OsErrorKind.notDirectory.text
    | .ok ⟨_, none⟩ => .error OsErrorKind.noEntry.text
    | .error kind => .error kind.text

/-- Removes directories one after the other, up to the first that cannot be removed. One that is not
empty is passed over in silence if that is asked for. -/
def removeDirs (name : Raw) (found : List (Char × Raw)) (m : Machine) : List Raw → Outcome
  | [] => .done m.world.files
  | p :: rest =>
    let told : Raw := if has found 'v' then
        (String.ofList name ++ ": removing directory, " ++ quoted p ++ "\n").toList
      else []
    match removeDir m p with
    | .error text =>
      let isIgnored := has found 'i' && text = "Directory not empty"
      let complaint := "failed to remove " ++ quoted p ++ ": " ++ text
      ⟨m.world.files, told, if isIgnored then [] else [complaint]⟩
    | .ok files =>
      let o := removeDirs name found { m with world := { m.world with files } } rest
      { o with said := told ++ o.said }

def runRemoveDir (name : Raw) (arguments : List Raw) : Action Unit := do
  let spec : OptionSpec := ⟨"pvi", "",
    [("parents", 'p'), ("verbose", 'v'), ("ignore-fail-on-non-empty", 'i')]⟩
  let (found, paths) ← spec.read name 1 arguments
  checkOperands name 1 none paths
  forEach name paths fun m p =>
    removeDirs name found m (p :: if has found 'p' then (stepsOf p).dropLast.reverse else [])

/-- What `rm` says about all that it removed below a path. -/
def removedBelow (p : Raw) (entries : List (List String × Entry)) : String :=
  let lines := (entries.mergeSort fun a b => comesBefore a.1 b.1).map fun (names, e) =>
    (if e = .dir then "removed directory " else "removed ") ++
      quoted (names.foldl (fun path name => inDirectory path (Raw.ofText name)) p) ++ "\n"
  lines.foldl (· ++ ·) ""

/-- Removes what is at a path. -/
def removeOne (found : List (Char × Raw)) (m : Machine) (p : Raw) : Outcome :=
  let files := m.world.files
  let wrong (text : String) : Outcome :=
    .failed files ("cannot remove " ++ quoted p ++ ": " ++ text)
  let isDeep := has found 'r' || has found 'R'
  let saying (o : Outcome) (text : String) : Outcome := if has found 'v' then o.saying text else o
  match spotAt m false p with
  | .ok ⟨l, some .dir⟩ =>
    if !isDeep && !has found 'd' then wrong OsErrorKind.isDirectory.text
    else if [['.'], ['.', '.']].contains (baseName p) then
      .failed m.world.files ("refusing to remove '.' or '..' directory: skipping " ++ quoted p)
    else if l.isEmpty then
      .failed m.world.files ("it is dangerous to operate recursively on " ++ quoted p ++
        "\nrm: use --no-preserve-root to override this failsafe")
    else if isLinkAsDir m p then
      let cleared := (files.below l).foldl (fun files (names, _) =>
        files.eraseTree (names.reverse ++ l)) files
      let complaint := "cannot remove " ++ quoted p ++ ": " ++ OsErrorKind.notDirectory.text
      let o : Outcome :=
        ⟨if isDeep then cleared else files, [], if has found 'f' then [] else [complaint]⟩
      if isDeep then saying o (removedBelow p (files.below l)) else o
    else if isDeep then
      saying (.done (files.eraseTree l)) (removedBelow p (files.below l ++ [([], .dir)]))
    else
      match removeDir m p with
      | .ok files => saying (.done files) ("removed directory " ++ quoted p ++ "\n")
      | .error text => wrong text
  | .ok ⟨l, some _⟩ => saying (.done (files.erase l)) ("removed " ++ quoted p ++ "\n")
  | .ok ⟨_, none⟩ => if has found 'f' then .done files else wrong OsErrorKind.noEntry.text
  | .error kind =>
    if has found 'f' && (kind = .noEntry || kind = .notDirectory) then .done files
    else wrong kind.text

def runRemove (name : Raw) (arguments : List Raw) : Action Unit := do
  let spec : OptionSpec := ⟨"rRfidvI", "",
    [("recursive", 'r'), ("force", 'f'), ("dir", 'd'), ("verbose", 'v')]⟩
  let (found, paths) ← spec.read name 1 arguments
  if !has found 'f' then checkOperands name 1 none paths
  forEach name paths (removeOne found)

def runUnlink (name : Raw) (arguments : List Raw) : Action Unit := do
  let (_, paths) ← (⟨"", "", []⟩ : OptionSpec).read name 1 arguments
  checkOperands name 1 (some 1) paths
  forEach name paths fun m p =>
    let wrong (kind : OsErrorKind) : Outcome :=
      .failed m.world.files ("cannot unlink " ++ quoted p ++ ": " ++ kind.text)
    if isLinkAsDir m p then wrong .notDirectory
    else
      match spotAt m false p with
      | .ok ⟨_, some .dir⟩ => wrong .isDirectory
      | .ok ⟨l, some _⟩ => .done (m.world.files.erase l)
      | .ok ⟨_, none⟩ => wrong .noEntry
      | .error kind => wrong kind

end TestImpact.Child.Utility
