import TestImpact.Child.Utility.Options

/-!
# The directory of the shell

The shell remembers by which names it came to its directory: two dots lead back along these names,
also where one of them is a link.
-/

namespace TestImpact.Child.Shell

/-- The slashes at the start of an absolute path that belong to it: two stay two. -/
def rootOf (s : Raw) : Raw :=
  match s with
  | '/' :: '/' :: '/' :: _ => ['/']
  | '/' :: '/' :: _ => ['/', '/']
  | _ => ['/']

/-- The directory that a path leads to from another one, by names alone. -/
def follow (directory path : Raw) : Raw :=
  let namesOf (s : Raw) : List Raw := (Text.splitOn '/' s).filter fun n => !n.isEmpty && n ≠ ['.']
  let isAbsolute := path.head? = some '/'
  let start := if isAbsolute then [] else (namesOf directory).reverse
  let names := (namesOf path).foldl (fun above n =>
    if n = ['.', '.'] then above.tail else n :: above) start
  rootOf (if isAbsolute then path else directory) ++ Raw.join ['/'] names.reverse

/-- The location of a directory, if there is one at a path. -/
def directoryAt? (m : Machine) (p : Raw) : Option Location :=
  match m.world.files.locateText m.location true p.toText with
  | .ok ⟨l, some .dir⟩ => some l
  | _ => none

/-- The path of the directory that the program stands in. -/
def realDirectory (m : Machine) : Raw := Raw.ofText (Files.pathText m.location)

/-- Tells programs about the directory. -/
def declareDirectory (name directory : Raw) : Action Unit := do
  assign name directory
  declare name fun v => { v with isExported := true }

/-- The directory of a shell that starts: the one that its environment tells about if it is true. -/
def startDirectory : Action Unit := do
  let m ← get
  let told := (value? m "PWD".toList).filter fun p =>
    p.head? = some '/' && directoryAt? m p = some m.location
  let directory := told.getD (realDirectory m)
  set { m with directory }
  declareDirectory "PWD".toList directory

/-- Goes to a directory; says whether there is one. -/
def enterDirectory (isPhysical : Bool) (p : Raw) : Action Bool := do
  let m ← get
  let path := if isPhysical then p else follow m.directory p
  match directoryAt? m path with
  | none => return false
  | some l =>
    let moved := { m with standing := m.world.files.hold l }
    let directory := if isPhysical then realDirectory moved else path
    set { moved with directory }
    declareDirectory "OLDPWD".toList m.directory
    declareDirectory "PWD".toList directory
    return true

/-- Whether a path says by itself where it starts. -/
def isAnchored (p : Raw) : Bool :=
  match p with
  | '/' :: _ | ['.'] | '.' :: '/' :: _ | ['.', '.'] | '.' :: '.' :: '/' :: _ => true
  | _ => false

/-- Whether the last of the options about links asks for the path without them. -/
def asksPhysical (found : List (Char × Raw)) : Bool := (found.map (·.1)).getLast? = some 'P'

/-- Goes to a directory: the home directory, or for a dash the one before, which is then printed.
Directories may be looked for in others. -/
def runChangeDir (arguments : List Raw) : Action Unit := do
  let (found, rest) ← Options.read "LP" "" arguments
  let m ← get
  let goesBack := rest.head? = some ['-']
  let given : Option Raw :=
    match rest with
    | [] => value? m "HOME".toList
    | p :: _ => if goesBack then value? m "OLDPWD".toList else some p
  let dest := given.getD []
  let places : List Raw :=
    if isAnchored dest then []
    else ((value? m "CDPATH".toList).map (Text.splitOn ':')).getD []
  let wanted := if dest.isEmpty then ['.'] else dest
  let candidates := places.map fun place =>
    (place, if place.isEmpty then wanted else place ++ '/' :: wanted)
  let (place, p) := (candidates.find? fun c => (directoryAt? m c.2).isSome).getD ([], wanted)
  if ← enterDirectory (asksPhysical found) p then
    setStatus 0
    if goesBack || !place.isEmpty then say ((← get).directory ++ ['\n'])
  else fault ("can't cd to ".toList ++ dest)

def runWorkingDir (arguments : List Raw) : Action Unit := do
  let (found, _) ← Options.read "LP" "" arguments
  let m ← get
  say ((if asksPhysical found then realDirectory m else m.directory) ++ ['\n'])
  setStatus 0

end TestImpact.Child.Shell
