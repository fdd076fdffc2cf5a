import TestImpact.Child.Utility.FileTools

/-!
# Programs that move, copy and link files

Each takes sources and a target. The sources go into the target if it is a directory; otherwise the
only source takes the place of the target.
-/

namespace TestImpact.Child.Utility

/-- The source and the target of one transfer. -/
structure Route where
  source : Raw
  target : Raw
  deriving DecidableEq, Repr, Inhabited

/-- The name that a source has in a directory. -/
def routeInto (dir source : Raw) : Route :=
  ⟨source, inDirectory dir (baseName source)⟩

/-- The words for a path that does not lead to a directory. -/
def notDirectoryText (m : Machine) (p : Raw) : String :=
  match spotAt m true p with
  | .ok ⟨_, some _⟩ => OsErrorKind.notDirectory.text
  | .ok ⟨_, none⟩ => OsErrorKind.noEntry.text
  | .error kind =>
    if kind = .noEntry && (entryAt? m true (trimSlashes p)).isSome then
      OsErrorKind.notDirectory.text
    else kind.text

/-- Where sources go: to the last operand, or into it if it is a directory. -/
def routes (name : Raw) (found : List (Char × Raw)) (operands : List Raw) :
    Action (List Route) := do
  let m ← get
  match valueOf? found 't', operands.getLast?, operands.dropLast with
  | _, none, _ => misuse name 1 "missing file operand"
  | some dir, _, _ =>
    if has found 'T' then
      failWith name 1 "cannot combine --target-directory (-t) and --no-target-directory (-T)"
    if !isDirAt m dir then
      failWith name 1 ("target directory " ++ quoted dir ++ ": " ++ notDirectoryText m dir)
    return operands.map (routeInto dir)
  | none, some only, [] => misuse name 1 ("missing destination file operand after " ++ quoted only)
  | none, some target, source :: others =>
    if has found 'T' then
      match operands[2]? with
      | some extra => misuse name 1 ("extra operand " ++ quoted extra)
      | none => return [⟨source, target⟩]
    else if isDirAt m target then return (source :: others).map (routeInto target)
    else if others.isEmpty then return [⟨source, target⟩]
    else failWith name 1 ("target " ++ quoted target ++ ": " ++ notDirectoryText m target)

/-- Takes routes one after the other. Each is told of the places that those before it led to. -/
def takeRoutes (name : Raw) (rs : List Route) (act : Machine → List Location → Route → Outcome) :
    Action Unit := do
  let start ← get
  let places (o : Route) : List Location :=
    match spotAt start false o.target with
    | .ok ⟨l, _⟩ => [l]
    | .error _ => []
  forEach name rs.zipIdx fun m (route, n) => act m ((rs.take n).flatMap places) route

/-- What is at a place that something is to be put to: nothing yet, or an entry. -/
def thereAt (files : Files) (cwd : Location) (follow : Bool) (p : Raw) :
    Except OsErrorKind (Option (Location × Entry)) :=
  match files.locateText cwd follow p.toText with
  | .ok ⟨l, some e⟩ => .ok (some (l, e))
  | .ok ⟨_, none⟩ | .error .noEntry => .ok none
  | .error kind => .error kind

def cannotStat (p : Raw) (kind : OsErrorKind) : String :=
  "cannot stat " ++ quoted p ++ ": " ++ kind.text

/-- Why one entry cannot take the place of another one. -/
def clash? (made : List Location) (route : Route) (e : Entry) (place : Location) (there : Entry) :
    Option String :=
  match e, there with
  | .dir, .dir => none
  | .dir, _ =>
    some ("cannot overwrite non-directory " ++ quoted route.target ++ " with directory " ++
      quoted route.source)
  | _, .dir => some ("cannot overwrite directory " ++ quoted route.target ++ " with non-directory")
  | _, _ =>
    if made.contains place then
      some ("will not overwrite just-created " ++ quoted route.target ++ " with " ++
        quoted route.source)
    else none

def sameFile (route : Route) : String :=
  quoted route.source ++ " and " ++ quoted route.target ++ " are the same file"

/-- Where the entry at a location leads to if it is a link. -/
def behind (files : Files) (cwd : Location) (p : Raw) (l : Location) : Location :=
  match files.locateText cwd true p.toText with
  | .ok ⟨k, some _⟩ => k
  | _ => l

/-! ### Moving -/

/-- Whether a path ends in a name that stands for a directory by where it is. -/
def endsInDots (p : Raw) : Bool := [['.'], ['.', '.']].contains (baseName p)

/-- Gives an entry at a location a new name, with what stands there, if anything. -/
def rename (m : Machine) (route : Route) (l : Location) (e : Entry) (there : Option Entry) :
    Except String Files :=
  let files := m.world.files
  let wrong (text : String) : Except String Files :=
    .error ("cannot move " ++ quoted route.source ++ " to " ++ quoted route.target ++ ": " ++ text)
  let target := if e = .dir then trimSlashes route.target else route.target
  if endsInDots route.source || endsInDots route.target then wrong "Device or resource busy"
  else if isLinkAsDir m route.source || (there.isNone && isLinkAsDir m route.target) then
    wrong OsErrorKind.notDirectory.text
  else if there.isNone && e ≠ .dir && route.target.getLast? = some '/' then
    wrong OsErrorKind.notDirectory.text
  else
    match spotAt m false target with
    | .error kind => wrong kind.text
    | .ok ⟨k, _⟩ =>
      if l <:+ k then
        .error ("cannot move " ++ quoted route.source ++ " to a subdirectory of itself, " ++
          quoted route.target)
      else if there = some .dir && !(files.below k).isEmpty then
        .error ("cannot overwrite " ++ quoted route.target ++ ": Directory not empty")
      else if files.get? k.tail = some .dir then .ok (files.move l k)
      else wrong OsErrorKind.noEntry.text

/-- Moves one file or directory. -/
def moveOne (found : List (Char × Raw)) (m : Machine) (made : List Location) (route : Route) :
    Outcome :=
  let files := m.world.files
  let renamed (l : Location) (e : Entry) (there : Option Entry) : Outcome :=
    match rename m route l e there with
    | .error text => .failed files text
    | .ok files =>
      let o := Outcome.done files
      if has found 'v' then
        o.saying ("renamed " ++ quoted route.source ++ " -> " ++ quoted route.target ++ "\n")
      else o
  match spotAt m false route.source, thereAt files m.location false route.target with
  | .error kind, _ => .failed files (cannotStat route.source kind)
  | .ok ⟨_, none⟩, _ => .failed files (cannotStat route.source .noEntry)
  | _, .error kind => .failed files (cannotStat route.target kind)
  | .ok ⟨l, some e⟩, .ok none => renamed l e none
  | .ok ⟨l, some e⟩, .ok (some (k, there)) =>
    if has found 'n' then .done files
    else if k = l || k = behind files m.location route.source l then
      .failed files (sameFile route)
    else
      match clash? made route e k there with
      | some text => .failed files text
      | none => renamed l e (some there)

def runMove (name : Raw) (arguments : List Raw) : Action Unit := do
  let spec : OptionSpec := ⟨"finuvT", "t",
    [("force", 'f'), ("no-clobber", 'n'), ("verbose", 'v'), ("target-directory", 't')]⟩
  let (found, operands) ← spec.read name 1 arguments
  takeRoutes name (← routes name found operands) (moveOne found)

/-! ### Copying -/

/-- How entries are copied: whether with all that is below them, which links are followed, and
whether links are made in place of copies. -/
structure CopyMode where
  isDeep : Bool
  followsGiven : Bool
  followsAll : Bool
  keepsExisting : Bool
  isForced : Bool
  isVerbose : Bool
  makesLinks : Bool
  makesHardLinks : Bool
  deriving DecidableEq, Repr, Inhabited

def CopyMode.ofOptions (found : List (Char × Raw)) : CopyMode :=
  let isDeep := has found 'r' || has found 'R' || has found 'a'
  let choice := (found.reverse.find? fun o => "LHPda".toList.contains o.1).map (·.1)
  { isDeep
    followsGiven := choice.elim (!isDeep) fun c => c = 'L' || c = 'H'
    followsAll := choice = some 'L'
    keepsExisting := has found 'n'
    isForced := has found 'f'
    isVerbose := has found 'v'
    makesLinks := has found 's'
    makesHardLinks := has found 'l' }

/-- The names in a directory, in order. -/
def namesIn (files : Files) (l : Location) : List Raw :=
  let names := (files.below l).filterMap fun (names, _) =>
    match names with
    | [name] => some (Raw.ofText name)
    | _ => none
  names.mergeSort fun a b => !decide (b < a)

/-- Puts a copy of an entry that is no directory to a place. -/
def copyEntry (mode : CopyMode) (files : Files) (cwd : Location) (route : Route) (e : Entry)
    (there : Option (Location × Entry)) : Except String Files :=
  let isLink := mode.makesLinks || mode.makesHardLinks
  let toward := " " ++ quoted route.target ++ " to " ++ quoted route.source ++ ": "
  let wrong (kind : OsErrorKind) : String :=
    if mode.makesLinks then "cannot create symbolic link" ++ toward ++ kind.text
    else if mode.makesHardLinks then "cannot create hard link" ++ toward ++ kind.text
    else
      match e with
      | .link _ => "cannot create symbolic link " ++ quoted route.target ++ ": " ++ kind.text
      | _ => "cannot create regular file " ++ quoted route.target ++ ": " ++ kind.text
  let copy : Entry := if mode.makesLinks then .link route.source.toText else e
  match there with
  | some (k, old) =>
    if isLink && !mode.isForced then .error (wrong .present)
    else
      match copy, old with
      | .file content _, .file _ executable =>
        (putAt files (.file content executable) k).mapError wrong
      | copy, _ => (putAt files copy k).mapError wrong
  | none =>
    if mode.makesLinks && route.source.head? ≠ some '/' && route.target.contains '/' then
      .error (quoted route.target ++
        ": can make relative symbolic links only in current directory")
    else if route.target.getLast? = some '/' then .error (wrong .notDirectory)
    else
      match files.locateText cwd false route.target.toText with
      | .error kind => .error (wrong kind)
      | .ok ⟨k, none⟩ => (putAt files copy k).mapError wrong
      | .ok ⟨_, some _⟩ =>
        .error ("not writing through dangling symlink " ++ quoted route.target)

/-- The directory that is copied to, made if it is not there. -/
def dirForCopy (files : Files) (cwd : Location) (target : Raw) (there : Option (Location × Entry)) :
    Except OsErrorKind (Location × Files) :=
  match there with
  | some (k, _) => .ok (k, files)
  | none => do
    let spot ← files.locateText cwd false (trimSlashes target).toText
    if spot.entry.isSome then .error .present
    else return (spot.location, ← putAt files .dir spot.location)

/-- Copies what is at the source of a route. The number bounds how deep directories stand in each
other. -/
def copyFrom (mode : CopyMode) (cwd : Location) :
    Nat → Bool → List Location → Files → Route → Outcome
  | 0, _, _, files, _ => .done files
  | n + 1, isGiven, made, files, route =>
    let follow := if isGiven then mode.followsGiven else mode.followsAll
    let saying (isNew : Bool) (o : Outcome) : Outcome :=
      if mode.isVerbose && isNew then
        o.saying (quoted route.source ++ " -> " ++ quoted route.target ++ "\n")
      else o
    match files.locateText cwd follow route.source.toText with
    | .error kind => .failed files (cannotStat route.source kind)
    | .ok ⟨_, none⟩ => .failed files (cannotStat route.source .noEntry)
    | .ok ⟨l, some e⟩ =>
      let isFile : Bool :=
        match e with
        | .file .. => true
        | _ => false
      if e = .dir && !mode.isDeep then
        .failed files ("-r not specified; omitting directory " ++ quoted route.source)
      else
        let followsTarget := isFile && !mode.makesLinks && !mode.makesHardLinks
        match thereAt files cwd followsTarget route.target with
        | .error kind => .failed files (cannotStat route.target kind)
        | .ok there =>
          let isSame := there.any fun t => t.1 = l || t.1 = behind files cwd route.source l
          let isKept := e ≠ .dir && mode.keepsExisting && there.isSome
          if isSame && mode.makesHardLinks then .done files
          else if isSame then .failed files (sameFile route)
          else if isKept then .done files
          else
            match there.bind fun (k, t) => clash? (if isGiven then made else []) route e k t with
            | some text => .failed files text
            | none =>
              if e = .dir then
                match dirForCopy files cwd route.target there with
                | .error kind =>
                  .failed files ("cannot create directory " ++ quoted route.target ++ ": " ++
                    kind.text)
                | .ok (k, start) =>
                  let o := saying there.isNone (.done start)
                  if l <:+ k then
                    { o with complaints := ["cannot copy a directory, " ++ quoted route.source ++
                      ", into itself, " ++ quoted route.target] }
                  else
                    (namesIn files l).foldl (fun o name =>
                      o.andThen fun files =>
                        copyFrom mode cwd n false [] files
                          ⟨inDirectory route.source name, inDirectory route.target name⟩) o
              else
                match copyEntry mode files cwd route e there with
                | .ok files => saying true (.done files)
                | .error text => .failed files text
/-- Copies one file or directory. -/
def copyOne (mode : CopyMode) (m : Machine) (made : List Location) (route : Route) : Outcome :=
  copyFrom mode m.location 1000 true made m.world.files route

def runCopy (name : Raw) (arguments : List Raw) : Action Unit := do
  let spec : OptionSpec := ⟨"rRafpnuvTdPLlHsx", "t",
    [("recursive", 'r'), ("force", 'f'), ("archive", 'a'), ("no-clobber", 'n'), ("verbose", 'v'),
      ("link", 'l'), ("symbolic-link", 's'), ("dereference", 'L'), ("no-dereference", 'P'),
      ("target-directory", 't')]⟩
  let (found, operands) ← spec.read name 1 arguments
  let above (r : Route) : Route :=
    match baseName r.source, operands.getLast? with
    | ['.', '.'], some last => ⟨r.source, (valueOf? found 't').getD last⟩
    | _, _ => r
  let rs := (← routes name found operands).map above
  takeRoutes name rs (copyOne (.ofOptions found))

/-! ### Linking -/

/-- Names without those that two paths have in common at their start. -/
def afterCommon : List String → List String → List String × List String
  | a :: as, b :: bs => if a = b then afterCommon as bs else (a :: as, b :: bs)
  | as, bs => (as, bs)

/-- The source of a link as it is reached from the directory of the target. -/
def relativeText (m : Machine) (route : Route) : String :=
  let namesFor (p : Raw) : List String :=
    match m.world.files.resolve m.location (.ofText p.toText) with
    | .ok path => path.segments
    | .error _ => []
  let (up, down) := afterCommon (namesFor (dirName route.target)) (namesFor route.source)
  let names := up.map (fun _ => "..") ++ down
  if names.isEmpty then "." else Text.joinText "/" names

/-- Makes one link. -/
def linkOne (found : List (Char × Raw)) (m : Machine) (made : List Location) (route : Route) :
    Outcome :=
  let files := m.world.files
  let isSymbolic := has found 's'
  let target := route.target
  let wrong (kind : OsErrorKind) : Outcome := .failed files
    (if isSymbolic then "failed to create symbolic link " ++ quoted target ++ ": " ++ kind.text
     else "failed to create hard link " ++ quoted target ++
      (if kind = .present then "" else " => " ++ quoted route.source) ++ ": " ++ kind.text)
  let put (files : Files) (e : Entry) : Outcome :=
    match files.locateText m.location false target.toText with
    | .error kind => wrong kind
    | .ok ⟨_, some _⟩ => wrong .present
    | .ok ⟨k, none⟩ =>
      match putAt files e k with
      | .error kind => wrong kind
      | .ok files =>
        let o := Outcome.done files
        if has found 'v' then
          o.saying (quoted target ++ (if isSymbolic then " -> " else " => ") ++
            quoted route.source ++ "\n")
        else o
  let cleared (source : Option Location) : Except String Files :=
    if !has found 'f' then .ok files
    else
      match spotAt m false target with
      | .ok ⟨_, some .dir⟩ => .error (String.ofList target ++ ": cannot overwrite directory")
      | .ok ⟨k, some _⟩ =>
        if source = some k then .error (sameFile route)
        else if made.contains k then
          .error ("will not overwrite just-created " ++ quoted target ++ " with " ++
            quoted route.source)
        else .ok (files.erase k)
      | _ => .ok files
  if isSymbolic then
    let source : Option Location :=
      match spotAt m true route.source with
      | .ok ⟨l, some _⟩ => some l
      | _ => none
    match cleared source with
    | .error text => .failed files text
    | .ok start =>
      if route.source.isEmpty then wrong .noEntry
      else put start (.link (if has found 'r' then relativeText m route else route.source.toText))
  else
    match spotAt m (has found 'L') route.source with
    | .error kind =>
      .failed files ("failed to access " ++ quoted route.source ++ ": " ++ kind.text)
    | .ok ⟨_, none⟩ =>
      .failed files ("failed to access " ++ quoted route.source ++ ": " ++ OsErrorKind.noEntry.text)
    | .ok ⟨_, some .dir⟩ =>
      .failed files (String.ofList route.source ++ ": hard link not allowed for directory")
    | .ok ⟨l, some e⟩ =>
      match cleared (some l) with
      | .error text => .failed files text
      | .ok start => put start e

def runLink (name : Raw) (arguments : List Raw) : Action Unit := do
  let spec : OptionSpec := ⟨"sfnTvLPr", "t",
    [("relative", 'r'), ("symbolic", 's'), ("force", 'f'), ("no-dereference", 'n'),
      ("verbose", 'v'), ("target-directory", 't'), ("logical", 'L'), ("physical", 'P')]⟩
  let (found, operands) ← spec.read name 1 arguments
  let operands :=
    match operands with
    | [only] => if has found 't' || has found 'T' then operands else [only, ['.']]
    | _ => operands
  let m ← get
  let isLink (p : Raw) : Bool :=
    match entryAt? m false p with
    | some (.link _) => true
    | _ => false
  let found := if has found 'n' && operands.getLast?.any isLink then ('T', []) :: found else found
  takeRoutes name (← routes name found operands) (linkOne found)

end TestImpact.Child.Utility
