import TestImpact.Child.Utility.Transfer

/-!
# Programs that tell about files

Programs that print names of files and what links lead to, that list directories, and that say who
may run a file.
-/

namespace TestImpact.Child.Utility

/-! ### Names -/

/-- Where the links on a path lead to, as far as there is something. -/
def resolvedText (m : Machine) (p : Raw) : Option String :=
  match m.world.files.resolve m.location (.ofText p.toText) with
  | .ok path => some path.toText
  | .error _ => none

def runReadLink (name : Raw) (arguments : List Raw) : Action Unit := do
  let (found, paths) ← (⟨"fnemqsvz", "", []⟩ : OptionSpec).read name 1 arguments
  checkOperands name 1 none paths
  let resolves := has found 'f' || has found 'e' || has found 'm'
  let mut status := 0
  for p in paths do
    let m ← get
    let shown : Except String String :=
      if has found 'm' then (resolvedText m p).elim (.error OsErrorKind.noEntry.text) .ok
      else if resolves then
        match spotAt m true (if has found 'e' then p else trimSlashes p) with
        | .ok ⟨l, e⟩ =>
          if has found 'e' && e.isNone then .error OsErrorKind.noEntry.text
          else if e.all (· ≠ .dir) && e.isSome && p.getLast? = some '/' then
            .error OsErrorKind.notDirectory.text
          else .ok (Files.pathText l)
        | .error kind => .error kind.text
      else
        match spotAt m false p with
        | .ok ⟨_, some (.link target)⟩ => .ok target
        | .ok ⟨_, some _⟩ => .error "Invalid argument"
        | .ok ⟨_, none⟩ => .error OsErrorKind.noEntry.text
        | .error kind => .error kind.text
    match shown with
    | .ok s => say (Raw.ofText s ++ (if has found 'n' && paths.length = 1 then [] else ['\n']))
    | .error why =>
      if has found 'v' then tell name (String.ofList p ++ ": " ++ why)
      status := 1
  setStatus status

def runRealPath (name : Raw) (arguments : List Raw) : Action Unit := do
  let (found, paths) ← (⟨"emqsz", "", []⟩ : OptionSpec).read name 1 arguments
  checkOperands name 1 none paths
  let mut status := 0
  for p in paths do
    match spotAt (← get) true p with
    | .ok ⟨l, e⟩ =>
      if has found 'e' && e.isNone then
        tell name (String.ofList p ++ ": " ++ OsErrorKind.noEntry.text)
        status := 1
      else say (Raw.ofText (Files.pathText l) ++ ['\n'])
    | .error kind =>
      tell name (String.ofList p ++ ": " ++ kind.text)
      status := 1
  setStatus status

def runBaseName (name : Raw) (arguments : List Raw) : Action Unit := do
  let (found, operands) ← (⟨"az", "s", []⟩ : OptionSpec).read name 1 arguments
  let isMany := has found 'a' || has found 's'
  checkOperands name 1 (if isMany then none else some 2) operands
  let (paths, ending) :=
    match operands with
    | [p, ending] => if isMany then (operands, valueOf? found 's') else ([p], some ending)
    | _ => (operands, valueOf? found 's')
  for p in paths do
    let base := baseName p
    let short := ending.bind fun e =>
      if e.length < base.length && e.isSuffixOf base then some (base.take (base.length - e.length))
      else none
    say (short.getD base ++ ['\n'])
  setStatus 0

def runDirName (name : Raw) (arguments : List Raw) : Action Unit := do
  let (_, paths) ← (⟨"z", "", []⟩ : OptionSpec).read name 1 arguments
  checkOperands name 1 none paths
  for p in paths do say (dirName p ++ ['\n'])
  setStatus 0

/-! ### Permissions and lists -/

/-- Whether a file may be run after a mode was applied, given whether it could be before. -/
def applyMode? (mode : Raw) (before : Bool) : Option Bool :=
  if !mode.isEmpty && mode.all (fun c => '0' ≤ c && c ≤ '7') then
    some (mode.reverse.take 3 |>.any fun c => (c.toNat - '0'.toNat) % 2 = 1)
  else
    (Text.splitOn ',' mode).foldlM (fun now clause =>
      match clause.dropWhile "ugoa".toList.contains with
      | sign :: letters =>
        let changes := letters.contains 'x' || (letters.contains 'X' && now)
        if !letters.all "rwxXst".toList.contains then none
        else
          match sign with
          | '+' => some (now || changes)
          | '-' => some (now && !changes)
          | '=' => some changes
          | _ => none
      | [] => none) before

def runChmod (name : Raw) (arguments : List Raw) : Action Unit := do
  let isMode (a : Raw) : Bool := (applyMode? a false).isSome
  let (modes, others) := arguments.span isMode
  let (mode, arguments) :=
    match modes, others with
    | m :: rest, _ => (some m, rest ++ others)
    | [], o :: rest =>
      match rest with
      | m :: paths =>
        if isMode m && o.head? = some '-' then (some m, o :: paths) else (none, others)
      | [] => (none, others)
    | [], [] => (none, [])
  let (_, paths) ← (⟨"Rfvc", "", []⟩ : OptionSpec).read name 1 arguments
  match mode with
  | none =>
    match arguments with
    | [] => misuse name 1 "missing operand"
    | [only] => misuse name 1 ("missing operand after " ++ quoted only)
    | first :: _ => misuse name 1 ("invalid mode: " ++ quoted first)
  | some mode =>
    if paths.isEmpty then misuse name 1 ("missing operand after " ++ quoted mode)
    forEach name paths fun m p =>
      let files := m.world.files
      let wrong (kind : OsErrorKind) : Outcome :=
        .failed files ("cannot access " ++ quoted p ++ ": " ++ kind.text)
      match spotAt m true p with
      | .ok ⟨n :: dir, some (.file content before)⟩ =>
        .done (files.place n dir (.file content ((applyMode? mode before).getD before)))
      | .ok ⟨_, some _⟩ => .done files
      | .ok ⟨_, none⟩ => wrong .noEntry
      | .error kind => wrong kind

/-! ### Lists -/

/-- A name as it is listed, with a sign for its kind if that is asked for. -/
def listed (found : List (Char × Raw)) (name : Raw) (e : Option Entry) : Raw :=
  match e with
  | some .dir => if has found 'F' || has found 'p' then name ++ ['/'] else name
  | some (.link _) => if has found 'F' then name ++ ['@'] else name
  | some (.file _ true) => if has found 'F' then name ++ ['*'] else name
  | _ => name

/-- The list of one directory, and of those below it if that is asked for; the number bounds how
deep they stand in each other. -/
def listDir (found : List (Char × Raw)) (files : Files) (cwd : Location) :
    Nat → Bool → Raw → List Raw
  | 0, _, _ => []
  | n + 1, isTitled, p =>
    match files.locateText cwd true p.toText with
    | .ok ⟨l, some .dir⟩ =>
      let names := (namesIn files l).filter fun s =>
        has found 'a' || has found 'A' || s.head? ≠ some '.'
      let dots := if has found 'a' then [['.'], ['.', '.']] else []
      let ordered := if has found 'r' then names.reverse ++ dots.reverse else dots ++ names
      let entryOf (s : Raw) : Option Entry :=
        match files.locateText cwd (has found 'L') (inDirectory p s).toText with
        | .ok ⟨_, e⟩ => e
        | .error _ => none
      let lines := ordered.map fun s => listed found s (entryOf s) ++ ['\n']
      let title := if isTitled || has found 'R' then p ++ [':', '\n'] else []
      let deeper := if has found 'R' then
          (ordered.filter fun s => !dots.contains s && entryOf s = some .dir).flatMap fun s =>
            listDir found files cwd n true (inDirectory p s)
        else []
      (title ++ lines.flatten) :: deeper
    | _ => []

def runList (name : Raw) (arguments : List Raw) : Action Unit := do
  let spec : OptionSpec := ⟨"1aAdrFpRLUBqNt", "",
    [("all", 'a'), ("almost-all", 'A'), ("directory", 'd'), ("reverse", 'r'), ("recursive", 'R'),
      ("classify", 'F'), ("dereference", 'L')]⟩
  let (found, paths) ← spec.read name 2 arguments
  let m ← get
  let isMany := 1 < paths.length
  let paths := if paths.isEmpty then [['.']] else paths.mergeSort fun a b => !decide (b < a)
  let paths := if has found 'r' then paths.reverse else paths
  let mut status := 0
  let mut plain : List Raw := []
  let mut dirs : List Raw := []
  for p in paths do
    let follows := !has found 'd' && !has found 'F'
    match spotAt m (follows || has found 'L') p, spotAt m (has found 'L') p with
    | .ok ⟨_, some .dir⟩, _ =>
      if has found 'd' then plain := plain ++ [listed found p (some .dir)]
      else dirs := dirs ++ [p]
    | .ok ⟨_, some e⟩, _ | _, .ok ⟨_, some e⟩ => plain := plain ++ [listed found p (some e)]
    | .error kind, _ =>
      tell name ("cannot access " ++ quoted p ++ ": " ++ kind.text)
      status := 2
    | .ok ⟨_, none⟩, _ =>
      tell name ("cannot access " ++ quoted p ++ ": " ++ OsErrorKind.noEntry.text)
      status := 2
  let blocks := dirs.flatMap (listDir found m.world.files m.location 1000 isMany)
  let first := if plain.isEmpty then [] else [(plain.map (· ++ ['\n'])).flatten]
  say (Raw.join ['\n'] (first ++ blocks))
  setStatus status

end TestImpact.Child.Utility
