import TestImpact.Child.Shell.Arithmetic
import TestImpact.Child.Utility.FileTools

/-!
# Programs for text

Programs that read files, or the standard input, and print them or what they make of them. Lines end
with a line end; the last one may lack it.
-/

namespace TestImpact.Child.Utility

open Shell (digitsOf natural?)

/-! ### Input -/

/-- The text of a file, or of the standard input for a dash; otherwise why it cannot be read. -/
def inputOf (p : Raw) : Action (Except String Raw) := do
  let m ← get
  match if p = ['-'] then some 0 else descriptorOfPath? p with
  | some descriptor =>
    match ← readAll? descriptor with
    | some text => return .ok text
    | none => return .error "Bad file descriptor"
  | none =>
    match spotAt m true p with
    | .ok ⟨_, some (.file content _)⟩ => return .ok (Raw.ofBytes content)
    | .ok ⟨_, some _⟩ => return .error OsErrorKind.isDirectory.text
    | .ok ⟨_, none⟩ => return .error OsErrorKind.noEntry.text
    | .error kind => return .error kind.text

/-- Reads each of some files, tells about those that cannot be read, and hands the others on. -/
def forInputs (name : Raw) (lead : String) (paths : List Raw) (use : Raw → Raw → Action Unit) :
    Action Unit := do
  let mut failed := false
  for p in if paths.isEmpty then [['-']] else paths do
    match ← inputOf p with
    | .ok text => use p text
    | .error why =>
      let shown := if lead.isEmpty then String.ofList p else quoted p
      tell name (lead ++ shown ++ ": " ++ why)
      failed := true
  setStatusIf !failed

/-- All input in one text, for programs that end if a part of it cannot be read. -/
def wholeInput (name : Raw) (status : Nat) (lead : String) (paths : List Raw) : Action Raw := do
  let mut text : Raw := []
  for p in if paths.isEmpty then [['-']] else paths do
    match ← inputOf p with
    | .ok more => text := text ++ more
    | .error why => failWith name status (lead ++ String.ofList p ++ ": " ++ why)
  return text

/-- The lines of a text without their ends. -/
def bareLines (text : Raw) : List Raw := (Raw.lines text).map Raw.dropLineEnds

def unlines (lines : List Raw) : Raw := (lines.map (· ++ ['\n'])).flatten

/-! ### Printing files -/

/-- A character as it is made visible. -/
def visible (c : Char) : Raw :=
  let low (n : Nat) : Raw :=
    if n < 32 then ['^', Char.ofNat (n + 64)] else if n = 127 then ['^', '?'] else [Char.ofNat n]
  let n := c.toNat
  if 128 ≤ n then 'M' :: '-' :: low (n - 128) else low n

/-- A line as `cat` shows it, and whether it has a number. -/
def shownLine (found : List (Char × Raw)) (line : Raw) : Raw × Bool :=
  let showsAll := has found 'A' || has found 'v' || has found 'e' || has found 't'
  let showsTabs := has found 'A' || has found 'T' || has found 't'
  let showsEnds := has found 'A' || has found 'E' || has found 'e'
  let text := line.flatMap fun c =>
    if c = '\n' then if showsEnds then ['$', '\n'] else ['\n']
    else if c = '\t' then if showsTabs then ['^', 'I'] else ['\t']
    else if showsAll then visible c else [c]
  (text, if has found 'b' then line ≠ ['\n'] else has found 'n')

/-- Lines without the empty ones that follow an empty one. -/
def squeezeEmpty : List Raw → List Raw
  | ['\n'] :: ['\n'] :: rest => squeezeEmpty (['\n'] :: rest)
  | line :: rest => line :: squeezeEmpty rest
  | [] => []

/-- Whether a path leads to the file that the output goes to. -/
def isOutput (p : Raw) : Action Bool := do
  let m ← get
  match ← opened? 1, spotAt m true p with
  | some (_, .file h ..), .ok ⟨l, some (.file ..)⟩ => return m.world.files.whereabouts h = some l
  | _, _ => return false

/-- Prints files at once, so that errors stand where they come up. -/
def runCat (name : Raw) (arguments : List Raw) : Action Unit := do
  let spec : OptionSpec := ⟨"nubseAvtET", "",
    [("number", 'n'), ("number-nonblank", 'b'), ("squeeze-blank", 's'), ("show-all", 'A'),
      ("show-ends", 'E'), ("show-tabs", 'T'), ("show-nonprinting", 'v')]⟩
  let (found, paths) ← spec.read name 1 arguments
  let mut number := 1
  let mut failed := false
  for p in if paths.isEmpty then [['-']] else paths do
    match ← inputOf p with
    | .error why =>
      tell name (String.ofList p ++ ": " ++ why)
      failed := true
    | .ok text =>
      if p ≠ ['-'] && !text.isEmpty && (← isOutput p) then
        tell name (String.ofList p ++ ": input file is output file")
        failed := true
      else if found.all (·.1 = 'u') then
        if !(← writeTo 1 text) then
          tell name "write error: Bad file descriptor"
          failed := true
      else
        for line in if has found 's' then squeezeEmpty (Raw.lines text) else Raw.lines text do
          let (shown, isNumbered) := shownLine found line
          let digits := digitsOf number
          let lead := if isNumbered then
              List.replicate (6 - digits.length) ' ' ++ digits ++ ['\t']
            else []
          if isNumbered then number := number + 1
          say (lead ++ shown)
  if (paths.isEmpty || paths.contains ['-']) && (← opened? 0).isNone then
    tell name "closing standard input: Bad file descriptor"
  setStatusIf !failed

/-- A number of lines or characters; with a sign in front it counts from the other end. -/
def readCount? (signs : Raw) (s : Raw) : Option (Option Char × Nat) :=
  match s with
  | c :: rest =>
    if signs.contains c then (natural? rest).map (some c, ·)
    else (natural? s).map (none, ·)
  | [] => none

/-- Arguments with a number behind one of some signs written as a number of lines. -/
def withLineCount (signs : Raw) (arguments : List Raw) : List Raw :=
  match arguments with
  | (sign :: digits) :: rest =>
    if signs.contains sign && !digits.isEmpty && digits.all Char.isDigit then
      ['-', 'n'] :: (if sign = '+' then sign :: digits else digits) :: rest
    else arguments
  | _ => arguments

/-- The parts of a text that `head` and `tail` cut: its lines, or its characters. -/
def partsOf (byChar : Bool) (text : Raw) : List Raw :=
  if byChar then text.map ([·]) else Raw.lines text

/-- Prints a part of each file, under its name if there are several. -/
def runPart (name : Raw) (signs : Raw) (cut : Option Char → Nat → List Raw → List Raw)
    (arguments : List Raw) : Action Unit := do
  let spec : OptionSpec := ⟨"qvfFz", "nc", [("lines", 'n'), ("bytes", 'c')]⟩
  let (found, paths) ← spec.read name 1 (withLineCount ('-' :: signs) arguments)
  let byChar := (found.reverse.find? fun o => o.1 = 'n' || o.1 = 'c').any (·.1 = 'c')
  let written := (valueOf? found (if byChar then 'c' else 'n')).getD "10".toList
  match readCount? signs written with
  | none =>
    failWith name 1 ("invalid number of " ++ (if byChar then "bytes" else "lines") ++ ": " ++
      quoted written)
  | some (sign, n) =>
    let mut failed := false
    let mut isFirst := true
    for p in if paths.isEmpty then [['-']] else paths do
      match ← inputOf p with
      | .error why =>
        let lead := if why = OsErrorKind.isDirectory.text then "error reading " else
          "cannot open " ++ quoted p ++ " for reading: "
        tell name (if why = OsErrorKind.isDirectory.text then lead ++ quoted p ++ ": " ++ why
          else lead ++ why)
        failed := true
      | .ok text =>
        if (paths.length > 1 && !has found 'q') || has found 'v' then
          let title := if p = ['-'] then "standard input".toList else p
          say ((if isFirst then [] else ['\n']) ++ "==> ".toList ++ title ++ " <==\n".toList)
        isFirst := false
        say (cut sign n (partsOf byChar text)).flatten
    setStatusIf !failed

def runHead (name : Raw) (arguments : List Raw) : Action Unit :=
  runPart name ['-'] (fun sign n l => if sign.isSome then l.take (l.length - n) else l.take n)
    arguments

def runTail (name : Raw) (arguments : List Raw) : Action Unit :=
  runPart name ['-', '+'] (fun sign n l =>
    if sign = some '+' then l.drop (n - 1) else l.drop (l.length - n)) arguments

/-- Passes the input on, and into files. -/
def runTee (name : Raw) (arguments : List Raw) : Action Unit := do
  let (found, paths) ← (⟨"aip", "", [("append", 'a')]⟩ : OptionSpec).read name 1 arguments
  let text := (← readAll? 0).getD []
  let mut failed := false
  if !(← writeTo 1 text) then failed := true
  for p in paths do
    match ← openFile (if has found 'a' then .append else .write) true p with
    | .ok o =>
      let descriptors := (← get).descriptors
      openAs 3 o
      let _ ← writeTo 3 text
      modify fun m => { m with descriptors }
    | .error kind =>
      tell name (String.ofList p ++ ": " ++ kind.text)
      failed := true
  setStatusIf !failed

/-! ### Counting -/

/-- Whether the size of what is read is known before. -/
def isSized (p : Raw) : Action Bool := do
  if p ≠ ['-'] then return true
  match ← opened? 0 with
  | some (_, .file ..) => return true
  | _ => return false

def countWords (text : Raw) : Nat :=
  let isSpace (c : Char) : Bool := c = ' ' || (9 ≤ c.toNat && c.toNat ≤ 13)
  (text.foldl (fun (n, inWord) c =>
    if isSpace c then (n, false) else (if inWord then n else n + 1, true)) (0, false)).1

/-- How many columns a line takes. -/
def widthOf (line : Raw) : Nat :=
  line.foldl (fun n c =>
    if c = '\t' then (n / 8 + 1) * 8 else if 32 ≤ c.toNat && c.toNat < 127 then n + 1 else n) 0

def runCount (name : Raw) (arguments : List Raw) : Action Unit := do
  let (found, paths) ← (⟨"lwcmL", "", []⟩ : OptionSpec).read name 1 arguments
  let isAll := found.isEmpty
  let sources := if paths.isEmpty then [['-']] else paths
  let mut sized := true
  for p in sources do
    if !(← isSized p) then sized := false
  let counts (text : Raw) : List Nat :=
    (if isAll || has found 'l' then [text.count '\n'] else []) ++
      (if isAll || has found 'w' then [countWords text] else []) ++
      (if has found 'm' then [text.length] else []) ++
      (if isAll || has found 'c' then [text.length] else []) ++
      (if has found 'L' then [((bareLines text).map widthOf).foldl max 0] else [])
  let mut rows : List (List Nat × Raw × Nat) := []
  let mut failed := false
  for p in sources do
    match ← inputOf p with
    | .ok text => rows := rows ++ [(counts text, if paths.isEmpty then [] else p, text.length)]
    | .error why =>
      tell name (String.ofList p ++ ": " ++ why)
      failed := true
      if why = OsErrorKind.isDirectory.text then rows := rows ++ [(counts [], p, 0)]
  let isLongest (n : Nat) : Bool := has found 'L' && n + 1 = (counts []).length
  let total := (rows.map (·.1)).foldl (fun a b =>
    (a.zip b).zipIdx.map fun ((x, y), n) => if isLongest n then max x y else x + y) (counts [])
  let columns := (counts []).length
  let size := (rows.map (·.2.2)).foldl (· + ·) 0
  let width := if sources.length = 1 && columns = 1 then 1
    else if sized then (digitsOf size).length else 7
  let show_ (ns : List Nat) (p : Raw) : Raw :=
    let shown := ns.map fun n =>
      let digits := digitsOf n
      List.replicate (width - digits.length) ' ' ++ digits
    Raw.join [' '] (shown ++ (if p.isEmpty then [] else [p])) ++ ['\n']
  for (ns, p, _) in rows do say (show_ ns p)
  if sources.length > 1 then say (show_ total "total".toList)
  setStatusIf !failed

end TestImpact.Child.Utility
