import TestImpact.Child.Utility.TextTools

/-!
# Programs that order and compare lines

`sort` puts lines in order, by keys if there are some; `uniq` tells runs of equal lines; `cmp` finds
where two files differ.
-/

namespace TestImpact.Child.Utility

open Shell (digitsOf natural?)

/-! ### Keys -/

/-- A place in a line: the number of a field, and of a character in it. -/
structure KeyPlace where
  field : Nat
  char : Nat
  deriving DecidableEq, Repr, Inhabited

/-- What lines are ordered by: a part of them, and how it is looked at. Without a last place it goes
to the end of the line. -/
structure SortKey where
  first : KeyPlace
  last : Option KeyPlace
  flags : List Char
  deriving DecidableEq, Repr, Inhabited

/-- A written place, the letters behind it, and what follows them. -/
def readKeyPlace? (s : Raw) : Option (KeyPlace × List Char × Raw) := do
  let digits := s.takeWhile Char.isDigit
  let field ← natural? digits
  let (char, rest) ←
    match s.drop digits.length with
    | '.' :: r =>
      let digits := r.takeWhile Char.isDigit
      (natural? digits).map fun n => (n, r.drop digits.length)
    | r => some (0, r)
  let letters := rest.takeWhile "bdfinr".toList.contains
  if field = 0 then none else some (⟨field, char⟩, letters, rest.drop letters.length)

def readSortKey? (s : Raw) : Option SortKey := do
  let (first, letters, rest) ← readKeyPlace? s
  match rest with
  | [] => some ⟨first, none, letters⟩
  | ',' :: r =>
    let (last, more, rest) ← readKeyPlace? r
    if rest.isEmpty then some ⟨first, some last, letters ++ more⟩ else none
  | _ => none

def isLineGap (c : Char) : Bool := c = ' ' || c = '\t'

/-- A line without its first fields. A separator between fields is left out; without one, a field
starts with its gaps. -/
def dropFields (sep : Option Char) : Nat → Raw → Raw
  | 0, s => s
  | n + 1, s =>
    match sep with
    | some c => dropFields sep n ((s.dropWhile (· ≠ c)).drop 1)
    | none => dropFields sep n ((s.dropWhile isLineGap).dropWhile (!isLineGap ·))

/-- What a line has from the start of a key on. -/
def fromKey (sep : Option Char) (k : SortKey) (line : Raw) : Raw :=
  let s := dropFields sep (k.first.field - 1) line
  (if k.flags.contains 'b' then s.dropWhile isLineGap else s).drop (k.first.char - 1)

/-- What a line has behind the end of a key. -/
def behindKey (sep : Option Char) (last : KeyPlace) (line : Raw) : Raw :=
  if last.char = 0 then
    let s := dropFields sep (last.field - 1) line
    match sep with
    | some c => s.dropWhile (· ≠ c)
    | none => (s.dropWhile isLineGap).dropWhile (!isLineGap ·)
  else (dropFields sep (last.field - 1) line).drop last.char

/-- The part of a line that a key stands for. -/
def keyText (sep : Option Char) (k : SortKey) (line : Raw) : Raw :=
  let s := fromKey sep k line
  let behind := k.last.elim 0 fun last => (behindKey sep last line).length
  s.take (s.length - behind)

/-- The number at the start of a line: its digits and how many of them stand behind the point. -/
def leadingNumber (s : Raw) : Int × Nat :=
  let s := s.dropWhile fun c => c = ' ' || c = '\t'
  let (isNegative, s) := if s.head? = some '-' then (true, s.tail) else (false, s)
  let whole := s.takeWhile Char.isDigit
  let fraction :=
    match s.drop whole.length with
    | '.' :: t => t.takeWhile Char.isDigit
    | _ => []
  let n : Int := Text.natOfDigits (whole ++ fraction)
  (if isNegative then -n else n, fraction.length)

/-- How two texts stand to each other under flags: numbers by their size, and text by its
characters, with or without those that are no letters, digits or gaps. -/
def compareBy (flags : List Char) (a b : Raw) : Ordering :=
  let o :=
    if flags.contains 'n' then
      let (n, p) := leadingNumber a
      let (m, q) := leadingNumber b
      let x := n * Nat.pow 10 q
      let y := m * Nat.pow 10 p
      if x < y then .lt else if y < x then .gt else .eq
    else
      let seen (s : Raw) : Raw :=
        let s := if flags.contains 'd' then s.filter fun c => c.isAlphanum || isLineGap c else s
        if flags.contains 'f' then s.map Char.toUpper else s
      let (a, b) := (seen a, seen b)
      if a < b then .lt else if b < a then .gt else .eq
  if flags.contains 'r' then o.swap else o

/-- How lines are put in order. -/
structure SortRule where
  sep : Option Char
  keys : List SortKey
  flags : List Char
  isStable : Bool

namespace SortRule

/-- How two lines stand to each other by the keys alone. -/
def byKeys (r : SortRule) (a b : Raw) : Ordering :=
  let keys := if r.keys.isEmpty then [⟨⟨1, 0⟩, none, []⟩] else r.keys
  keys.foldl (fun o k =>
    let k := if k.flags.isEmpty then { k with flags := r.flags } else k
    o.then (compareBy k.flags (keyText r.sep k a) (keyText r.sep k b))) .eq

/-- How two lines stand to each other; at last, whole lines decide. -/
def compare (r : SortRule) (a b : Raw) : Ordering :=
  let o := r.byKeys a b
  if r.isStable then o else o.then (compareBy (r.flags.filter (· = 'r')) a b)

end SortRule

/-! ### Programs -/

/-- Lines of several texts, each time the least that comes next; the number bounds the lines. -/
def mergeLines (r : SortRule) : Nat → List (List Raw) → List Raw
  | 0, _ => []
  | n + 1, texts =>
    let heads := texts.filterMap List.head?
    match heads with
    | [] => []
    | first :: others =>
      let least := others.foldl (fun a b => if r.compare b a = .lt then b else a) first
      let place := texts.findIdx fun t => t.head? = some least
      least :: mergeLines r n (texts.modify place List.tail)

/-- Writes lines to a file in place of what it held. -/
def writeLinesTo (name : Raw) (status : Nat) (lead : String) (p : Raw) (lines : List Raw) :
    Action Unit := do
  let m ← get
  match m.world.files.write m.location (.ofText p.toText) (Raw.toBytes (unlines lines)) with
  | .ok files => setFiles files
  | .error f => failWith name status (lead ++ String.ofList p ++ ": " ++ (kindOf f).text)

def runSort (name : Raw) (arguments : List Raw) : Action Unit := do
  let spec : OptionSpec := ⟨"nrubfsdicCmz", "okt",
    [("reverse", 'r'), ("numeric-sort", 'n'), ("unique", 'u'), ("key", 'k'),
      ("field-separator", 't'), ("output", 'o'), ("check", 'c'), ("merge", 'm'), ("stable", 's'),
      ("ignore-case", 'f')]⟩
  let (found, paths) ← spec.read name 2 arguments
  let sep ←
    match valueOf? found 't' with
    | none => pure none
    | some [] => failWith name 2 "empty tab"
    | some [c] => pure (some c)
    | some s =>
      if s = ['\\', '0'] then pure (some '\x00')
      else failWith name 2 ("multi-character tab " ++ quoted s)
  let written := (found.filter (·.1 = 'k')).map (·.2)
  let keys ←
    match written.mapM readSortKey? with
    | some keys => pure keys
    | none =>
      let bad := (written.find? fun s => (readSortKey? s).isNone).getD []
      failWith name 2 ("-: invalid field specification " ++ quoted bad)
  let flags := (found.map (·.1)).filter "bdfinr".toList.contains
  let rule : SortRule := ⟨sep, keys, flags, has found 's' || has found 'u'⟩
  if has found 'c' || has found 'C' then
    let lines := bareLines (← wholeInput name 2 "cannot read: " paths)
    let isWrong (pair : Raw × Raw) : Bool :=
      let o := rule.compare pair.1 pair.2
      o = .gt || (has found 'u' && o = .eq)
    match (lines.zip (lines.drop 1)).findIdx? isWrong with
    | none => setStatus 0
    | some n =>
      if has found 'c' then
        let title := String.ofList (paths.headD ['-'])
        tell name (title ++ ":" ++ toString (n + 2) ++ ": disorder: " ++
          String.ofList (lines[n + 1]?.getD []))
      setStatus 1
  else
    let sorted ←
      if has found 'm' then
        let mut texts : List (List Raw) := []
        for p in if paths.isEmpty then [['-']] else paths do
          texts := texts ++ [bareLines (← wholeInput name 2 "cannot read: " [p])]
        pure (mergeLines rule ((texts.map List.length).foldl (· + ·) 0) texts)
      else
        let text ← wholeInput name 2 "cannot read: " paths
        pure ((bareLines text).mergeSort fun a b => rule.compare a b ≠ .gt)
    let kept := if has found 'u' then
        (sorted.foldl (fun l s => if l.head?.any (rule.byKeys · s = .eq) then l else s :: l)
          []).reverse
      else sorted
    match valueOf? found 'o' with
    | none => say (unlines kept)
    | some p => writeLinesTo name 2 "open failed: " p kept
    setStatus 0

/-- Runs of lines that are equal in some way, each with its first line and its length. -/
def runsOf (seen : Raw → Raw) (lines : List Raw) : List (Raw × Nat) :=
  lines.foldr (fun s runs =>
    match runs with
    | (t, n) :: rest => if seen s = seen t then (s, n + 1) :: rest else (s, 1) :: runs
    | [] => [(s, 1)]) []

def runUnique (name : Raw) (arguments : List Raw) : Action Unit := do
  let spec : OptionSpec := ⟨"cduizD", "fsw",
    [("count", 'c'), ("repeated", 'd'), ("unique", 'u'), ("ignore-case", 'i'),
      ("skip-fields", 'f'), ("skip-chars", 's'), ("check-chars", 'w')]⟩
  let (found, paths) ← spec.read name 1 arguments
  checkOperands name 0 (some 2) paths
  let number (c : Char) (what : String) : Action (Option Nat) := do
    match valueOf? found c with
    | none => return none
    | some s =>
      match natural? s with
      | some n => return some n
      | none => failWith name 1 (String.ofList s ++ ": invalid number of " ++ what)
  let fields := (← number 'f' "fields to skip").getD 0
  let chars := (← number 's' "bytes to skip").getD 0
  let most ← number 'w' "bytes to compare"
  let seen (s : Raw) : Raw :=
    let s := (dropFields none fields s).drop chars
    let s := most.elim s s.take
    if has found 'i' then s.map Char.toUpper else s
  let text ← wholeInput name 1 "" (paths.take 1)
  let runs := (runsOf seen (bareLines text)).filter fun (_, n) =>
    (!has found 'd' || 1 < n) && (!has found 'u' || n = 1)
  let shown := runs.map fun (s, n) =>
    let digits := digitsOf n
    if has found 'c' then List.replicate (7 - digits.length) ' ' ++ digits ++ ' ' :: s else s
  match paths[1]?.filter (· ≠ ['-']) with
  | none => say (unlines shown)
  | some p => writeLinesTo name 1 "" p shown
  setStatus 0

/-- Compares two files. -/
def runCompare (name : Raw) (arguments : List Raw) : Action Unit := do
  let (found, paths) ← (⟨"slb", "", []⟩ : OptionSpec).read name 2 arguments
  match paths with
  | [] => misuse name 2 "missing operand after 'cmp'"
  | first :: rest =>
    let second := rest.headD ['-']
    match ← inputOf first, ← inputOf second with
    | .ok a, .ok b =>
      let same := ((a.zip b).takeWhile fun (x, y) => x = y).length
      let line := (a.take same).count '\n' + 1
      if same = a.length && same = b.length then setStatus 0
      else do
        if !has found 's' then
          if same = a.length || same = b.length then
            let short := if same = a.length then first else second
            tell name ("EOF on " ++ quoted short ++ " after byte " ++ toString same)
          else
            say (first ++ ' ' :: second ++ " differ: byte ".toList ++ digitsOf (same + 1) ++
              ", line ".toList ++ digitsOf line ++ ['\n'])
        setStatus 1
    | .error why, _ => failWith name 2 (String.ofList first ++ ": " ++ why)
    | _, .error why => failWith name 2 (String.ofList second ++ ": " ++ why)

end TestImpact.Child.Utility
