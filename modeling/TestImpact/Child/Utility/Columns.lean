import TestImpact.Child.Shell.Matching
import TestImpact.Child.Utility.Printing
import TestImpact.Child.Utility.TextTools

/-!
# Programs for columns and characters

`cut` takes characters or fields out of each line, and `tr` changes characters into others.
-/

namespace TestImpact.Child.Utility

open Shell (PatternItem natural?)

/-! ### Columns -/

/-- Why a list of columns is wrong. -/
inductive ColumnsDefect where
  | zero
  | decreasing
  | notNumber
  deriving DecidableEq, Repr, Inhabited

/-- A list of numbers and ranges. -/
def readRanges (s : Raw) : Except ColumnsDefect (List (Nat × Option Nat)) :=
  (Text.splitOn ',' s).mapM fun part => do
    let number (digits : Raw) : Except ColumnsDefect Nat :=
      (natural? digits).elim (.error .notNumber) .ok
    let (low, high) ←
      match Text.cut? '-' part with
      | none => (number part).map fun n => (n, some n)
      | some ([], []) => .error .notNumber
      | some ([], high) => (number high).map fun n => (1, some n)
      | some (low, []) => (number low).map fun n => (n, none)
      | some (low, high) => do pure (← number low, some (← number high))
    if low = 0 || high = some 0 then throw .zero
    if high.any (· < low) then throw .decreasing
    return (low, high)

def inRanges (ranges : List (Nat × Option Nat)) (n : Nat) : Bool :=
  ranges.any fun (low, high) => low ≤ n && high.all (n ≤ ·)

def runCut (name : Raw) (arguments : List Raw) : Action Unit := do
  let spec : OptionSpec := ⟨"snv", "dfcbo",
    [("delimiter", 'd'), ("fields", 'f'), ("characters", 'c'), ("bytes", 'b'),
      ("only-delimited", 's'), ("complement", 'v'), ("output-delimiter", 'o')]⟩
  let (found, paths) ← spec.read name 1 arguments
  let isList (o : Char × Raw) : Bool := "fcb".toList.contains o.1
  match found.filter isList with
  | [] => misuse name 1 "you must specify a list of bytes, characters, or fields"
  | _ :: _ :: _ => misuse name 1 "only one list may be specified"
  | [(kind, written)] =>
    if (valueOf? found 'd').any (1 < ·.length) then
      misuse name 1 "the delimiter must be a single character"
    if kind ≠ 'f' && has found 'd' then
      misuse name 1 "an input delimiter may be specified only when operating on fields"
    if kind ≠ 'f' && has found 's' then
      misuse name 1
        "suppressing non-delimited lines makes sense\n\tonly when operating on fields"
    match readRanges written with
    | .error .zero =>
      misuse name 1 (if kind = 'f' then "fields are numbered from 1"
        else "byte/character positions are numbered from 1")
    | .error .decreasing => misuse name 1 "invalid decreasing range"
    | .error .notNumber =>
      misuse name 1 ((if kind = 'f' then "invalid field value "
        else "invalid byte/character position ") ++ quoted written)
    | .ok ranges =>
      let sep := ((valueOf? found 'd').map fun s => s.headD '\x00').getD '\t'
      let joint := (valueOf? found 'o').getD [sep]
      let pick {α : Type} (l : List α) : List α :=
        ((l.zipIdx 1).filter fun (_, n) => inRanges ranges n != has found 'v').map (·.1)
      forInputs name "" paths fun _ text => do
        for line in bareLines text do
          if kind = 'f' then
            if line.contains sep then
              say (Raw.join joint (pick (Text.splitOn sep line)) ++ ['\n'])
            else if !has found 's' then say (line ++ ['\n'])
          else say (pick line ++ ['\n'])

/-! ### Characters -/

/-- The kinds of characters that have names in sets. -/
def characterKinds : List (String × (Char → Bool)) := PatternItem.kinds

/-- The first character of a set, which may be written with a backslash, and what follows it. -/
def readMember : Raw → Char × Raw
  | '\\' :: r => Printing.readEscape r
  | c :: r => (c, r)
  | [] => ('\\', [])

/-- The characters of a set: ranges, escapes and named kinds stand for several. A range whose ends
stand the wrong way round is an error. The number bounds the length of the text. -/
def readMembers : Nat → Raw → Except String (List Char)
  | 0, _ => .ok []
  | _ + 1, [] => .ok []
  | n + 1, s =>
    let kind? := characterKinds.findSome? fun (name, accepts) =>
      (Text.dropLead? ("[:" ++ name ++ ":]").toList s).map fun rest => (accepts, rest)
    match kind? with
    | some (accepts, rest) => do
      let more ← readMembers n rest
      return (((List.range 256).map Char.ofNat).filter accepts) ++ more
    | none =>
      let (c, rest) := readMember s
      match rest with
      | '-' :: d :: r => do
        let (d, after) := readMember (d :: r)
        let shown := String.ofList (s.take (s.length - after.length))
        if d < c then
          .error ("range-endpoints of '" ++ shown ++ "' are in reverse collating sequence order")
        else
          let more ← readMembers n after
          return ((List.range' c.toNat (d.toNat + 1 - c.toNat)).map Char.ofNat) ++ more
      | rest => do return c :: (← readMembers n rest)

def runTranslate (name : Raw) (arguments : List Raw) : Action Unit := do
  let spec : OptionSpec := ⟨"cCdst", "",
    [("complement", 'c'), ("delete", 'd'), ("squeeze-repeats", 's'), ("truncate-set1", 't')]⟩
  let (found, sets) ← spec.read name 1 arguments
  let isDeleting := has found 'd'
  let squeezes := has found 's'
  let least := if isDeleting == squeezes then 2 else 1
  let most := if isDeleting && !squeezes then 1 else 2
  match sets.getLast? with
  | none => misuse name 1 "missing operand"
  | some last =>
    if sets.length < least then
      misuse name 1 ("missing operand after " ++ quoted last ++ if squeezes then
        "\nTwo strings must be given when both deleting and squeezing repeats."
        else "\nTwo strings must be given when translating.")
  match sets[most]? with
  | some extra =>
    misuse name 1 ("extra operand " ++ quoted extra ++ if sets.length = 2 then
      "\nOnly one string may be given when deleting without squeezing repeats." else "")
  | none => pure ()
  let expand (s : Raw) : Action (List Char) := do
    match readMembers (s.length + 1) s with
    | .ok members => return members
    | .error text => failWith name 1 text
  let listed ← expand (sets.headD [])
  let second ← expand (sets[1]?.getD [])
  let isTranslating := sets.length = 2 && !isDeleting
  if isTranslating && second.isEmpty && !has found 't' && !listed.isEmpty then
    failWith name 1 "when not truncating set1, string2 must be non-empty"
  let isComplement := has found 'c' || has found 'C'
  let first := if isComplement then
      ((List.range 256).map Char.ofNat).filter (!listed.contains ·)
    else listed
  let first := if has found 't' && isTranslating then first.take second.length else first
  let change (c : Char) : Char :=
    if !isTranslating || !first.contains c then c
    else
      let place := (first.length - 1) - first.reverse.idxOf c
      second[place]?.getD (second.getLast?.getD c)
  let squeezed := if sets.length = 2 then second else first
  let text := (← readAll? 0).getD []
  let kept := if isDeleting then text.filter (!first.contains ·) else text.map change
  let shown := kept.foldr (fun c l =>
    if squeezes && squeezed.contains c && l.head? = some c then l else c :: l) []
  say shown
  setStatus 0

end TestImpact.Child.Utility
