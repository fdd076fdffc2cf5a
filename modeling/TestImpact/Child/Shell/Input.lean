import TestImpact.Child.Utility.Options

/-!
# Lines and options for scripts

`read` splits a line of the input into variables, of which the last one takes what is left.
`getopts` gives one option of the arguments after the other.
-/

namespace TestImpact.Child.Shell

/-! ### Reading lines -/

/-- A line being split into a number of fields, as far as it was read. -/
structure LineSplit where
  fields : List Raw
  /-- The field that was started, in reverse. -/
  current : Raw
  /-- The number of fields that are left; with none the last one takes all. -/
  left : Nat
  /-- Whether a gap goes on. -/
  inGap : Bool
  /-- How long the last field is without the separators at its end. -/
  cut : Option Nat

namespace LineSplit

/-- Takes one more character; an escaped one is no separator. -/
def add (separators : Raw) (s : LineSplit) (c : Char) (escaped : Bool) : LineSplit :=
  let isSeparator := !escaped && separators.contains c
  let isBlank := isSeparator && " \t\n".toList.contains c
  let taken := { s with current := c :: s.current }
  if escaped then { taken with inGap := false }
  else if s.left = 0 then
    if isBlank then { taken with cut := some (s.cut.getD s.current.length) }
    else
      { taken with
        cut := if isSeparator && s.inGap then s.cut else none
        inGap := false }
  else if s.inGap && isBlank then { s with current := [] }
  else if s.inGap && isSeparator then { s with current := [], inGap := false }
  else if isSeparator then
    if isBlank && s.current.isEmpty then { s with inGap := false }
    else if s.left = 1 then
      { taken with left := 0, inGap := isBlank, cut := some s.current.length }
    else
      { s with
        fields := s.current.reverse :: s.fields
        current := []
        left := s.left - 1
        inGap := isBlank }
  else { taken with inGap := false }

/-- The fields of the line. -/
def finish (s : LineSplit) : List Raw :=
  let last := s.current.reverse.take (s.cut.getD s.current.length)
  (if last.isEmpty then s.fields else last :: s.fields).reverse

end LineSplit

/-- A line as its characters, each with whether it was escaped; how much of the input it is, and
whether it ends with a line end. -/
def readRawLine (isRaw : Bool) : Raw → List (Char × Bool) × Nat × Bool
  | [] => ([], 0, false)
  | '\n' :: _ => ([], 1, true)
  | '\\' :: r =>
    if isRaw then
      let (line, n, ends) := readRawLine isRaw r
      (('\\', false) :: line, n + 1, ends)
    else
      match r with
      | [] => ([], 1, false)
      | c :: r =>
        let (line, n, ends) := readRawLine isRaw r
        (if c = '\n' then line else (c, true) :: line, n + 2, ends)
  | c :: r =>
    let (line, n, ends) := readRawLine isRaw r
    (if c = '\x00' then line else (c, false) :: line, n + 1, ends)

/-- Reads a line into variables. -/
def runRead (arguments : List Raw) : Action Unit := do
  let (found, names) ← Options.read "r" "p" arguments
  if names.isEmpty then fault "arg count".toList
  let isRaw := found.any (·.1 = 'r')
  let (early, _) := (← unread? 0).getD ([], fun _ => pure ())
  if !(readRawLine isRaw early).2.2 then awaitEnd 0
  let (text, skip) := (← unread? 0).getD ([], fun _ => pure ())
  let (line, length, ends) := readRawLine isRaw text
  skip length
  let m ← get
  let start : LineSplit := ⟨[], [], names.length, false, none⟩
  let s := line.foldl (fun s (c, escaped) => s.add (separators m) c escaped) start
  let fields := s.finish
  for (name, k) in names.zipIdx do
    if !isName name then fault (name ++ ": bad variable name".toList)
    assign name (fields[k]?.getD [])
  setStatusIf ends

/-! ### Reading options -/

/-- What comes of looking for an option: the letter that is given to the script, whether an option
was found, the value of the option if it changes, and where to go on. -/
structure FoundOption where
  letter : Char
  isFound : Bool
  value : Option (Option Raw)
  next : Nat
  place : Option Nat
  complaint : Option Raw

/-- Looks for the next option among arguments. -/
def nextOption (spec : Raw) (arguments : List Raw) (next : Nat) (place : Option Nat) :
    FoundOption :=
  let isQuiet := spec.head? = some ':'
  let rest? : Option Raw := do
    if next ≤ 1 then none
    let current ← arguments[next - 2]?
    let n ← place
    let rest := current.drop n
    if rest.isEmpty || current.length < n then none else some rest
  let ended (next : Nat) : FoundOption := ⟨'?', false, none, next, none, none⟩
  let go (word : Raw) (next : Nat) : FoundOption :=
    match word with
    | [] => ended next
    | c :: rest =>
      let here : Option Nat := some (((arguments[next - 2]?).getD []).length - rest.length)
      let unknown : FoundOption :=
        if isQuiet then ⟨'?', true, some (some [c]), next, here, none⟩
        else ⟨'?', true, some none, next, here, some ("Illegal option -".toList ++ [c])⟩
      let after := (spec.dropWhile (· ≠ c)).tail
      if c = ':' || !spec.contains c then unknown
      else if after.head? ≠ some ':' then ⟨c, true, some (some []), next, here, none⟩
      else if !rest.isEmpty then ⟨c, true, some (some rest), next, none, none⟩
      else
        match arguments[next - 1]? with
        | some value => ⟨c, true, some (some value), next + 1, none, none⟩
        | none =>
          if isQuiet then ⟨':', true, some (some [c]), next, none, none⟩
          else
            ⟨'?', true, some none, next, none,
              some ("No arg for -".toList ++ c :: " option".toList)⟩
  match rest? with
  | some rest => go rest next
  | none =>
    match arguments[next - 1]? with
    | some ['-', '-'] => ended (next + 1)
    | some ('-' :: c :: letters) => go (c :: letters) (next + 1)
    | _ => ended next

/-- Gives the next option of the arguments to the script. -/
def runGetOptions (arguments : List Raw) : Action Unit := do
  match ← Options.readNone arguments with
  | spec :: name :: rest =>
    let m ← get
    let found :=
      nextOption spec (if rest.isEmpty then m.arguments else rest) m.nextOption m.letter
    let valueName := "OPTARG".toList
    match found.value with
    | none => pure ()
    | some none =>
      match found.complaint with
      | some text => warn text
      | none => pure ()
      unset valueName
    | some (some value) => assign valueName value
    assign "OPTIND".toList (digitsOf found.next)
    if !isName name then fault (name ++ ": bad variable name".toList)
    assign name [found.letter]
    modify fun m => { m with nextOption := found.next, letter := found.place }
    setStatusIf found.isFound
  | _ => fault "Usage: getopts optstring var [arg]".toList

end TestImpact.Child.Shell
