import TestImpact.Child.Shell.Arithmetic
import TestImpact.Child.Shell.Matching
import TestImpact.Child.Shell.Script

/-!
# Expanding words

A word becomes fields: parameters, commands and numbers in it are replaced by their values, and what
came from outside quotes is split at separators. A field that is a pattern stands for the paths that
match it.
-/

namespace TestImpact.Child.Shell

/-- A part of an expanded word. -/
inductive Atom where
  | char (c : Char) (quoted splits : Bool)
  /-- Where a quote stood; a field with one is there even if it has no text. -/
  | mark
  /-- Where one argument ends and another one starts. -/
  | cut
  /-- Where a part starts that is looked through for separators. If it is `apart`, only arguments
  are separated in it. -/
  | region (apart : Bool)
  deriving DecidableEq, Repr, Inhabited

/-- Text in an expanded word; text that is to be split is a region. -/
def atoms (quoted splits : Bool) (s : Raw) : List Atom :=
  let l := s.map fun c => Atom.char c quoted splits
  if splits then .region false :: l else l

/-- The characters of an expanded word as a field. -/
def Field.ofAtoms (l : List Atom) : Field :=
  l.filterMap fun a =>
    match a with
    | .char c quoted _ => some ⟨quoted, c⟩
    | _ => none

/-! ### Splitting -/

/-- What is being split: the fields in reverse, the one that was started in reverse, whether a gap
between fields goes on, and what the region and the one before it are. -/
structure Splitting where
  fields : List (List Atom)
  current : List Atom
  inGap : Bool
  isApart : Bool
  wasApart : Bool

/-- Takes a separator. Blanks between fields count as one separator, with at most one other separator
among them. In a region that is apart, and in the next one, each separator counts. -/
def Splitting.separate (s : Splitting) (isBlank : Bool) : Splitting :=
  if s.inGap then { s with inGap := isBlank }
  else
    let inGap := isBlank && !s.isApart && !s.wasApart
    if s.current.isEmpty && inGap then s
    else { s with fields := s.current.reverse :: s.fields, current := [], inGap }

/-- Takes one more part. -/
def Splitting.add (separators : Raw) (s : Splitting) (a : Atom) : Splitting :=
  match a with
  | .region apart => { s with inGap := false, isApart := apart, wasApart := s.isApart }
  | .cut => s.separate true
  | .char c _ splits =>
    if splits && separators.contains c then s.separate (" \t\n".toList.contains c)
    else { s with current := a :: s.current, inGap := false }
  | .mark => { s with current := a :: s.current, inGap := false }

/-- The fields of an expanded word. -/
def split (separators : Raw) (l : List Atom) : List (List Atom) :=
  let s := l.foldl (Splitting.add separators) ⟨[], [], false, false, false⟩
  let isOpen := !s.current.isEmpty || s.isApart
  (if isOpen then s.current.reverse :: s.fields else s.fields).reverse

/-! ### Home directories -/

/-- The home directory that a tilde with a name stands for. -/
def home? (m : Machine) (name : Raw) : Option Raw :=
  if name.isEmpty then value? m "HOME".toList
  else (m.world.accounts.directory (Raw.toText name)).map Raw.ofText

/-- Replaces a tilde at the start of a text, and with `inList` behind colons too. `isLast` says
whether the word ends with the text. The first number bounds the tildes. -/
def replaceTildes (m : Machine) (inList isLast : Bool) : Nat → Raw → Word
  | 0, s => [.text false s]
  | n + 1, s =>
    let ends (c : Char) : Bool := c = '/' || (inList && c = ':')
    let later (lead rest : Raw) : Word :=
      let head := rest.takeWhile (· ≠ ':')
      match rest.drop head.length with
      | _ :: tail =>
        if inList then
          .text false (lead ++ head ++ [':']) :: replaceTildes m inList isLast n tail
        else [.text false (lead ++ rest)]
      | [] => [.text false (lead ++ rest)]
    match s with
    | '~' :: r =>
      let name := r.takeWhile (!ends ·)
      let rest := r.drop name.length
      match if rest.isEmpty && !isLast then none else home? m name with
      | some dir => .text true dir :: later [] rest
      | none => later ('~' :: name) rest
    | s => later [] s

/-- Replaces the tildes at the start of a word, and those in a list of paths. -/
def Word.withHomes (m : Machine) (inList : Bool) (w : Word) : Word :=
  match w with
  | .text false s :: rest =>
    replaceTildes m inList rest.isEmpty (s.length + 1) s ++
      (if inList then behindColons (Raw.isColonLast s) rest else rest)
  | w => w
where
  Raw.isColonLast (s : Raw) : Bool := s.getLast? = some ':'
  /-- The rest of a word; a text may start with a tilde only behind a colon. -/
  behindColons (follows : Bool) : Word → Word
    | [] => []
    | .text false s :: rest =>
      let shielded := if follows then [] else s.takeWhile (· ≠ ':')
      let open_ := s.drop shielded.length
      let pieces : Word :=
        if follows then replaceTildes m inList rest.isEmpty (s.length + 1) s
        else
          match open_ with
          | [] => [.text false s]
          | _ :: tail =>
            .text false (shielded ++ [':']) ::
              replaceTildes m inList rest.isEmpty (s.length + 1) tail
      pieces ++ behindColons (Raw.isColonLast s) rest
    | p :: rest => p :: behindColons false rest

/-! ### Values -/

/-- Whether a parameter stands for the arguments one by one. `isFull` says whether the word may
become several fields. Without separators that were set, arguments outside quotes are joined. -/
def standsForEach (m : Machine) (quoted isFull : Bool) (name : Raw) : Bool :=
  isFull &&
    if quoted then name = ['@']
    else (name = ['@'] || name = ['*']) && (value? m "IFS".toList).isSome

/-- The value of a parameter in one text. Arguments that are taken one by one have null characters
between them. -/
def joinedValue? (m : Machine) (quoted isFull : Bool) (name : Raw) : Option Raw :=
  if standsForEach m quoted isFull name then some (Raw.join ['\x00'] m.arguments)
  else parameter? m name

/-- Arguments as parts of a word, one by one. -/
def argumentAtoms (quoted : Bool) (arguments : List Raw) : List Atom :=
  if arguments.isEmpty then []
  else
    let one (s : Raw) : List Atom := s.map fun c => .char c quoted (!quoted)
    .region quoted :: (List.intersperse [.cut] (arguments.map one)).flatten

/-- The value of a parameter as parts of a word. -/
def valueAtoms (m : Machine) (quoted isFull : Bool) (name : Raw) : List Atom :=
  if standsForEach m quoted isFull name then argumentAtoms quoted m.arguments
  else atoms quoted (!quoted && isFull) ((parameter? m name).getD [])

/-- The value of a parameter that has to be set if the shell was told so. -/
def checkSet (name : Raw) : Action Unit := do
  let m ← get
  if m.options.noUnset && name ≠ ['@'] && name ≠ ['*'] && (parameter? m name).isNone then
    fault (name ++ ": parameter not set".toList)

/-- The value of an expression; variables in it are set. -/
def evaluate (expression : Raw) : Action Int := do
  let m ← get
  match evalNumber (value? m) expression with
  | .error defect => fault (defect.message expression)
  | .ok (n, assigned) =>
    for (name, value) in assigned.reverse do assign name (digitsOfInt value)
    return n

/-- The pieces of a word expanded. `isFull` says whether the word may become several fields, and
`splits` whether text outside quotes is split. The number bounds the depth of words in words. -/
def expandPieces (run : Runner) : Nat → Bool → Bool → Word → Action (List Atom)
  | 0, _, _, _ => pure []
  | _ + 1, _, _, [] => pure []
  | depth + 1, isFull, splits, piece :: word => do
    let continued (first : List Atom) (rest : Word) : Action (List Atom) := do
      return first ++ (← expandPieces run depth isFull splits rest)
    match piece, word with
    | .mark, .parameter true ['@'] .plain :: .mark :: rest =>
      if isFull then continued (valueAtoms (← get) true true ['@']) rest
      else continued (.mark :: valueAtoms (← get) true false ['@']) (.mark :: rest)
    | .mark, word => continued [.mark] word
    | .text quoted s, word => continued (atoms quoted (splits && !quoted) s) word
    | .output quoted commands, word => do
      let status := (← get).status
      let text ← capturing (copied run (fun m => { m with guarded := false }) (run commands))
      modify fun m => { m with outputStatus := some m.status, status }
      let text := Raw.dropLineEnds (text.filter (· ≠ '\x00'))
      continued (atoms quoted (!quoted && isFull) text) word
    | .number quoted expression, word => do
      let inner ← expandPieces run depth false false expression
      let n ← evaluate (Field.ofAtoms inner).toRaw
      continued (atoms quoted (!quoted && isFull) (digitsOfInt n)) word
    | .parameter quoted name use, word => do
      match use with
      | .wrong => fault "Bad substitution".toList
      | .plain => do
        checkSet name
        continued (valueAtoms (← get) quoted isFull name) word
      | .length => do
        checkSet name
        let length := ((parameter? (← get) name).getD []).length
        continued (atoms quoted (!quoted && isFull) (digitsOf length)) word
      | .trimmed atEnd longest pattern => do
        checkSet name
        let m ← get
        let value := (joinedValue? m quoted isFull name).getD []
        let pattern := Word.withHomes m false pattern
        let inner := Field.ofAtoms (← expandPieces run depth false false pattern)
        let rest := if atEnd then inner.trimEnd longest value else inner.trimStart longest value
        if standsForEach m quoted isFull name then
          let arguments := if m.arguments.isEmpty then [] else Text.splitOn '\x00' rest
          continued (argumentAtoms quoted arguments) word
        else continued (atoms quoted (!quoted && isFull) rest) word
      | .fallback orEmpty kind fallback => do
        let m ← get
        let value? := joinedValue? m quoted isFull name
        let isPresent := value?.any fun value => !orEmpty || !value.isEmpty
        let usesWord := if kind = .instead then isPresent else !isPresent
        if !usesWord then
          continued (if kind = .instead then [] else valueAtoms m quoted isFull name) word
        else
          let fallback := Word.withHomes m false fallback
          match kind with
          | .complain => do
            let inner := (Field.ofAtoms (← expandPieces run depth false false fallback)).toRaw
            let standard := if orEmpty then "parameter not set or null" else "parameter not set"
            fault (name ++ ": ".toList ++ (if fallback.isEmpty then standard.toList else inner))
          | .assign => do
            let inner := (Field.ofAtoms (← expandPieces run depth false false fallback)).toRaw
            if !isName name then fault (name ++ ": bad variable name".toList)
            assign name inner
            continued (valueAtoms (← get) quoted isFull name) word
          | _ => do
            let inner ← expandPieces run depth isFull (isFull && !quoted) fallback
            continued inner word

/-- How deep words stand in words, and how many pieces they have. -/
def deepest : Nat := 10000

/-- The fields of a word. -/
def expand (run : Runner) (w : Word) : Action (List Raw) := do
  let l ← expandPieces run deepest true false (Word.withHomes (← get) false w)
  let m ← get
  let fields := (split (separators m) l).map Field.ofAtoms
  if m.options.noGlob then return fields.map Field.toRaw
  else return fields.flatMap (Field.paths m.world.files m.location)

/-- The text of a word that is not split, as a field. -/
def expandField (run : Runner) (inList : Bool) (w : Word) : Action Field := do
  let l ← expandPieces run deepest false false (Word.withHomes (← get) inList w)
  return Field.ofAtoms l

/-- The text of a word that is not split. -/
def expandWhole (run : Runner) (w : Word) : Action Raw := do
  return (← expandField run false w).toRaw

/-- The value that is assigned to a variable. -/
def expandValue (run : Runner) (w : Word) : Action Raw := do
  return (← expandField run true w).toRaw

/-- The text that is written behind a command. -/
def expandText (run : Runner) (w : Word) : Action Raw := do
  return (Field.ofAtoms (← expandPieces run deepest false false w)).toRaw

end TestImpact.Child.Shell
