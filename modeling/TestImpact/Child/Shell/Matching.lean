import TestImpact.Child.Shell.Syntax
import TestImpact.Files.Operations
import TestImpact.Pattern.Glob

/-!
# Patterns of the shell

In a pattern, a star stands for any text, a question mark for any character and a set in brackets
for one of its characters, unless they are quoted. A pattern is matched by a whole text, or by the
paths of existing files.
-/

namespace TestImpact.Child.Shell

/-- A character of a field, and whether it was quoted. -/
structure FieldChar where
  quoted : Bool
  char : Char
  deriving DecidableEq, Repr, Inhabited

/-- Whether a character is a sign of the pattern. -/
def FieldChar.isSign (c : FieldChar) (sign : Char) : Bool := !c.quoted && c.char = sign

abbrev Field := List FieldChar

namespace Field

def ofRaw (quoted : Bool) (s : Raw) : Field := s.map fun c => ⟨quoted, c⟩

def toRaw (f : Field) : Raw := f.map (·.char)

/-- Whether a field is more than its text. -/
def isPattern (f : Field) : Bool := f.any fun c => !c.quoted && "*?[".toList.contains c.char

/-- Backslashes outside quotes taken away, each with the character behind it quoted. -/
def unescape : Field → Field
  | c :: d :: r =>
    if c.isSign '\\' then { d with quoted := true } :: unescape r else c :: unescape (d :: r)
  | f => f

end Field

/-- What a set in brackets has. -/
inductive SetItem where
  | range (low high : Char)
  | named (accepts : Char → Bool)

def SetItem.accepts (item : SetItem) (c : Char) : Bool :=
  match item with
  | .range low high => low ≤ c && c ≤ high
  | .named accepts => accepts c

/-- What a part of a pattern stands for. -/
inductive PatternItem where
  | run
  | any
  | oneOf (negated : Bool) (items : List SetItem)
  | literal (c : Char)

namespace PatternItem

/-- The kinds of characters that have names. -/
def kinds : List (String × (Char → Bool)) :=
  [("alnum", Char.isAlphanum), ("alpha", Char.isAlpha), ("blank", isGap),
   ("cntrl", fun c => c.toNat < 32 || c.toNat = 127), ("digit", Char.isDigit),
   ("graph", fun c => 32 < c.toNat && c.toNat < 127), ("lower", Char.isLower),
   ("print", fun c => 32 ≤ c.toNat && c.toNat < 127),
   ("punct", fun c => 32 < c.toNat && c.toNat < 127 && !c.isAlphanum),
   ("space", fun c => c = ' ' || (9 ≤ c.toNat && c.toNat ≤ 13)), ("upper", Char.isUpper),
   ("xdigit", fun c => (Text.digitInBase? 16 c).isSome)]

/-- A kind of characters behind an opening bracket, and how long its name is. -/
def kind? (f : Field) : Option ((Char → Bool) × Nat) :=
  kinds.findSome? fun (name, accepts) =>
    let written := ":" ++ name ++ ":]"
    (Text.dropLead? written.toList f.toRaw).map fun _ => (accepts, written.length)

/-- The items of a set in brackets and what follows the set. A closing bracket that comes first
belongs to the set. The first argument bounds their number. -/
def readSet : Nat → Bool → Field → Option (List SetItem × Field)
  | 0, _, _ => none
  | _ + 1, _, [] => none
  | n + 1, isFirst, c :: r =>
    if c.isSign ']' && !isFirst then some ([], r)
    else
      let add (item : SetItem) (rest : Field) : Option (List SetItem × Field) :=
        (readSet n false rest).map fun (items, after) => (item :: items, after)
      match if c.isSign '[' then kind? r else none with
      | some (accepts, length) => add (.named accepts) (r.drop length)
      | none =>
        match r with
        | dash :: upper :: rest =>
          if dash.isSign '-' && !upper.isSign ']' then add (.range c.char upper.char) rest
          else add (.range c.char c.char) r
        | r => add (.range c.char c.char) r

/-- A set behind its opening bracket. -/
def readOneOf (f : Field) : Option (PatternItem × Field) :=
  let (negated, f) :=
    match f with
    | c :: r => if c.isSign '!' then (true, r) else (false, f)
    | [] => (false, [])
  (readSet (f.length + 1) true f).map fun (items, after) => (oneOf negated items, after)

/-- The items of a field; the first argument bounds their number. -/
def ofField : Nat → Field → List PatternItem
  | 0, _ => []
  | _ + 1, [] => []
  | n + 1, c :: r =>
    if c.isSign '*' then run :: ofField n r
    else if c.isSign '?' then any :: ofField n r
    else if c.isSign '[' then
      match readOneOf r with
      | some (item, rest) => item :: ofField n rest
      | none => literal c.char :: ofField n r
    else literal c.char :: ofField n r

/-- Whether items match a whole text. -/
def accept : List PatternItem → Raw → Bool
  | [], s => s.isEmpty
  | run :: items, s => Pattern.Token.runThen (fun _ => true) (accept items) s
  | any :: items, s => Pattern.Token.oneThen (fun _ => true) (accept items) s
  | oneOf negated set :: items, s =>
    Pattern.Token.oneThen (fun c => set.any (·.accepts c) != negated) (accept items) s
  | literal c :: items, s => Pattern.Token.oneThen (· == c) (accept items) s

end PatternItem

namespace Field

/-- Whether a field matches a whole text. -/
def accepts (f : Field) (s : Raw) : Bool :=
  let f := f.unescape
  PatternItem.accept (PatternItem.ofField f.length f) s

/-- A text up to the first null character, which ends what patterns are matched with. -/
def upToNull (s : Raw) : Raw := s.takeWhile (· ≠ '\x00')

/-- A text without what a pattern matches at its start. -/
def trimStart (pattern : Field) (longest : Bool) (s : Raw) : Raw :=
  let tried := if longest then (List.range (s.length + 1)).reverse
    else List.range ((upToNull s).length + 1)
  s.drop ((tried.find? fun n => pattern.accepts (upToNull (s.take n))).getD 0)

/-- A text without what a pattern matches at its end. -/
def trimEnd (pattern : Field) (longest : Bool) (s : Raw) : Raw :=
  let tried := if longest then List.range ((upToNull s).length + 1)
    else (List.range (s.length + 1)).reverse
  s.take ((tried.find? fun n => pattern.accepts (upToNull (s.drop n))).getD s.length)

/-! ### Paths -/

/-- The parts of a field between slashes. -/
def parts : Field → List Field
  | [] => [[]]
  | c :: r =>
    match parts r with
    | part :: rest => if c.char = '/' then [] :: part :: rest else (c :: part) :: rest
    | [] => [[c]]

/-- The names in a directory, in order, with those of the directory itself and the one above. -/
def namesIn (files : Files) (cwd : Location) (dir : Raw) : List Raw :=
  match files.locateText cwd true (if dir.isEmpty then "." else Raw.toText dir) with
  | .ok ⟨l, some .dir⟩ =>
    let names := (files.below l).filterMap fun (names, _) =>
      match names with
      | [name] => some (Raw.ofText name)
      | _ => none
    (".".toList :: "..".toList :: names).mergeSort fun a b => !decide (b < a)
  | _ => []

/-- Whether a name matches. A dot at its start is matched by a dot alone. -/
def acceptsName (f : Field) (name : Raw) : Bool :=
  f.accepts name && (name.head? ≠ some '.' || f.head?.any (·.char = '.'))

/-- The names for one part: those that match it, or the part itself. -/
def namesFor (files : Files) (cwd : Location) (dir : Raw) (part : Field) : List Raw :=
  if part.isPattern then (namesIn files cwd dir).filter part.acceptsName
  else [part.unescape.toRaw]

/-- The existing paths that match parts, each behind the text of its directory. -/
def pathsBelow (files : Files) (cwd : Location) (dir : Raw) : List Field → List Raw
  | [] => []
  | [last] =>
    ((namesFor files cwd dir last).map (dir ++ ·)).filter fun p =>
      match files.locateText cwd (p.getLast? = some '/') (Raw.toText p) with
      | .ok ⟨_, some _⟩ => true
      | _ => false
  | part :: parts =>
    (namesFor files cwd dir part).flatMap fun name =>
      pathsBelow files cwd (dir ++ name ++ ['/']) parts

/-- The existing paths that match a pattern; its text if there are none. -/
def paths (files : Files) (cwd : Location) (f : Field) : List Raw :=
  if f.isPattern then
    match pathsBelow files cwd [] f.parts with
    | [] => [f.toRaw]
    | found => found
  else [f.toRaw]

end Field

end TestImpact.Child.Shell
