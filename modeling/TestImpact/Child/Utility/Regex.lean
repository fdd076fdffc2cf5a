import TestImpact.Child.Shell.Matching

/-!
# Regular expressions

Patterns for lines of text, in two written forms: in the basic form, groups and counts are written
with a backslash, and in the extended form without. A pattern matches from a place in a text to
others, which `ends` gives. The text that its first group took is kept.
-/

namespace TestImpact.Child.Utility

inductive Regex where
  | empty
  | one (accepts : Char → Bool)
  | lineStart
  | lineEnd
  | seq (first second : Regex)
  | choice (first second : Regex)
  | repeated (r : Regex) (least : Nat) (most : Option Nat)
  /-- A part whose text is of interest. -/
  | group (r : Regex)
  deriving Inhabited

namespace Regex

/-- What is left of a text behind a match, and the text that the group took, if there is one. -/
structure Place where
  rest : Raw
  taken : Option Raw
  deriving DecidableEq, Repr, Inhabited

/-- Places without those that came before. -/
def fresh (known more : List Place) : List Place :=
  more.foldl (fun found p =>
    let isSame (q : Place) : Bool := q.rest.length = p.rest.length && q.taken = p.taken
    if (known ++ found).any isSame then found else found ++ [p]) []

/-- All places that are reached by taking steps again and again, those of more steps first; the
number bounds the steps. -/
def reached (step : Place → List Place) : Nat → List Place → List Place → List Place
  | 0, known, _ => known
  | n + 1, known, last =>
    match fresh known (last.flatMap step) with
    | [] => known
    | more => reached step n (more ++ known) more

/-- The places that are reached by a number of steps. -/
def stepped (step : Place → List Place) : Nat → List Place → List Place
  | 0, places => places
  | n + 1, places => stepped step n (fresh [] (places.flatMap step))

/-- The places behind each match that starts at a place in a text of the given length. -/
def ends (length : Nat) : Regex → Place → List Place
  | empty, p => [p]
  | one accepts, p =>
    match p.rest with
    | c :: rest => if accepts c then [{ p with rest }] else []
    | [] => []
  | lineStart, p => if p.rest.length = length then [p] else []
  | lineEnd, p => if p.rest.isEmpty then [p] else []
  | seq first second, p => fresh [] ((ends length first p).flatMap (ends length second))
  | choice first second, p => fresh [] (ends length first p ++ ends length second p)
  | repeated r least most, p =>
    let places := stepped (ends length r) least [p]
    match most with
    | none => reached (ends length r) (length + 1) places places
    | some most => reached (ends length r) (most - least) places places
  | group r, p =>
    (ends length r p).map fun q =>
      { q with taken := some (p.rest.take (p.rest.length - q.rest.length)) }

/-- The longest match at the start of what is left, with the text that its group took. -/
def longestTaken? (length : Nat) (r : Regex) (s : Raw) : Option (Raw × Option Raw) :=
  let places := r.ends length ⟨s, none⟩
  (places.map fun p => p.rest.length).min?.bind fun least =>
    (places.find? fun p => p.rest.length = least).map fun p =>
      (s.take (s.length - least), p.taken)

/-- The longest match at the start of what is left. -/
def longestAt? (length : Nat) (r : Regex) (s : Raw) : Option Raw :=
  (longestTaken? length r s).map (·.1)

/-- The matches in a text from a place on, each as long as possible; empty ones are left out. The
first number bounds the places. -/
def matchesFrom (length : Nat) (r : Regex) : Nat → Raw → List Raw
  | 0, _ => []
  | _ + 1, [] => []
  | n + 1, c :: rest =>
    match r.longestAt? length (c :: rest) with
    | some (d :: found) =>
      (d :: found) :: matchesFrom length r n ((c :: rest).drop (found.length + 1))
    | _ => matchesFrom length r n rest

/-- Whether there is a match anywhere in a text. -/
def isIn (r : Regex) (s : Raw) : Bool :=
  (List.range (s.length + 1)).any fun n => !(r.ends s.length ⟨s.drop n, none⟩).isEmpty

/-! ### Reading -/

/-- A set in brackets, behind the opening one. -/
def readSet (s : Raw) : Option ((Char → Bool) × Raw) :=
  let (negated, s) := if s.head? = some '^' then (true, s.tail) else (false, s)
  let field := Shell.Field.ofRaw false s
  (Shell.PatternItem.readSet (s.length + 1) true field).map fun (items, rest) =>
    (fun c => (items.any fun item => item.accepts c) != negated,
      Shell.Field.toRaw rest)

/-- A count in braces, up to the sign that closes it. -/
def readCount (close : Raw) (s : Raw) : Option (Nat × Option Nat × Raw) :=
  let least := s.takeWhile Char.isDigit
  let rest := s.drop least.length
  let low := Text.natOfDigits least
  match rest with
  | ',' :: r =>
    let most := r.takeWhile Char.isDigit
    (Text.dropLead? close (r.drop most.length)).map fun rest =>
      (low, if most.isEmpty then none else some (Text.natOfDigits most), rest)
  | r =>
    if least.isEmpty then none
    else (Text.dropLead? close r).map fun rest => (low, some low, rest)

/-- A sign of the written form. -/
inductive Sign where
  | opening
  | closing
  | bar
  | star
  | plus
  | question
  | brace
  | literal (c : Char)
  deriving DecidableEq, Repr, Inhabited

/-- The sign at the start of a text. -/
def readSign (extended : Bool) : Raw → Option (Sign × Raw)
  | [] => none
  | '*' :: r => some (.star, r)
  | '\\' :: c :: r =>
    let special : Option Sign :=
      match c with
      | '(' => some .opening
      | ')' => some .closing
      | '|' => some .bar
      | '+' => some .plus
      | '?' => some .question
      | '\x7b' => some .brace
      | _ => none
    some ((if extended then none else special).getD (.literal c), r)
  | c :: r =>
    let special : Option Sign :=
      match c with
      | '(' => some .opening
      | ')' => some .closing
      | '|' => some .bar
      | '+' => some .plus
      | '?' => some .question
      | '\x7b' => some .brace
      | _ => none
    some ((if extended then special else none).getD (.literal c), r)

/-- Repetitions behind a part. -/
def readRepeats (extended : Bool) : Nat → Regex → Raw → Regex × Raw
  | 0, r, s => (r, s)
  | n + 1, r, s =>
    match readSign extended s with
    | some (.star, rest) => readRepeats extended n (.repeated r 0 none) rest
    | some (.plus, rest) => readRepeats extended n (.repeated r 1 none) rest
    | some (.question, rest) => readRepeats extended n (.repeated r 0 (some 1)) rest
    | some (.brace, rest) =>
      match readCount (if extended then ['\x7d'] else ['\\', '\x7d']) rest with
      | some (least, most, rest) => readRepeats extended n (.repeated r least most) rest
      | none => (r, s)
    | _ => (r, s)

mutual

/-- A choice up to a closing parenthesis or the end; the first number bounds the parts. -/
def readChoice (extended : Bool) : Nat → Raw → Option (Regex × Raw)
  | 0, _ => none
  | n + 1, s => do
    let (first, rest) ← readParts extended n true s
    match readSign extended rest with
    | some (.bar, rest) =>
      let (second, rest) ← readChoice extended n rest
      some (.choice first second, rest)
    | _ => some (first, rest)

/-- Parts one after the other. -/
def readParts (extended : Bool) : Nat → Bool → Raw → Option (Regex × Raw)
  | 0, _, _ => none
  | n + 1, isFirst, s => do
    let more (part : Regex) (rest : Raw) : Option (Regex × Raw) := do
      let (part, rest) := readRepeats extended (s.length + 1) part rest
      let (others, rest) ← readParts extended n false rest
      some (.seq part others, rest)
    let plain (c : Char) (rest : Raw) : Option (Regex × Raw) := more (.one (· == c)) rest
    match readSign extended s with
    | none => some (.empty, [])
    | some (.bar, _) | some (.closing, _) => some (.empty, s)
    | some (.opening, rest) =>
      let (inner, rest) ← readChoice extended n rest
      match readSign extended rest with
      | some (.closing, rest) => more (.group inner) rest
      | _ => none
    | some (.star, rest) => if isFirst then plain '*' rest else none
    | some (.plus, rest) => plain '+' rest
    | some (.question, rest) => plain '?' rest
    | some (.brace, rest) => plain '\x7b' rest
    | some (.literal c, rest) =>
      if s.head? = some '\\' then
        match c with
        | 'w' => more (.one fun d => d.isAlphanum || d == '_') rest
        | 'W' => more (.one fun d => !(d.isAlphanum || d == '_')) rest
        | 's' => more (.one fun d => d == ' ' || d == '\t') rest
        | c => plain c rest
      else
        match c with
        | '.' => more (.one fun _ => true) rest
        | '^' =>
          if isFirst || extended then
            let (others, rest) ← readParts extended n true rest
            some (.seq .lineStart others, rest)
          else plain c rest
        | '$' =>
          let isLast : Bool :=
            match readSign extended rest with
            | none | some (.closing, _) | some (.bar, _) => true
            | _ => extended
          if isLast then
            let (others, rest) ← readParts extended n false rest
            some (.seq .lineEnd others, rest)
          else plain c rest
        | '[' =>
          let (accepts, rest) ← readSet rest
          more (.one accepts) rest
        | c => plain c rest

end

/-- A pattern with its first group alone, and whether there is one; none is left if one was found
before. -/
def keepFirst (isFound : Bool) : Regex → Regex × Bool
  | group r => if isFound then keepFirst true r else (.group (keepFirst true r).1, true)
  | seq first second =>
    let (first, isFound) := keepFirst isFound first
    let (second, isFound) := keepFirst isFound second
    (.seq first second, isFound)
  | choice first second =>
    let (first, isFound) := keepFirst isFound first
    let (second, isFound) := keepFirst isFound second
    (.choice first second, isFound)
  | repeated r least most =>
    let (r, isFound) := keepFirst isFound r
    (.repeated r least most, isFound)
  | r => (r, isFound)

/-- Whether a pattern has a group. -/
def hasGroup (r : Regex) : Bool := (r.keepFirst false).2

/-- The pattern that a text writes, if it is written well. -/
def ofText? (extended : Bool) (s : Raw) : Option Regex :=
  match readChoice extended (4 * s.length + 8) s with
  | some (r, []) => some (r.keepFirst false).1
  | _ => none

/-- The pattern that only a given text matches. -/
def literal (s : Raw) : Regex := s.foldr (fun c r => .seq (.one (· == c)) r) .empty

end Regex

end TestImpact.Child.Utility
