import TestImpact.Child.Shell.Syntax
import TestImpact.Text.Split

/-!
# Reading words

The text of a shell is read from left to right by a cursor, which counts lines and remembers the
texts that are announced for the next line. `readPieces` reads the pieces of a word up to whatever
closes it. Commands inside words are read by readers that are handed in.
-/

namespace TestImpact.Child.Shell

/-- Why a text cannot be read, and in which line. -/
structure Complaint where
  line : Nat
  text : Raw
  deriving DecidableEq, Repr, Inhabited

/-- A text that is announced for the next line: it ends at a line of its own. -/
structure Announced where
  number : Nat
  stop : Raw
  /-- Whether tabs at the start of its lines are left out. -/
  isStripped : Bool
  /-- Whether parameters and commands in it are replaced. -/
  expands : Bool
  deriving DecidableEq, Repr, Inhabited

inductive RedirectKind where
  | file (mode : OpenMode)
  /-- The same as another descriptor, for a standard descriptor. -/
  | copy (standard : Nat)
  | here (isStripped : Bool)
  deriving DecidableEq, Repr, Inhabited

inductive Token where
  | word (w : Word)
  | redirect (descriptor : Option Nat) (kind : RedirectKind)
  | sign (s : String)
  | newline
  | ended
  deriving Inhabited

/-- How far a text was read. -/
structure Cursor where
  rest : Raw
  line : Nat
  /-- A token that was read too early. -/
  pushed : Option Token
  announced : List Announced
  /-- The announced texts that were found. -/
  found : List (Nat × Word)
  nextNumber : Nat
  aliases : List (Raw × Raw)
  /-- The aliases that are being replaced, each with what is left behind its text. -/
  replacing : List (Raw × Nat)
  deriving Inhabited

abbrev Reader := StateT Cursor (Except Complaint)

def refuse {α : Type} (text : String) : Reader α := do
  throw ⟨(← get).line, text.toList⟩

namespace Cursor

/-- The cursor behind a character. -/
def advance (c : Cursor) : Cursor :=
  match c.rest with
  | [] => c
  | '\n' :: rest => { c with rest, line := c.line + 1 }
  | _ :: rest => { c with rest }

/-- A text without the joined line ends at its start, and their number. -/
def dropJoins : Raw → Raw × Nat
  | '\\' :: '\n' :: r =>
    let (rest, n) := dropJoins r
    (rest, n + 1)
  | r => (r, 0)

/-- A backslash at the end of a line joins it to the next one. -/
def skipJoins (c : Cursor) : Cursor :=
  let (rest, n) := dropJoins c.rest
  { c with rest, line := c.line + n }

end Cursor

/-- The next character, with lines joined. -/
def look : Reader (Option Char) := do
  modify Cursor.skipJoins
  return (← get).rest.head?

def advance : Reader Unit := modify Cursor.advance

/-- Leaves a character behind, which is not counted as a line end. -/
def drop : Reader Unit := modify fun c => { c with rest := c.rest.tail }

/-- Reads characters of a kind. -/
def readWhile (accepts : Char → Bool) : Nat → Reader Raw
  | 0 => pure []
  | fuel + 1 => do
    match ← look with
    | some c =>
      if accepts c then
        advance
        return c :: (← readWhile accepts fuel)
      else return []
    | none => return []

/-- Puts a piece in front; text joins text of the same kind. -/
def addPiece (p : Piece) (w : Word) : Word :=
  match p, w with
  | .text q s, .text q' t :: rest => if q = q' then .text q (s ++ t) :: rest else p :: w
  | _, _ => p :: w

/-- Characters that end a word. -/
def endsWord (c : Char) : Bool := isGap c || "\n;&|<>()".toList.contains c

/-- What ends the pieces of a word. -/
inductive Closing where
  /-- A gap or a sign. -/
  | gap
  | quote
  | brace
  | parentheses
  | finish
  deriving DecidableEq, Repr, Inhabited

/-- Where pieces are read. -/
structure Surround where
  quoted : Bool
  closing : Closing
  inBrace : Bool
  /-- Whether the pieces are those of an announced text. -/
  inHere : Bool
  /-- Whether parameters and commands are read as such. -/
  expands : Bool
  /-- Open parentheses. -/
  depth : Nat
  deriving Inhabited

namespace Surround

def ofWord (expands : Bool) : Surround := ⟨false, .gap, false, false, expands, 0⟩

/-- Whether a character behind a backslash stands for itself. -/
def escapes (s : Surround) (c : Char) : Bool :=
  !s.quoted || "\\`$".toList.contains c || (c = '"' && (!s.inHere || s.inBrace)) ||
    (c = '\x7d' && s.inBrace)

def inQuotes (s : Surround) : Surround := { s with quoted := true, closing := .quote, depth := 0 }

def inBraces (s : Surround) (quoted : Bool) : Surround :=
  { s with quoted, closing := .brace, inBrace := true, depth := 0 }

def inParentheses (s : Surround) : Surround :=
  { s with quoted := true, closing := .parentheses, inBrace := false, depth := 0 }

end Surround

/-- Text up to a single quote, in which lines are not joined. -/
def readSingle : Nat → Reader Raw
  | 0 => refuse "Unterminated quoted string"
  | fuel + 1 => do
    match (← get).rest with
    | [] => refuse "Unterminated quoted string"
    | c :: _ =>
      advance
      if c = '\'' then return [] else return c :: (← readSingle fuel)

/-- Text up to a backquote, with the backslashes taken away that protect characters in it. -/
def readBackquoted (quoted : Bool) : Nat → Reader Raw
  | 0 => refuse "EOF in backquote substitution"
  | fuel + 1 => do
    match ← look with
    | none => refuse "EOF in backquote substitution"
    | some '`' =>
      advance
      return []
    | some '\\' =>
      advance
      match (← get).rest with
      | [] => return '\\' :: (← readBackquoted quoted fuel)
      | c :: _ =>
        advance
        let rest ← readBackquoted quoted fuel
        if "\\`$".toList.contains c || (quoted && c = '"') then return c :: rest
        else return '\\' :: c :: rest
    | some c =>
      advance
      return c :: (← readBackquoted quoted fuel)

/-- The readers for commands inside words: up to a closing parenthesis, and a whole text. -/
structure Inner where
  enclosed : Reader Command
  whole : Reader Command

/-- Reads another text in place of the rest. -/
def readApart {α : Type} (text : Raw) (line : Nat) (r : Reader α) : Reader α := do
  let before ← get
  set { before with rest := text, line, pushed := none, announced := [] }
  let value ← r
  let after ← get
  set { before with found := after.found, nextNumber := after.nextNumber }
  return value

/-- The commands between backquotes. -/
def readOutput (inner : Inner) (fuel : Nat) (quoted : Bool) : Reader Piece := do
  let text ← readBackquoted quoted fuel
  let c ← readApart text 1 inner.whole
  return .output quoted c

mutual

/-- Pieces up to what closes them, which is read too unless it ends a word. The first number bounds
the characters. -/
def readPieces (inner : Inner) : Nat → Surround → Reader Word
  | 0, _ => refuse "Unterminated quoted string"
  | fuel + 1, s => do
    let add (p : Piece) (next : Surround) : Reader Word := do
      return addPiece p (← readPieces inner fuel next)
    let plain (c : Char) : Reader Word := do
      advance
      add (.text s.quoted [c]) s
    match ← look with
    | none =>
      match s.closing with
      | .gap | .finish => return []
      | .quote => refuse "Unterminated quoted string"
      | .brace =>
        refuse (if s.quoted && !s.inHere then "Unterminated quoted string" else "Missing '\x7d'")
      | .parentheses => refuse "Missing '))'"
    | some c =>
      if s.closing = .gap && endsWord c then return []
      else if c = '\\' then
        advance
        match (← get).rest with
        | [] => add (.text true ['\\']) s
        | d :: _ =>
          advance
          add (.text true (if s.escapes d then [d] else ['\\', d])) s
      else if c = '\'' && !s.quoted then
        advance
        let text ← readSingle fuel
        let rest ← readPieces inner fuel s
        return .mark :: addPiece (.text true text) (.mark :: rest)
      else if c = '"' && s.closing = .quote then
        advance
        return [.mark]
      else if c = '"' && s.closing ≠ .parentheses && s.closing ≠ .finish then
        advance
        let quoted ← readPieces inner fuel s.inQuotes
        let rest ← readPieces inner fuel s
        return .mark :: quoted ++ rest
      else if c = '$' && s.expands then
        advance
        let piece ← readDollar inner fuel s
        add piece s
      else if c = '`' && s.expands then
        advance
        let piece ← readOutput inner fuel s.quoted
        add piece s
      else if c = '\x7d' && s.closing = .brace then
        advance
        return []
      else if c = '(' && s.closing = .parentheses then
        advance
        add (.text s.quoted [c]) { s with depth := s.depth + 1 }
      else if c = ')' && s.closing = .parentheses then
        advance
        match s.depth with
        | depth + 1 => add (.text s.quoted [c]) { s with depth }
        | 0 =>
          if (← look) = some ')' then
            advance
            return []
          else add (.text s.quoted [c]) s
      else plain c

/-- A piece behind a dollar sign. -/
def readDollar (inner : Inner) : Nat → Surround → Reader Piece
  | 0, s => pure (.text s.quoted ['$'])
  | fuel + 1, s => do
    match ← look with
    | some '(' =>
      advance
      if (← look) = some '(' then
        advance
        let expression ← readPieces inner fuel s.inParentheses
        return .number s.quoted expression
      else
        let c ← inner.enclosed
        return .output s.quoted c
    | some '\x7b' =>
      advance
      readBraced inner fuel s
    | some c =>
      if isNameStart c then
        return .parameter s.quoted (← readWhile isNameChar fuel) .plain
      else if isSpecial c then
        advance
        return .parameter s.quoted [c] .plain
      else return .text s.quoted ['$']
    | none => return .text s.quoted ['$']

/-- A parameter between braces. -/
def readBraced (inner : Inner) : Nat → Surround → Reader Piece
  | 0, _ => refuse "Missing '\x7d'"
  | fuel + 1, s => do
    let wrong : Reader Piece := do
      let _ ← readPieces inner fuel (s.inBraces s.quoted)
      return .parameter s.quoted [] .wrong
    let name ← readName fuel
    match name with
    | [] =>
      match ← look with
      | some '#' =>
        advance
        match ← look with
        | none => wrong
        | some c =>
          if isNameChar c then
            let name ← readName fuel
            if (← look) = some '\x7d' then
              advance
              return .parameter s.quoted name .length
            else wrong
          else
            advance
            if c ≠ '\x7d' && (← look) = some '\x7d' then
              advance
              return .parameter s.quoted [c] (if isSpecial c then .length else .wrong)
            else readUse inner fuel s ['#'] c
      | some c =>
        if isSpecial c then
          advance
          match ← look with
          | some d =>
            drop
            readUse inner fuel s [c] d
          | none => wrong
        else wrong
      | none => wrong
    | name =>
      match ← look with
      | some c =>
        drop
        readUse inner fuel s name c
      | none => wrong
where
  readName (fuel : Nat) : Reader Raw := do
    match ← look with
    | some c =>
      if isNameStart c then readWhile isNameChar fuel
      else if c.isDigit then readWhile Char.isDigit fuel
      else return []
    | none => return []

/-- What is made of a parameter, by the character behind its name, which was read. -/
def readUse (inner : Inner) : Nat → Surround → Raw → Char → Reader Piece
  | 0, _, _, _ => refuse "Missing '\x7d'"
  | fuel + 1, s, name, c => do
    let wrong : Reader Piece := do
      let _ ← readPieces inner fuel (s.inBraces s.quoted)
      return .parameter s.quoted [] .wrong
    let fallback (orEmpty : Bool) (kind : Fallback) : Reader Piece := do
      let word ← readPieces inner fuel (s.inBraces s.quoted)
      return .parameter s.quoted name (.fallback orEmpty kind word)
    let choose (orEmpty : Bool) (c : Char) : Reader Piece :=
      match c with
      | '\x7d' => pure (.parameter s.quoted name .plain)
      | '-' => fallback orEmpty .value
      | '=' => fallback orEmpty .assign
      | '+' => fallback orEmpty .instead
      | '?' => fallback orEmpty .complain
      | _ => wrong
    if c = '#' || c = '%' then
      let longest := (← look) = some c
      if longest then advance
      let pattern ← readPieces inner fuel (s.inBraces false)
      return .parameter s.quoted name (.trimmed (c = '%') longest pattern)
    else if c = ':' then
      match ← look with
      | some d =>
        advance
        choose true d
      | none => wrong
    else choose false c

end

/-! ### Announced texts -/

/-- Whether a line is joined to the next one. -/
def isJoined (line : Raw) : Bool := (line.reverse.takeWhile (· = '\\')).length % 2 = 1

/-- Lines up to one that is the given text, and what follows that line. -/
def linesUntil (h : Announced) (isOpen : Bool) : List Raw → Raw × Raw × Nat
  | [] => ([], [], 0)
  | line :: rest =>
    let shown := if h.isStripped then line.dropWhile (· = '\t') else line
    let bare := Raw.dropLineEnds shown
    if !isOpen && bare = h.stop then ([], rest.flatten, 1)
    else
      let (body, left, n) := linesUntil h (h.expands && isJoined bare) rest
      (shown ++ body, left, n + 1)

/-- Reads the announced texts, which start with the line at the cursor. -/
def readAnnounced (inner : Inner) (fuel : Nat) : Reader Unit := do
  let waiting := (← get).announced
  modify fun c => { c with announced := [] }
  for h in waiting do
    let c ← get
    let (body, left, n) := linesUntil h false (Raw.lines c.rest)
    let word ←
      if h.expands then
        readApart body c.line
          (readPieces inner (fuel + body.length) ⟨true, .finish, false, true, true, 0⟩)
      else pure [.text true body]
    modify fun c => { c with
      rest := left, line := c.line + n, found := (h.number, word) :: c.found }

/-! ### Tokens -/

/-- The kind of a redirection behind its first character. -/
def readKind (c : Char) : Reader RedirectKind := do
  let next ← look
  let take (kind : RedirectKind) : Reader RedirectKind := do
    advance
    return kind
  if c = '>' then
    match next with
    | some '>' => take (.file .append)
    | some '|' => take (.file .replace)
    | some '&' => take (.copy 1)
    | _ => return .file .write
  else
    match next with
    | some '<' =>
      advance
      if (← look) = some '-' then take (.here true) else return .here false
    | some '&' => take (.copy 0)
    | some '>' => take (.file .both)
    | _ => return .file .read

/-- Drops gaps and a remark. -/
def skipGaps : Nat → Reader Unit
  | 0 => pure ()
  | fuel + 1 => do
    match ← look with
    | some c =>
      if isGap c then
        advance
        skipGaps fuel
      else if c = '#' then
        modify fun c => { c with rest := c.rest.dropWhile (· ≠ '\n') }
      else pure ()
    | none => pure ()

/-- A sign of one character, or of two if it is doubled. -/
def readSign (c : Char) (canDouble : Bool) : Reader Token := do
  advance
  if canDouble && (← look) = some c then
    advance
    return .sign (String.ofList [c, c])
  else return .sign (String.ofList [c])

/-- The next token of the text; without `expands`, a word is read as it is written. -/
def readToken (inner : Inner) (fuel : Nat) (expands : Bool) : Reader Token := do
  match (← get).pushed with
  | some t =>
    modify fun c => { c with pushed := none }
    return t
  | none =>
    skipGaps (fuel + (← get).rest.length)
    match ← look with
    | none => return .ended
    | some '\n' =>
      advance
      return .newline
    | some c =>
      if "&|;".toList.contains c then readSign c true
      else if "()".toList.contains c then readSign c false
      else
        let w ← readPieces inner (fuel + (← get).rest.length) (.ofWord expands)
        let next ← look
        if next = some '<' || next = some '>' then
          let sign := next.getD '<'
          let redirect (descriptor : Option Nat) : Reader Token := do
            advance
            return .redirect descriptor (← readKind sign)
          match w with
          | [] => redirect none
          | [.text false [d]] =>
            if d.isDigit then redirect (some (d.toNat - 48)) else return .word w
          | _ => return .word w
        else return .word w

end TestImpact.Child.Shell
