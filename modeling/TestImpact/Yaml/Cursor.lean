import TestImpact.Fault

/-!
# A place in a YAML text

What is left of a text from a place on, with the line and column of the place. Lines end with a line
feed, a next line character, a line separator or a paragraph separator. Past the end a null
character is read, which no text holds.
-/

namespace TestImpact.Yaml

/-- Why a text has no value. -/
inductive Defect where
  /-- It is no YAML, or asks for values of an unknown kind. -/
  | malformed
  /-- A scalar has a kind but no value of it. -/
  | fault (f : Fault)
  deriving Inhabited

structure Cursor where
  rest : List Char
  index : Nat
  line : Nat
  column : Nat
  deriving Inhabited

def isBreak (c : Char) : Bool :=
  c = '\n' || c = '\u0085' || c = '\u2028' || c = '\u2029'

def isBreakOrEnd (c : Char) : Bool := c = '\x00' || isBreak c

/-- A space, a line break or the end. -/
def isGapOrEnd (c : Char) : Bool := c = ' ' || isBreakOrEnd c

/-- A space, a tab, a line break or the end. -/
def isBlankOrEnd (c : Char) : Bool := c = '\t' || isGapOrEnd c

def isAlnum (c : Char) : Bool :=
  ('0' ≤ c && c ≤ '9') || ('A' ≤ c && c ≤ 'Z') || ('a' ≤ c && c ≤ 'z')

def isWordChar (c : Char) : Bool := isAlnum c || c = '-' || c = '_'

namespace Cursor

def start (s : List Char) : Cursor := ⟨s, 0, 0, 0⟩

def peek (c : Cursor) : Char := c.rest.headD '\x00'

def peekAt (c : Cursor) (n : Nat) : Char := (c.rest[n]?).getD '\x00'

/-- One character further. A byte order mark takes no column. -/
def next (c : Cursor) : Cursor :=
  match c.rest with
  | [] => c
  | ch :: rest =>
    if isBreak ch then ⟨rest, c.index + 1, c.line + 1, 0⟩
    else ⟨rest, c.index + 1, c.line, if ch = '\uFEFF' then c.column else c.column + 1⟩

def forward : Nat → Cursor → Cursor
  | 0, c => c
  | n + 1, c => forward n c.next

/-- The characters of a class from here on, and the place after them. -/
def takeWhile (c : Cursor) (p : Char → Bool) : List Char × Cursor :=
  let taken := c.rest.takeWhile p
  (taken, c.forward taken.length)

def skipWhile (c : Cursor) (p : Char → Bool) : Cursor := (c.takeWhile p).2

def skipSpaces (c : Cursor) : Cursor := c.skipWhile (· = ' ')

/-- Skips a comment, if one starts here. -/
def skipComment (c : Cursor) : Cursor :=
  if c.peek = '#' then c.skipWhile fun ch => !isBreakOrEnd ch else c

/-- The text of the line break that stands here, if one does: separators stand for themselves and
all others for a line feed. -/
def lineBreak (c : Cursor) : List Char × Cursor :=
  let ch := c.peek
  if ch = '\n' || ch = '\u0085' then (['\n'], c.next)
  else if ch = '\u2028' || ch = '\u2029' then ([ch], c.next)
  else ([], c)

/-- Whether one of two marks of a document's end stands here: three dashes or three dots. -/
def isMark (c : Cursor) (mark : Char) : Bool :=
  c.peek = mark && c.peekAt 1 = mark && c.peekAt 2 = mark && isBlankOrEnd (c.peekAt 3)

def isDocumentMark (c : Cursor) : Bool := c.isMark '-' || c.isMark '.'

/-- Only spaces and a comment may stand up to the end of the line. -/
def endLine (c : Cursor) : Except Defect Cursor :=
  let c := c.skipSpaces.skipComment
  if isBreakOrEnd c.peek then .ok c.lineBreak.2 else .error .malformed

end Cursor

end TestImpact.Yaml
