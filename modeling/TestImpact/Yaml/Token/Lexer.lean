import TestImpact.Yaml.Token.Scalar

/-!
# Cutting a YAML text into tokens

Tokens are read one after another. Indentation opens and closes blocks, and a colon turns what
stands before it on its line into a key: the sign of the key is put in afterwards, in front of the
first token of the key. A place where a key may start is kept for each level of brackets.
-/

namespace TestImpact.Yaml

open Cursor

/-- A place where a key may have started: the number of tokens before it. A key that is `required`
has to be followed by a colon. -/
structure KeyPlace where
  tokensBefore : Nat
  required : Bool
  index : Nat
  line : Nat
  column : Nat
  deriving Inhabited

structure Lexer where
  cursor : Cursor
  /-- The tokens that were read, the last one first. -/
  tokens : List Token
  /-- The number of open brackets. -/
  flow : Nat
  /-- The indentation of the innermost block, and those of the blocks around it. -/
  indent : Int
  indents : List Int
  keyAllowed : Bool
  /-- The places of keys, by the number of brackets around them. -/
  keys : List (Nat × KeyPlace)
  digitLimit : Number.DigitLimit
  deriving Inhabited

/-- The number of characters that a key may take before its colon. -/
def maxKeyLength : Nat := 1024

namespace Lexer

def start (limit : Number.DigitLimit) (c : Cursor) : Lexer := ⟨c, [], 0, -1, [], true, [], limit⟩

def inFlow (l : Lexer) : Bool := l.flow != 0

def emit (t : Token) (l : Lexer) : Lexer := { l with tokens := t :: l.tokens }

def moveTo (c : Cursor) (l : Lexer) : Lexer := { l with cursor := c }

def allowKey (allowed : Bool) (l : Lexer) : Lexer := { l with keyAllowed := allowed }

/-- Puts a token in front of all but the first `before` tokens. -/
def insertAfter (before : Nat) (t : Token) (l : Lexer) : Lexer :=
  let after := l.tokens.length - before
  { l with tokens := l.tokens.take after ++ t :: l.tokens.drop after }

/-! ### Indentation -/

/-- Closes the blocks whose indentation is more than a column. -/
def unwindFrom (column : Int) : List Int → Lexer → Lexer
  | [], l => l
  | outer :: rest, l =>
    if column < l.indent then
      unwindFrom column rest
        { l with indent := outer, indents := rest, tokens := .blockEnd :: l.tokens }
    else l

def unwind (column : Int) (l : Lexer) : Lexer :=
  if l.inFlow then l else unwindFrom column l.indents l

/-- Whether a column is further in than the innermost block. -/
def opensBlock (column : Int) (l : Lexer) : Bool := l.indent < column

def addIndent (column : Int) (l : Lexer) : Lexer :=
  { l with indent := column, indents := l.indent :: l.indents }

/-! ### Places of keys -/

def forgetKey (l : Lexer) : Lexer := { l with keys := l.keys.filter (·.1 != l.flow) }

/-- Gives up the place of a key in these brackets. -/
def dropKey (l : Lexer) : Except Defect Lexer :=
  match l.keys.lookup l.flow with
  | some k => if k.required then .error .malformed else .ok l.forgetKey
  | none => .ok l

/-- Keeps the current place for a key, if one may start here. -/
def saveKey (l : Lexer) : Except Defect Lexer :=
  if l.keyAllowed then do
    let required := !l.inFlow && l.indent == (l.cursor.column : Int)
    let l ← l.dropKey
    let place : KeyPlace :=
      ⟨l.tokens.length, required, l.cursor.index, l.cursor.line, l.cursor.column⟩
    .ok { l with keys := (l.flow, place) :: l.keys }
  else .ok l

/-- Gives up the places of keys that are on another line or too far away. -/
def dropStale (l : Lexer) : Except Defect Lexer :=
  let stale (k : KeyPlace) : Bool :=
    k.line != l.cursor.line || decide (maxKeyLength < l.cursor.index - k.index)
  if l.keys.any fun (_, k) => stale k && k.required then .error .malformed
  else .ok { l with keys := l.keys.filter fun (_, k) => !stale k }

/-! ### Tokens -/

/-- Skips spaces, comments and line breaks. A key may start on a new line of a block. -/
def skipGaps : Nat → Lexer → Lexer
  | 0, l => l
  | n + 1, l =>
    let c := l.cursor.skipSpaces.skipComment
    if isBreak c.peek then
      skipGaps n { l with cursor := c.lineBreak.2, keyAllowed := l.keyAllowed || !l.inFlow }
    else { l with cursor := c }

def closeBlocks (l : Lexer) : Except Defect Lexer := do
  let l ← (l.unwind (-1)).dropKey
  .ok (l.allowKey false)

def documentMark (t : Token) (l : Lexer) : Except Defect Lexer := do
  let l ← l.closeBlocks
  .ok ((l.moveTo (l.cursor.forward 3)).emit t)

def openFlow (t : Token) (l : Lexer) : Except Defect Lexer := do
  let l ← l.saveKey
  .ok { l with
    cursor := l.cursor.next, flow := l.flow + 1, keyAllowed := true, tokens := t :: l.tokens }

def closeFlow (t : Token) (l : Lexer) : Except Defect Lexer := do
  let l ← l.dropKey
  .ok { l with
    cursor := l.cursor.next, flow := l.flow - 1, keyAllowed := false, tokens := t :: l.tokens }

/-- A single character that stands for a token. -/
def sign (t : Token) (keyAllowed : Bool) (l : Lexer) : Except Defect Lexer := do
  let l ← (l.allowKey keyAllowed).dropKey
  .ok ((l.moveTo l.cursor.next).emit t)

/-- Opens a block at the current column if that is further in; outside of brackets this needs a
place where a key may start. -/
def openBlock (t : Token) (l : Lexer) : Except Defect Lexer :=
  if l.inFlow then .ok l
  else if !l.keyAllowed then .error .malformed
  else if l.opensBlock l.cursor.column then .ok ((l.addIndent l.cursor.column).emit t)
  else .ok l

def blockEntry (l : Lexer) : Except Defect Lexer := do
  let l ← l.openBlock .blockListStart
  l.sign .blockEntry true

def explicitKey (l : Lexer) : Except Defect Lexer := do
  let l ← l.openBlock .blockMapStart
  l.sign .key (!l.inFlow)

/-- A colon: what stands at the saved place is the key, or else the key is empty. -/
def colon (l : Lexer) : Except Defect Lexer :=
  match l.keys.lookup l.flow with
  | some k =>
    let l := (l.forgetKey.insertAfter k.tokensBefore .key)
    let l :=
      if !l.inFlow && l.opensBlock k.column then
        (l.addIndent k.column).insertAfter k.tokensBefore .blockMapStart
      else l
    .ok (((l.allowKey false).moveTo l.cursor.next).emit .value)
  | none => do
    let l ← l.openBlock .blockMapStart
    l.sign .value (!l.inFlow)

/-- A token that may be the start of a key. -/
def keyStart (read : Cursor → Except Defect (At Token)) (l : Lexer) : Except Defect Lexer := do
  let l ← l.saveKey
  let (t, c) ← read l.cursor
  .ok ((l.allowKey false).moveTo c |>.emit t)

def plain (l : Lexer) : Except Defect Lexer := do
  let l ← l.saveKey
  let (text, ended, c) := plainScalar l.inFlow l.indent l.cursor
  .ok ((l.allowKey ended).moveTo c |>.emit (.scalar text true))

def block (l : Lexer) : Except Defect Lexer := do
  let l ← (l.allowKey true).dropKey
  let (text, c) ← blockScalar l.indent l.cursor
  .ok (l.moveTo c |>.emit (.scalar text false))

/-- The characters that start no plain scalar. -/
def indicators : List Char := "-?:,[]\x7b\x7d#&*!|>'\"%@\x60".toList

def startsPlain (l : Lexer) : Bool :=
  let c := l.cursor
  let ch := c.peek
  (!isBlankOrEnd ch && !indicators.contains ch) ||
    (!isBlankOrEnd (c.peekAt 1) && (ch = '-' || (!l.inFlow && (ch = '?' || ch = ':'))))

/-- Reads the token that starts at the current place, which is not the end. -/
def token (l : Lexer) : Except Defect Lexer :=
  let c := l.cursor
  let ch := c.peek
  let gapFollows := isBlankOrEnd (c.peekAt 1)
  if ch = '%' && c.column = 0 then do
    let l ← l.closeBlocks
    let (t, c) ← directiveToken l.digitLimit l.cursor.next
    .ok (l.moveTo c |>.emit t)
  else if c.column = 0 && c.isMark '-' then l.documentMark .documentStart
  else if c.column = 0 && c.isMark '.' then l.documentMark .documentEnd
  else if ch = '[' then l.openFlow .flowListStart
  else if ch = '\x7b' then l.openFlow .flowMapStart
  else if ch = ']' then l.closeFlow .flowListEnd
  else if ch = '\x7d' then l.closeFlow .flowMapEnd
  else if ch = ',' then l.sign .flowEntry true
  else if ch = '-' && gapFollows then l.blockEntry
  else if ch = '?' && (l.inFlow || gapFollows) then l.explicitKey
  else if ch = ':' && (l.inFlow || gapFollows) then l.colon
  else if ch = '*' then
    l.keyStart fun c => (anchorName c.next).map fun (name, c) => (.alias name, c)
  else if ch = '&' then
    l.keyStart fun c => (anchorName c.next).map fun (name, c) => (.anchor name, c)
  else if ch = '!' then l.keyStart tagToken
  else if (ch = '|' || ch = '>') && !l.inFlow then l.block
  else if ch = '\'' || ch = '"' then
    l.keyStart fun c => (quotedScalar c).map fun (text, c) => (.scalar text false, c)
  else if l.startsPlain then l.plain
  else .error .malformed

/-- Reads tokens up to the end; the first argument bounds their number. -/
def run : Nat → Lexer → Except Defect Lexer
  | 0, _ => .error .malformed
  | n + 1, l => do
    let l ← (l.skipGaps (l.cursor.rest.length + 1)).dropStale
    let l := l.unwind l.cursor.column
    if l.cursor.peek = '\x00' then
      let l ← l.closeBlocks
      .ok (l.emit .streamEnd)
    else
      let l ← l.token
      run n l

end Lexer

/-- Whether a character may stand in a YAML text. -/
def isAllowed (c : Char) : Bool :=
  let n := c.toNat
  n = 9 || n = 0xA || n = 0xD || (0x20 ≤ n && n ≤ 0x7E) || n = 0x85 || (0xA0 ≤ n && n ≤ 0xD7FF) ||
    (0xE000 ≤ n && n ≤ 0xFFFD) || 0x10000 ≤ n

/-- The tokens of a text, in order. A byte order mark in front is skipped. -/
def tokens (limit : Number.DigitLimit) (s : List Char) : Except Defect (List Token) :=
  if !s.all isAllowed then .error .malformed
  else
    let c := Cursor.start s
    let c := if c.peek = '\uFEFF' then c.next else c
    match (Lexer.start limit c).run (s.length + 2) with
    | .ok l => .ok l.tokens.reverse
    | .error e => .error e

end TestImpact.Yaml
