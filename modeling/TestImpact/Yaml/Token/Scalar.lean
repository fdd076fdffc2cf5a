import TestImpact.Number.Limit
import TestImpact.Text.Utf8
import TestImpact.Yaml.Cursor
import TestImpact.Yaml.Token.Basic

/-!
# Scalars and names in YAML

Reading the tokens that hold text: plain, quoted and block scalars, names of anchors, tags and
directives. Each reader starts at the first character of its token and gives the place after it.
-/

namespace TestImpact.Yaml

open Cursor

/-- What was read, with the place after it. -/
abbrev At (α : Type) := α × Cursor

def isHexDigit (c : Char) : Bool :=
  ('0' ≤ c && c ≤ '9') || ('A' ≤ c && c ≤ 'F') || ('a' ≤ c && c ≤ 'f')

/-- The number that hexadecimal digits write. -/
def hexValue (digits : List Char) : Nat := (Text.natInBase? 16 digits).getD 0

/-! ### Quoted scalars -/

/-- What a letter after a backslash stands for. -/
def escapes : List (Char × Char) :=
  [('0', '\x00'), ('a', '\x07'), ('b', '\x08'), ('t', '\t'), ('\t', '\t'), ('n', '\n'),
   ('v', '\x0b'), ('f', '\x0c'), ('r', '\r'), ('e', '\x1b'), (' ', ' '), ('"', '"'),
   ('\\', '\\'), ('/', '/'), ('N', '\u0085'), ('_', '\u00a0'), ('L', '\u2028'),
   ('P', '\u2029')]

/-- The number of hexadecimal digits after a letter that is followed by a code point. -/
def escapeWidth? : Char → Option Nat
  | 'x' => some 2
  | 'u' => some 4
  | 'U' => some 8
  | _ => none

/-- The line breaks after the first one within a quoted scalar, with the blanks around them. -/
def quotedBreaks : Nat → List Char → Cursor → Except Defect (At (List Char))
  | 0, done, c => .ok (done, c)
  | n + 1, done, c =>
    if c.isDocumentMark then .error .malformed
    else
      let c := c.skipWhile fun ch => ch = ' ' || ch = '\t'
      if isBreak c.peek then
        let (text, c) := c.lineBreak
        quotedBreaks n (done ++ text) c
      else .ok (done, c)

/-- A break between two lines of a scalar: one line break becomes a space, and of several the first
is dropped. -/
def foldBreaks (first more : List Char) : List Char :=
  if first ≠ ['\n'] then first ++ more
  else if more.isEmpty then [' ']
  else more

/-- The character of a code point. A surrogate is none; U+FFFD stands for it. -/
def codePoint (digits : List Char) : Except Defect Char :=
  let n := hexValue digits
  if 0x7FFFFFFF < n then
    .error (.fault (.tooLarge "Python int too large to convert to C int"))
  else if 0x10FFFF < n then .error (.fault (.badValue "chr() arg not in range(0x110000)"))
  else if 0xD800 ≤ n && n < 0xE000 then .ok '\uFFFD'
  else .ok (Char.ofNat n)

/-- An escape in double quotes, from the character after the backslash on. -/
def quotedEscape (c : Cursor) : Except Defect (At (List Char)) :=
  let ch := c.peek
  match escapes.lookup ch with
  | some meant => .ok ([meant], c.next)
  | none =>
    match escapeWidth? ch with
    | some width =>
      let digits := c.next.rest.take width
      if digits.length = width && digits.all isHexDigit then do
        let meant ← codePoint digits
        .ok ([meant], c.next.forward width)
      else .error .malformed
    | none =>
      if isBreak ch then
        let c := c.lineBreak.2
        quotedBreaks (c.rest.length + 1) [] c
      else .error .malformed

/-- A quoted scalar up to its closing quote, where `done` is what was read; the first argument
bounds the number of steps. -/
def quotedRest (double : Bool) : Nat → List Char → Cursor → Except Defect (At (List Char))
  | 0, _, _ => .error .malformed
  | n + 1, done, c =>
    let ch := c.peek
    if ch = '\x00' then .error .malformed
    else if ch = ' ' || ch = '\t' || isBreak ch then
      let (blanks, c) := c.takeWhile fun ch => ch = ' ' || ch = '\t'
      if isBreak c.peek then
        let (first, c) := c.lineBreak
        match quotedBreaks (c.rest.length + 1) [] c with
        | .ok (more, c) => quotedRest double n (done ++ foldBreaks first more) c
        | .error e => .error e
      else quotedRest double n (done ++ blanks) c
    else if double && ch = '"' then .ok (done, c.next)
    else if !double && ch = '\'' then
      if c.peekAt 1 = '\'' then quotedRest double n (done ++ ['\'']) (c.forward 2)
      else .ok (done, c.next)
    else if double && ch = '\\' then
      match quotedEscape c.next with
      | .ok (text, c) => quotedRest double n (done ++ text) c
      | .error e => .error e
    else
      let (text, c) := c.takeWhile fun ch =>
        !(isBlankOrEnd ch || ch = (if double then '"' else '\'') || (double && ch = '\\'))
      quotedRest double n (done ++ text) c

def quotedScalar (c : Cursor) : Except Defect (At String) :=
  match quotedRest (c.peek = '"') (c.rest.length + 1) [] c.next with
  | .ok (text, c) => .ok (String.ofList text, c)
  | .error e => .error e

/-! ### Plain scalars -/

/-- Whether a plain scalar ends at the first of two characters. -/
def endsPlain (flow : Bool) (ch after : Char) : Bool :=
  isBlankOrEnd ch ||
    (ch = ':' && (isBlankOrEnd after || (flow && (after = ',' || after = '[' || after = ']' ||
      after = '\x7b' || after = '\x7d')))) ||
    (flow && (ch = ',' || ch = '?' || ch = '[' || ch = ']' || ch = '\x7b' || ch = '\x7d'))

/-- The number of characters up to the end of a part of a plain scalar. -/
def plainLength (flow : Bool) : List Char → Nat
  | [] => 0
  | ch :: rest => if endsPlain flow ch (rest.headD '\x00') then 0 else plainLength flow rest + 1

/-- The line breaks after the first one within a plain scalar; `none` at a document mark. -/
def plainBreaks : Nat → List Char → Cursor → Option (List Char) × Cursor
  | 0, done, c => (some done, c)
  | n + 1, done, c =>
    if c.peek = ' ' then plainBreaks n done c.next
    else if isBreak c.peek then
      let (text, c) := c.lineBreak
      if c.isDocumentMark then (none, c) else plainBreaks n (done ++ text) c
    else (some done, c)

/-- What stands between two parts of a plain scalar, and whether a line was ended. Nothing stands
where the scalar ends. -/
def plainGap (c : Cursor) : List Char × Bool × Cursor :=
  let (spaces, c) := c.takeWhile (· = ' ')
  if isBreak c.peek then
    let (first, c) := c.lineBreak
    if c.isDocumentMark then ([], true, c)
    else
      match plainBreaks (c.rest.length + 1) [] c with
      | (some more, c) => (foldBreaks first more, true, c)
      | (none, c) => ([], true, c)
  else (spaces, false, c)

/-- A plain scalar from `gap` on, and whether it ends a line. -/
def plainRest (flow : Bool) (indent : Int) :
    Nat → List Char → List Char → Bool → Cursor → List Char × Bool × Cursor
  | 0, done, _, ended, c => (done, ended, c)
  | n + 1, done, gap, ended, c =>
    let length := if c.peek = '#' then 0 else plainLength flow c.rest
    if length = 0 then (done, ended, c)
    else
      let done := done ++ gap ++ c.rest.take length
      let (gap, ended, c) := plainGap (c.forward length)
      if gap.isEmpty || c.peek = '#' || (!flow && (c.column : Int) < indent) then (done, ended, c)
      else plainRest flow indent n done gap ended c

/-- A plain scalar in a block of some indentation, and whether a line ends behind it. -/
def plainScalar (flow : Bool) (indent : Int) (c : Cursor) : String × Bool × Cursor :=
  let (text, ended, c) := plainRest flow (indent + 1) (c.rest.length + 1) [] [] false c
  (String.ofList text, ended, c)

/-! ### Block scalars -/

/-- What happens to the line breaks at the end of a block scalar. -/
inductive Chomping where
  | clip
  | strip
  | keep
  deriving DecidableEq, Repr

def chomping? : Char → Option Chomping
  | '+' => some .keep
  | '-' => some .strip
  | _ => none

def indentDigit? (c : Char) : Option Nat :=
  if '0' ≤ c && c ≤ '9' then some (c.toNat - 48) else none

/-- A digit for the indentation, if one stands here; it is not zero. -/
def blockIndent (c : Cursor) : Except Defect (At (Option Nat)) :=
  match indentDigit? c.peek with
  | none => .ok (none, c)
  | some 0 => .error .malformed
  | some n => .ok (some n, c.next)

/-- The signs after the start of a block scalar, in either order. -/
def blockHeader (c : Cursor) : Except Defect (At (Chomping × Option Nat)) := do
  let (signs, c) ←
    match chomping? c.peek with
    | some chomping => do
      let (indent, c) ← blockIndent c.next
      .ok ((chomping, indent), c)
    | none => do
      let (indent, c) ← blockIndent c
      match indent.bind fun _ => chomping? c.peek with
      | some chomping => .ok ((chomping, indent), c.next)
      | none => .ok ((.clip, indent), c)
  if isGapOrEnd c.peek then .ok (signs, c) else .error .malformed

/-- Empty lines before the first line of a block scalar, and the widest indentation among them. -/
def blockLead : Nat → List Char → Nat → Cursor → List Char × Nat × Cursor
  | 0, done, width, c => (done, width, c)
  | n + 1, done, width, c =>
    if c.peek = ' ' then blockLead n done (max width c.next.column) c.next
    else if isBreak c.peek then
      let (text, c) := c.lineBreak
      blockLead n (done ++ text) width c
    else (done, width, c)

def skipIndent (indent : Nat) (c : Cursor) : Cursor :=
  c.forward (min (indent - c.column) (c.rest.takeWhile (· = ' ')).length)

/-- Empty lines between the lines of a block scalar. -/
def blockBreaks (indent : Nat) : Nat → List Char → Cursor → List Char × Cursor
  | 0, done, c => (done, c)
  | n + 1, done, c =>
    let c := skipIndent indent c
    if isBreak c.peek then
      let (text, c) := c.lineBreak
      blockBreaks indent n (done ++ text) c
    else (done, c)

def isSpaceOrTab (c : Char) : Bool := c = ' ' || c = '\t'

/-- The lines of a block scalar: its text, the last line break, the breaks after it, and the place.
In a folded scalar a break between two lines that do not start with a blank becomes a space. -/
def blockLines (folded : Bool) (indent : Nat) :
    Nat → List Char → List Char → List Char → Cursor → List Char × List Char × List Char × Cursor
  | 0, done, last, breaks, c => (done, last, breaks, c)
  | n + 1, done, last, breaks, c =>
    if c.column = indent && c.peek ≠ '\x00' then
      let flush := !isSpaceOrTab c.peek
      let (line, c) := c.takeWhile fun ch => !isBreakOrEnd ch
      let done := done ++ breaks ++ line
      let (last, c) := c.lineBreak
      let (breaks, c) := blockBreaks indent (c.rest.length + 1) [] c
      if c.column = indent && c.peek ≠ '\x00' then
        let joint :=
          if folded && last = ['\n'] && flush && !isSpaceOrTab c.peek then
            (if breaks.isEmpty then [' '] else [])
          else last
        blockLines folded indent n (done ++ joint) last breaks c
      else (done, last, breaks, c)
    else (done, last, breaks, c)

/-- A block scalar in a block of some indentation. -/
def blockScalar (indent : Int) (c : Cursor) : Except Defect (At String) := do
  let folded := c.peek = '>'
  let ((chomping, increment), c) ← blockHeader c.next
  let c ← c.endLine
  let least := (max (indent + 1) 1).toNat
  let (breaks, indent, c) :=
    match increment with
    | some n =>
      let (breaks, c) := blockBreaks (least + n - 1) (c.rest.length + 1) [] c
      (breaks, least + n - 1, c)
    | none =>
      let (breaks, width, c) := blockLead (c.rest.length + 1) [] 0 c
      (breaks, max least width, c)
  let (text, last, breaks, c) := blockLines folded indent (c.rest.length + 1) [] [] breaks c
  let tail :=
    match chomping with
    | .strip => []
    | .clip => last
    | .keep => last ++ breaks
  .ok (String.ofList (text ++ tail), c)

/-! ### Names -/

/-- A name of an anchor, after its sign. -/
def anchorName (c : Cursor) : Except Defect (At String) :=
  let (name, c) := c.takeWhile isWordChar
  if name.isEmpty then .error .malformed
  else if isBlankOrEnd c.peek || "?:,]\x7d%@\x60".toList.contains c.peek then
    .ok (String.ofList name, c)
  else .error .malformed

def isUriChar (c : Char) : Bool :=
  isAlnum c || "-;/?:@&=+$,_.!~*'()[]".toList.contains c

/-- The bytes that signs of percent and two digits write from here on. -/
def uriBytes : Nat → List UInt8 → Cursor → Except Defect (At (List UInt8))
  | 0, done, c => .ok (done, c)
  | n + 1, done, c =>
    if c.peek = '%' then
      let digits := c.next.rest.take 2
      if digits.length = 2 && digits.all isHexDigit then
        uriBytes n (done ++ [UInt8.ofNat (hexValue digits)]) (c.forward 3)
      else .error .malformed
    else .ok (done, c)

/-- The rest of a tag; the first argument bounds the number of its parts. -/
def uriRest : Nat → List Char → Cursor → Except Defect (At (List Char))
  | 0, done, c => .ok (done, c)
  | n + 1, done, c =>
    if c.peek = '%' then
      match uriBytes (c.rest.length + 1) [] c with
      | .ok (bytes, c) =>
        match Text.decode bytes with
        | .ok text => uriRest n (done ++ text.toList) c
        | .error _ => .error .malformed
      | .error e => .error e
    else
      let (text, c) := c.takeWhile isUriChar
      if text.isEmpty then .ok (done, c) else uriRest n (done ++ text) c

def tagUri (c : Cursor) : Except Defect (At String) :=
  match uriRest (c.rest.length + 1) [] c with
  | .ok (text, c') => if c'.index = c.index then .error .malformed else .ok (String.ofList text, c')
  | .error e => .error e

/-- A handle of tags: a name between two exclamation marks, or one mark before a space. -/
def tagHandle (c : Cursor) : Except Defect (At String) :=
  if c.peek ≠ '!' then .error .malformed
  else if c.peekAt 1 = ' ' then .ok ("!", c.next)
  else
    let (name, after) := c.next.takeWhile isWordChar
    if after.peek = '!' then .ok ("!" ++ String.ofList name ++ "!", after.next)
    else .error .malformed

/-- Whether an exclamation mark comes before the next gap. -/
def hasHandle (s : List Char) : Bool := (s.takeWhile fun ch => !isGapOrEnd ch).contains '!'

def tagToken (c : Cursor) : Except Defect (At Token) := do
  let ((handle, rest), c) ←
    if c.peekAt 1 = '<' then do
      let (uri, c) ← tagUri (c.forward 2)
      if c.peek = '>' then .ok ((none, uri), c.next) else .error .malformed
    else if isBlankOrEnd (c.peekAt 1) then .ok ((none, "!"), c.next)
    else if hasHandle c.next.rest then do
      let (handle, c) ← tagHandle c
      let (uri, c) ← tagUri c
      .ok ((some handle, uri), c)
    else do
      let (uri, c) ← tagUri c.next
      .ok ((some "!", uri), c)
  if isGapOrEnd c.peek then .ok (.tag handle rest, c) else .error .malformed

/-! ### Directives -/

def directiveNumber (limit : Number.DigitLimit) (c : Cursor) : Except Defect (At Nat) :=
  let (digits, c) := c.takeWhile Text.isAsciiDigit
  if digits.isEmpty then .error .malformed
  else if limit.reads digits.length then .ok (Text.natOfDigits digits, c)
  else .error (.fault (.badValue (limit.readingComplaint digits.length)))

def versionDirective (limit : Number.DigitLimit) (c : Cursor) :
    Except Defect (At Directive) := do
  let (major, c) ← directiveNumber limit c.skipSpaces
  if c.peek ≠ '.' then .error .malformed
  else
    let (minor, c) ← directiveNumber limit c.next
    if isGapOrEnd c.peek then .ok (.version major minor, c) else .error .malformed

def tagDirective (c : Cursor) : Except Defect (At Directive) := do
  let (handle, c) ← tagHandle c.skipSpaces
  if c.peek ≠ ' ' then .error .malformed
  else
    let (lead, c) ← tagUri c.skipSpaces
    if isGapOrEnd c.peek then .ok (.tagHandle handle lead, c) else .error .malformed

/-- A directive with its line, after its sign. -/
def directiveToken (limit : Number.DigitLimit) (c : Cursor) : Except Defect (At Token) := do
  let (name, c) := c.takeWhile isWordChar
  if name.isEmpty || !isGapOrEnd c.peek then .error .malformed
  else
    let (directive, c) ←
      if name = "YAML".toList then versionDirective limit c
      else if name = "TAG".toList then tagDirective c
      else .ok (.other, c.skipWhile fun ch => !isBreakOrEnd ch)
    let c ← c.endLine
    .ok (.directive directive, c)

end TestImpact.Yaml
