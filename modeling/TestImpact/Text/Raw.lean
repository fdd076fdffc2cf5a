import TestImpact.Text.Utf8

/-!
# Raw text

Programs see text as bytes, whatever they mean. Raw text has one character for each byte, so that a
byte can be looked at as a character where it is one, and otherwise is only passed on.
-/

namespace TestImpact

/-- Text with one character for each byte. -/
abbrev Raw := List Char

namespace Raw

def ofBytes (bytes : List UInt8) : Raw := bytes.map fun b => Char.ofNat b.toNat

def toBytes (r : Raw) : List UInt8 := r.map fun c => UInt8.ofNat c.toNat

def ofText (s : String) : Raw := ofBytes (Text.encode s)

/-- The text that the bytes encode, with a replacement character for what is no text. -/
def toText (r : Raw) : String := Text.decodeLossy r.toBytes

/-- Texts in one, with another text between them. -/
def join (sep : Raw) : List Raw → Raw
  | [] => []
  | [r] => r
  | r :: rest => r ++ sep ++ join sep rest

/-- The text without line ends at its end. -/
def dropLineEnds (r : Raw) : Raw := (r.reverse.dropWhile (· = '\n')).reverse

/-- The lines of a text, each with its line end; the last one may have none. -/
def lines : Raw → List Raw
  | [] => []
  | c :: r =>
    if c = '\n' then ['\n'] :: lines r
    else
      match lines r with
      | [] => [[c]]
      | line :: rest => (c :: line) :: rest

end Raw

end TestImpact
