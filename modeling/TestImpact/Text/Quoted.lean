import TestImpact.Text.Digits
import TestImpact.Text.Printable

/-!
# Quoted text

A text in quotes, as it stands in messages and in console lines. Single quotes are used unless the
text holds a single quote and no double quote; the quote in use and the backslash are escaped, and
so are characters that are not printable, by their code points.
-/

namespace TestImpact.Text

/-- The quote that is put around a text. -/
def quoteFor (s : List Char) : Char :=
  if s.contains '\'' && !s.contains '"' then '"' else '\''

/-- A character between quotes of the given kind. -/
def quotedChar (quote c : Char) : List Char :=
  let n := c.toNat
  if c = quote || c = '\\' then ['\\', c]
  else if c = '\n' then ['\\', 'n']
  else if c = '\r' then ['\\', 'r']
  else if c = '\t' then ['\\', 't']
  else if isPrintable c then [c]
  else if n < 0x100 then '\\' :: 'x' :: hexDigits 2 n
  else if n < 0x10000 then '\\' :: 'u' :: hexDigits 4 n
  else '\\' :: 'U' :: hexDigits 8 n

def quotedChars (s : List Char) : List Char :=
  let quote := quoteFor s
  quote :: s.flatMap (quotedChar quote) ++ [quote]

def quoted (s : String) : String := String.ofList (quotedChars s.toList)

/-- A byte string in quotes: every byte outside printable ASCII is escaped. -/
def quotedBytes (bytes : List UInt8) : String :=
  let chars := bytes.map fun b => Char.ofNat b.toNat
  let quote := quoteFor chars
  let shown := chars.flatMap fun c =>
    if c.toNat < 0x7F then quotedChar quote c else '\\' :: 'x' :: hexDigits 2 c.toNat
  String.ofList ('b' :: quote :: shown ++ [quote])

example : quoted "plain" = "'plain'" := by decide +kernel
example : quoted "it's" = "\"it's\"" := by decide +kernel
example : quoted "a\"b'c" = "'a\"b\\'c'" := by decide +kernel

end TestImpact.Text
