import TestImpact.Data.Basic
import TestImpact.Text.Digits

/-!
# Writing JSON

Values as JSON in ASCII: every other character is escaped by its code units. A layout says how items
are set apart, all on one line or each on a line of its own. JSON has no values that hold
themselves: where one is met again, null is written.
-/

namespace TestImpact.Json

/-- How items and members are set apart: on one line, or each on a line with this many spaces for
each level. -/
inductive Layout where
  | line
  | indented (width : Nat)
  deriving DecidableEq, Repr

def unit (n : Nat) : List Char := '\\' :: 'u' :: Text.hexDigits 4 n

def escaped (c : Char) : List Char :=
  let n := c.toNat
  if c = '"' || c = '\\' then ['\\', c]
  else if c = '\n' then ['\\', 'n']
  else if c = '\r' then ['\\', 'r']
  else if c = '\t' then ['\\', 't']
  else if c = '\x08' then ['\\', 'b']
  else if c = '\x0c' then ['\\', 'f']
  else if 0x20 ≤ n && n < 0x7F then [c]
  else if n < 0x10000 then unit n
  else unit (0xD800 + (n - 0x10000) / 0x400) ++ unit (0xDC00 + (n - 0x10000) % 0x400)

def writeText (s : String) : String :=
  String.ofList ('"' :: s.toList.flatMap escaped ++ ['"'])

def writeFloat (x : Binary64) : String :=
  if x.isNaN then "NaN"
  else if x.isInfinite then (if x.isNegative then "-Infinity" else "Infinity")
  else x.toText

def Layout.newline (layout : Layout) (depth : Nat) : String :=
  match layout with
  | .line => ""
  | .indented width => "\n" ++ String.ofList (List.replicate (width * depth) ' ')

def Layout.separator (layout : Layout) (depth : Nat) : String :=
  match layout with
  | .line => ", "
  | .indented _ => "," ++ layout.newline depth

/-- Parts between brackets; brackets with nothing between them stay together. -/
def Layout.enclose (layout : Layout) (depth : Nat) (opening closing : String)
    (parts : List String) : String :=
  if parts.isEmpty then opening ++ closing
  else
    opening ++ layout.newline (depth + 1) ++
      Text.joinText (layout.separator (depth + 1)) parts ++ layout.newline depth ++ closing

mutual

def writeAt (layout : Layout) (depth : Nat) : Data → String
  | .null => "null"
  | .bool true => "true"
  | .bool false => "false"
  | .int n => toString n
  | .float x => writeFloat x
  | .text s => writeText s
  | .list items => layout.enclose depth "[" "]" (writeItems layout (depth + 1) items)
  | .tuple items => layout.enclose depth "[" "]" (writeItems layout (depth + 1) items)
  | .map entries => layout.enclose depth "\x7b" "\x7d" (writeEntries layout (depth + 1) entries)
  | .bytes b => writeText (Data.bytes b).toNested
  | .path p => writeText (Data.path p).toNested
  | .date d => writeText d.toNested
  | .time t => writeText t.toNested
  | .set items => writeText (Data.set items).toNested
  | .knot _ value => writeAt layout depth value
  | .again .. => "null"

def writeItems (layout : Layout) (depth : Nat) : List Data → List String
  | [] => []
  | item :: items => writeAt layout depth item :: writeItems layout depth items

def writeEntries (layout : Layout) (depth : Nat) : List (Data × Data) → List String
  | [] => []
  | (key, value) :: entries =>
    (writeText key.toText ++ ": " ++ writeAt layout depth value) ::
      writeEntries layout depth entries

end

/-- A value as JSON. -/
def write (layout : Layout) (value : Data) : String := writeAt layout 0 value

end TestImpact.Json
