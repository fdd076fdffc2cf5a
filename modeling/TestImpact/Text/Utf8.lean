import TestImpact.Text.Digits

/-!
# UTF-8

Decoding bytes as text. Bytes that are no text are refused with the place of the first ones and the
reason, or replaced one ill-formed sequence at a time.
-/

namespace TestImpact.Text

/-- Why bytes are no text: their first and last position, the first of them, and the reason. -/
structure Utf8Defect where
  first : Nat
  last : Nat
  byte : UInt8
  reason : String
  deriving DecidableEq, Repr, Inhabited

/-- Whether the bytes end within a character. -/
def Utf8Defect.isCut (d : Utf8Defect) : Bool := d.reason = "unexpected end of data"

def Utf8Defect.message (d : Utf8Defect) : String :=
  if d.first == d.last then
    let byte := String.ofList (hexDigits 2 d.byte.toNat)
    s!"'utf-8' codec can't decode byte 0x{byte} in position {d.first}: {d.reason}"
  else s!"'utf-8' codec can't decode bytes in position {d.first}-{d.last}: {d.reason}"

/-- What a first byte announces: the number of bytes that follow and the range of the next one. -/
structure Utf8Lead where
  more : Nat
  low : UInt8
  high : UInt8
  bits : Nat

def utf8Lead? (b : UInt8) : Option Utf8Lead :=
  if b < 0x80 then some ⟨0, 0, 0, b.toNat⟩
  else if b < 0xC2 then none
  else if b < 0xE0 then some ⟨1, 0x80, 0xBF, b.toNat - 0xC0⟩
  else if b < 0xF0 then
    some ⟨2, if b == 0xE0 then 0xA0 else 0x80, if b == 0xED then 0x9F else 0xBF, b.toNat - 0xE0⟩
  else if b < 0xF5 then
    some ⟨3, if b == 0xF0 then 0x90 else 0x80, if b == 0xF4 then 0x8F else 0xBF, b.toNat - 0xF0⟩
  else none

/-- The result of reading one character. -/
inductive Utf8Step where
  | char (c : Char) (rest : List UInt8)
  /-- The first `length` bytes are no character and no start of one; `rest` follows them. -/
  | bad (length : Nat) (rest : List UInt8)
  /-- The bytes, `length` in number, end within a character. -/
  | cut (length : Nat)

/-- Reads the bytes that follow the first of a character, where `taken` counts those before. -/
def utf8Tail (bits taken : Nat) : Nat → UInt8 → UInt8 → List UInt8 → Utf8Step
  | 0, _, _, rest => .char (Char.ofNat bits) rest
  | _ + 1, _, _, [] => .cut taken
  | more + 1, low, high, b :: rest =>
    if low ≤ b && b ≤ high then
      utf8Tail (bits * 64 + (b.toNat - 0x80)) (taken + 1) more 0x80 0xBF rest
    else .bad taken (b :: rest)

def utf8Step (b : UInt8) (rest : List UInt8) : Utf8Step :=
  match utf8Lead? b with
  | some lead => utf8Tail lead.bits 1 lead.more lead.low lead.high rest
  | none => .bad 1 rest

/-- The reason why a byte cannot be read. -/
def utf8Reason (b : UInt8) : String :=
  if (utf8Lead? b).isSome then "invalid continuation byte" else "invalid start byte"

/-- Decodes from a position on; the first argument bounds the number of characters. -/
def decodeFrom : Nat → Nat → List UInt8 → Except Utf8Defect (List Char)
  | 0, _, _ => .ok []
  | _ + 1, _, [] => .ok []
  | n + 1, pos, b :: rest =>
    match utf8Step b rest with
    | .char c after => (decodeFrom n (pos + (rest.length + 1 - after.length)) after).map (c :: ·)
    | .bad length _ => .error ⟨pos, pos + length - 1, b, utf8Reason b⟩
    | .cut length => .error ⟨pos, pos + length - 1, b, "unexpected end of data"⟩

/-- The text that bytes encode. -/
def decode (bytes : List UInt8) : Except Utf8Defect String :=
  (decodeFrom bytes.length 0 bytes).map String.ofList

/-- The text that bytes encode, with a replacement character for what is no text. -/
def decodeLossyFrom : Nat → List UInt8 → List Char
  | 0, _ => []
  | _ + 1, [] => []
  | n + 1, b :: rest =>
    match utf8Step b rest with
    | .char c after => c :: decodeLossyFrom n after
    | .bad _ after => '\uFFFD' :: decodeLossyFrom n after
    | .cut _ => ['\uFFFD']

def decodeLossy (bytes : List UInt8) : String :=
  String.ofList (decodeLossyFrom bytes.length bytes)

def encode (s : String) : List UInt8 := s.toUTF8.toList

end TestImpact.Text
