/-!
# The longest integer

Only integers up to a number of decimal digits are written as texts and read from them, so that no
text takes too long to make. Whoever runs the program sets the number, or lifts the limit.
-/

namespace TestImpact.Number

/-- The most decimal digits of an integer that has a text; `none` is no limit. -/
abbrev DigitLimit := Option Nat

namespace DigitLimit

/-- The limit that holds unless another one is set. -/
def standard : DigitLimit := some 4300

/-- Whether an integer has a text; its sign does not count. -/
def writes (limit : DigitLimit) (n : Int) : Bool := limit.all fun most => n.natAbs < Nat.pow 10 most

/-- Whether a number of digits is read as an integer, zeros in front included. -/
def reads (limit : DigitLimit) (digits : Nat) : Bool := limit.all (digits ≤ ·)

/-- The complaint about an integer that has no text. -/
def writingComplaint (limit : DigitLimit) : String :=
  s!"Exceeds the limit ({limit.getD 0} digits) for integer string conversion; " ++
    "use sys.set_int_max_str_digits() to increase the limit"

/-- The complaint about digits that are not read. -/
def readingComplaint (limit : DigitLimit) (digits : Nat) : String :=
  s!"Exceeds the limit ({limit.getD 0} digits) for integer string conversion: " ++
    s!"value has {digits} digits; use sys.set_int_max_str_digits() to increase the limit"

end DigitLimit

end TestImpact.Number
