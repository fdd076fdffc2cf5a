import TestImpact.Data.Basic
import TestImpact.Number.Limit

/-!
# Values that have a text

A value has a text unless an integer in it is longer than integers may be.
-/

namespace TestImpact.Data

mutual

/-- Whether a value has a text. -/
def isWritten (limit : Number.DigitLimit) : Data → Bool
  | int n => limit.writes n
  | list items | tuple items | set items => areWritten limit items
  | map entries => areWrittenEntries limit entries
  | knot _ value => isWritten limit value
  | _ => true

def areWritten (limit : Number.DigitLimit) : List Data → Bool
  | [] => true
  | item :: items => isWritten limit item && areWritten limit items

def areWrittenEntries (limit : Number.DigitLimit) : List (Data × Data) → Bool
  | [] => true
  | (key, value) :: entries =>
    isWritten limit key && isWritten limit value && areWrittenEntries limit entries

end

end TestImpact.Data
