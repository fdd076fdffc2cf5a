import TestImpact.Child.Utility.Printing
import TestImpact.Child.Utility.Program

/-!
# Sleeping

`sleep` lets time pass. Its times have units, and are added up.
-/

namespace TestImpact.Child.Utility

/-- A time in microseconds from a number of seconds, minutes, hours or days; `none` inside stands
for all time. -/
def duration? (s : Raw) : Option (Option Nat) :=
  let scale? : Option Nat :=
    match s.getLast? with
    | some 's' => some 1
    | some 'm' => some 60
    | some 'h' => some 3600
    | some 'd' => some 86400
    | _ => none
  let digits := if scale?.isSome then s.dropLast else s
  match Printing.readReal digits with
  | some (x, []) =>
    if x.isNaN || (x.isNegative && !x.isZero) then none
    else if x.isInfinite then some none
    else
      let (num, den) := x.ratio
      some (some (num * 1000000 * scale?.getD 1 / den))
  | _ => none

def runSleep (name : Raw) (arguments : List Raw) : Action Unit := do
  if arguments.isEmpty then misuse name 1 "missing operand"
  match arguments.find? fun a => (duration? a).isNone with
  | some bad => misuse name 1 ("invalid time interval " ++ quoted bad)
  | none =>
    match arguments.mapM fun a => (duration? a).join with
    | some times => do
      pass (times.foldl (· + ·) 0)
      setStatus 0
    | none => waitForever

end TestImpact.Child.Utility
