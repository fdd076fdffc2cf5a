import TestImpact.Text.Split

/-!
# Dates and times of day

Dates of the proleptic calendar and times on them, with an optional offset from universal time. A
date or time is checked field by field, and the first field out of range is the reason why it is
refused.
-/

namespace TestImpact

/-- A calendar date. -/
structure Date where
  year : Nat
  month : Nat
  day : Nat
  deriving DecidableEq, Repr, Inhabited

/-- A time on a date; `offset` is in minutes east of universal time. -/
structure Timestamp where
  date : Date
  hour : Nat
  minute : Nat
  second : Nat
  microsecond : Nat
  offset : Option Int
  deriving DecidableEq, Repr, Inhabited

/-- Digits of a number, padded with zeros to a width. -/
def Text.padded (width n : Nat) : String :=
  let digits := Nat.toDigits 10 n
  String.ofList (List.replicate (width - digits.length) '0' ++ digits)

namespace Date

def isLeapYear (year : Nat) : Bool :=
  year % 4 == 0 && (year % 100 != 0 || year % 400 == 0)

def daysInMonth (year month : Nat) : Nat :=
  if month == 2 then (if isLeapYear year then 29 else 28)
  else if [4, 6, 9, 11].contains month then 30
  else 31

/-- Why there is no such date, if there is none. -/
def defect? (d : Date) : Option String :=
  if d.year < 1 || 9999 < d.year then some s!"year {d.year} is out of range"
  else if d.month < 1 || 12 < d.month then some "month must be in 1..12"
  else if d.day < 1 || daysInMonth d.year d.month < d.day then
    some "day is out of range for month"
  else none

/-- The number of days up to a date, from the first day of the calendar on. -/
def ordinal (d : Date) : Nat :=
  let years := d.year - 1
  let months := (List.range (d.month - 1)).map fun m => daysInMonth d.year (m + 1)
  365 * years + years / 4 - years / 100 + years / 400 + months.foldl (· + ·) 0 + d.day

def toText (d : Date) : String :=
  Text.joinText "-" [Text.padded 4 d.year, Text.padded 2 d.month, Text.padded 2 d.day]

/-- The form of a date inside a collection. -/
def toNested (d : Date) : String :=
  "datetime.date(" ++ Text.joinText ", " [toString d.year, toString d.month, toString d.day] ++ ")"

end Date

namespace Timestamp

/-- Why there is no such time, if there is none. -/
def defect? (t : Timestamp) : Option String :=
  (t.date.defect?).or <|
    if 23 < t.hour then some "hour must be in 0..23"
    else if 59 < t.minute then some "minute must be in 0..59"
    else if 59 < t.second then some "second must be in 0..59"
    else none

/-- Microseconds from the start of the calendar, in local time. -/
def sinceStart (t : Timestamp) : Int :=
  (((t.date.ordinal * 24 + t.hour) * 60 + t.minute) * 60 + t.second) * 1000000 + t.microsecond

/-- Equality of times: with offsets, the same instant counts; a time with an offset never equals one
without. -/
def same (t u : Timestamp) : Bool :=
  match t.offset, u.offset with
  | none, none => t.sinceStart == u.sinceStart
  | some x, some y => t.sinceStart - x * 60000000 == u.sinceStart - y * 60000000
  | _, _ => false

def offsetText (offset : Int) : String :=
  (if offset < 0 then "-" else "+") ++ Text.padded 2 (offset.natAbs / 60) ++ ":" ++
    Text.padded 2 (offset.natAbs % 60)

def toText (t : Timestamp) : String :=
  let fraction := if t.microsecond == 0 then "" else "." ++ Text.padded 6 t.microsecond
  let offset := (t.offset.map offsetText).getD ""
  let clock := [t.hour, t.minute, t.second].map (Text.padded 2)
  t.date.toText ++ " " ++ Text.joinText ":" clock ++ fraction ++ offset

/-- An offset inside a collection: whole days, which are negative to the west, and seconds. -/
def offsetNested (offset : Int) : String :=
  if offset == 0 then "datetime.timezone.utc"
  else
    let seconds := offset * 60
    let days := seconds.fdiv 86400
    let rest := seconds.fmod 86400
    let shownDays := if days == 0 then [] else ["days=" ++ toString days]
    let shownRest := if rest == 0 then [] else ["seconds=" ++ toString rest]
    "datetime.timezone(datetime.timedelta(" ++ Text.joinText ", " (shownDays ++ shownRest) ++ "))"

/-- The form of a time inside a collection: trailing zeros of seconds and fraction are left out. -/
def toNested (t : Timestamp) : String :=
  let fine :=
    if t.microsecond != 0 then [t.second, t.microsecond]
    else if t.second != 0 then [t.second]
    else []
  let numbers := [t.date.year, t.date.month, t.date.day, t.hour, t.minute] ++ fine
  let offset := (t.offset.map fun o => ["tzinfo=" ++ offsetNested o]).getD []
  "datetime.datetime(" ++ Text.joinText ", " (numbers.map toString ++ offset) ++ ")"

end Timestamp

end TestImpact
