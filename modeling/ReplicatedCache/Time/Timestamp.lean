/-
Moments of the wall clock as text, in universal time.

* `CivilDate.ofDays`: the date of a day counted from 1 January 1970;
* `Timestamp.text`: date and time with the fewest groups of three fraction digits that are exact.
-/
namespace ReplicatedCache

/-- A day of the Gregorian calendar. -/
structure CivilDate where
  year : Nat
  month : Nat
  day : Nat
  deriving DecidableEq, Repr

namespace CivilDate

/-- Days in 400 years. -/
def daysPerCycle : Nat := 146097

/-- Days between 1 March of the year 0 and 1 January 1970. -/
def epochOffset : Nat := 719468

/-- The date of a day counted from 1 January 1970. Years are taken to start in March, so that the
leap day is the last of its year. -/
def ofDays (days : Nat) : CivilDate :=
  let z := days + epochOffset
  let cycle := z / daysPerCycle
  let dayOfCycle := z % daysPerCycle
  let yearOfCycle :=
    (dayOfCycle - dayOfCycle / 1460 + dayOfCycle / 36524 - dayOfCycle / 146096) / 365
  let dayOfYear := dayOfCycle - (365 * yearOfCycle + yearOfCycle / 4 - yearOfCycle / 100)
  let march := (5 * dayOfYear + 2) / 153
  let day := dayOfYear - (153 * march + 2) / 5 + 1
  let month := if march < 10 then march + 3 else march - 9
  let year := 400 * cycle + yearOfCycle
  ⟨if month ≤ 2 then year + 1 else year, month, day⟩

end CivilDate

/-- A moment of the wall clock: seconds since the start of 1970, and nanoseconds of the second. -/
structure Timestamp where
  seconds : Nat
  nanos : Nat
  deriving DecidableEq, Repr

namespace Timestamp

/-- A number in at least `width` digits. -/
def padded (width n : Nat) : String :=
  let digits := n.repr
  String.ofList (List.replicate (width - digits.length) '0') ++ digits

/-- The fraction of a second, with as many of its three groups of digits as are needed. -/
def fraction (nanos : Nat) : String :=
  if nanos = 0 then ""
  else if nanos % 1000000 = 0 then "." ++ padded 3 (nanos / 1000000)
  else if nanos % 1000 = 0 then "." ++ padded 6 (nanos / 1000)
  else "." ++ padded 9 nanos

/-- A year, with a plus sign if it needs more than four digits. -/
def year (n : Nat) : String := if 9999 < n then "+" ++ n.repr else padded 4 n

/-- Date and time in universal time. -/
def text (t : Timestamp) : String :=
  let date := CivilDate.ofDays (t.seconds / 86400)
  let second := t.seconds % 86400
  year date.year ++ "-" ++ padded 2 date.month ++ "-" ++ padded 2 date.day ++ "T" ++
    padded 2 (second / 3600) ++ ":" ++ padded 2 (second / 60 % 60) ++ ":" ++
    padded 2 (second % 60) ++ fraction t.nanos ++ "+00:00"

end Timestamp

end ReplicatedCache
