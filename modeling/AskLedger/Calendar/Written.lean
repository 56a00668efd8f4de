import AskLedger.Calendar.Moment

/-!
# Written dates and moments

Dates are written `YYYY-MM-DD` and moments `YYYY-MM-DDTHH:MM:SS`, a leap second as second 60. Years
from 0 to 9999 have four digits; all others carry a sign in front of at least four. Where fractions
of a second are written they have three, six or nine digits, as few as hold them.
-/

namespace AskLedger

/-- A number in decimal, filled up with zeros to at least `width` digits. -/
def padded (width n : Nat) : String :=
  let digits := toString n
  String.ofList (List.replicate (width - digits.length) '0') ++ digits

/-- A year: four digits, or a sign and at least four. -/
def writtenYear (year : Int) : String :=
  if 0 ≤ year ∧ year ≤ 9999 then padded 4 year.natAbs
  else (if year < 0 then "-" else "+") ++ padded 4 year.natAbs

/-- The date as `YYYY-MM-DD`. -/
def Date.written (d : Date) : String :=
  writtenYear d.year ++ "-" ++ padded 2 d.month ++ "-" ++ padded 2 d.day

namespace Moment

/-- The time of day as `HH:MM:SS`. -/
def clock (m : Moment) : String :=
  padded 2 m.hour ++ ":" ++ padded 2 m.minute ++ ":" ++ padded 2 m.shownSecond

/-- The moment to the second. -/
def written (m : Moment) : String :=
  m.date.written ++ "T" ++ m.clock

/-- A fraction of a second, with its point, in three, six or nine digits; nothing for zero. -/
def fraction (nano : Nat) : String :=
  if nano = 0 then ""
  else if nano % 1000000 = 0 then "." ++ padded 3 (nano / 1000000)
  else if nano % 1000 = 0 then "." ++ padded 6 (nano / 1000)
  else "." ++ padded 9 nano

/-- The moment with its fraction of a second. -/
def writtenInFull (m : Moment) : String :=
  m.written ++ fraction m.shownNano

end Moment

end AskLedger
