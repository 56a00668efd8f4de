import AskLedger.Calendar.Written
import AskLedger.Decimal.Fixed
import AskLedger.Ledger.Entry

/-!
# Entries as lines

An entry on a single line: its day, description, label, direction and amount, then its frequency if
it recurs at one and the name of its account if it has one.
-/

namespace AskLedger

namespace Entry

/-- The frequency of an entry that recurs at one. -/
def recurrence? (e : Entry) : Option Frequency :=
  if e.isRecurring then e.frequency? else none

/-- The entry on a single line. -/
def line (e : Entry) : String :=
  e.day.written ++ " | " ++ e.description ++ " | " ++ e.category ++ " | " ++ e.direction.code
    ++ " | " ++ rupees e.amount
    ++ (match e.recurrence? with | some f => " | recurring " ++ f.label | none => "")
    ++ (match e.account? with | some a => " | " ++ a.name | none => "")

end Entry

end AskLedger
