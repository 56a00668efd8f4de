import AskLedger.Ledger.Line
import AskLedger.Question.Answer

/-!
# Answers as text for a model

An answer told in plain lines, so that a language model can talk about it: the totals and the rows
that are shown, or the months of a year. Nothing is told about a message that does not concern the
ledger.
-/

namespace AskLedger

namespace Answer

/-- What is said when no entry matches. -/
def nothingFoundNotice : String := "No transactions found for this period."

/-- The span of a summary, told after the totals. -/
def toldSpan (s : Summary) : String :=
  match s.first?, s.last? with
  | some first, some last => ", from " ++ first.date.written ++ " to " ++ last.date.written
  | _, _ => ""

/-- The first line about rows in detail. -/
def detailHeading (s : Summary) : String :=
  "Matching transactions: " ++ toString s.count ++ ", total " ++ rupees s.total ++ toldSpan s
    ++ ".\n"

/-- The line that says how many rows are shown; none if all are. -/
def cutNotice (rows : List Entry) (s : Summary) : String :=
  if rows.length < s.count then "Showing the first " ++ toString rows.length ++ ":\n" else ""

/-- Rows in detail. -/
def toldDetail (rows : List Entry) (s : Summary) : String :=
  Text.trimmedEnd (detailHeading s ++ cutNotice rows s
    ++ String.join (rows.map fun e => "- " ++ e.line ++ "\n"))

/-- A month of a year. -/
def toldMonth (m : MonthTotal) : String :=
  "- " ++ m.name ++ ": " ++ toString m.count ++ " transactions, " ++ rupees m.total ++ "\n"

/-- A year, month by month. -/
def toldYear (r : Rollup) : String :=
  Text.trimmedEnd ("Year " ++ toString r.year ++ " summary: " ++ toString r.count
    ++ " transactions, total " ++ rupees r.total ++ ".\n" ++ String.join (r.months.map toldMonth))

/-- The text that tells an answer. -/
def told? : Answer → Option String
  | notAboutLedger => none
  | nothingFound => some nothingFoundNotice
  | found (.detail d) s => some (toldDetail d.rows s)
  | found (.year y) _ => some (toldYear y.rollup)

end Answer

end AskLedger
