import AskLedger.Chat.Context
import AskLedger.Ledger.EntryJson
import AskLedger.Report.Table

/-!
# Answers for readers

The two forms of an answer outside of a conversation: tables with totals for a terminal, and JSON
for programs.
-/

namespace AskLedger

namespace Answer

/-- What is said about a message that does not concern the ledger. -/
def notAboutLedgerNotice : String := "That doesn't look like a question about your transactions."

/-- The frequency of an entry as it is shown. -/
def shownRecurrence (e : Entry) : String :=
  match e.recurrence? with
  | some f => f.label
  | none => if e.isRecurring then "Yes" else "One-time"

/-- The table of rows in detail. -/
def detailTable (rows : List Entry) : Table where
  header := ["Date", "Description", "Category", "Type", "Amount", "Recurring"]
  rows := rows.map fun e =>
    [e.day.written, e.description, e.category, e.direction.code, rupees e.amount,
     shownRecurrence e]

/-- How many rows are shown of how many. -/
def shownCount (d : Detail) : String :=
  if d.rows.length < d.count then
    "Showing " ++ toString d.rows.length ++ " of " ++ toString d.count ++ " transactions"
  else toString d.count ++ " transactions"

/-- The span of a summary, shown after the totals. -/
def shownSpan (s : Summary) : String :=
  match s.first?, s.last? with
  | some first, some last => " | " ++ first.date.written ++ " to " ++ last.date.written
  | _, _ => ""

/-- Rows in detail, with a line of totals. -/
def shownDetail (d : Detail) (s : Summary) : String :=
  (detailTable d.rows).drawn ++ "\n" ++ shownCount d ++ " | Total " ++ rupees d.total ++ shownSpan s

/-- The table of a year, month by month, with a row of totals. -/
def yearTable (r : Rollup) : Table where
  header := ["Month", "Transactions", "Total"]
  rows := (r.months.map fun m => [m.name, toString m.count, rupees m.total])
    ++ [["Total", toString r.count, rupees r.total]]

/-- A year, month by month. -/
def shownYear (r : Rollup) : String :=
  "Monthly summary for " ++ toString r.year ++ "\n" ++ (yearTable r).drawn

/-- The answer for a terminal, without a line feed at its end. -/
def shown : Answer → String
  | notAboutLedger => notAboutLedgerNotice
  | nothingFound => nothingFoundNotice
  | found (.detail d) s => shownDetail d s
  | found (.year y) _ => shownYear y.rollup

end Answer

/-! ## JSON -/

/-- The JSON form of a summary. -/
def Summary.toJson (s : Summary) : Json :=
  .object [
    ("count", .ofNat s.count),
    ("total", .ofFloat s.total),
    ("first", .ofText? (s.first?.map Moment.writtenInFull)),
    ("last", .ofText? (s.last?.map Moment.writtenInFull))]

/-- The JSON form of what was found. -/
def Payload.toJson : Payload → Json
  | year y =>
    .object [
      ("kind", .text "year-summary"),
      ("year", .ofInt y.year),
      ("transactions", .array (y.rows.map Entry.toJson))]
  | detail d =>
    .object [
      ("kind", .text "detail"),
      ("transactions", .array (d.rows.map Entry.toJson)),
      ("total", .ofFloat d.total),
      ("count", .ofNat d.count)]

/-- The JSON form of an answer. -/
def Answer.toJson : Answer → Json
  | notAboutLedger => .object [("status", .text "not-a-query")]
  | nothingFound => .object [("status", .text "no-data")]
  | found payload summary =>
    .object [
      ("status", .text "found"),
      ("payload", payload.toJson),
      ("summary", summary.toJson)]

end AskLedger
