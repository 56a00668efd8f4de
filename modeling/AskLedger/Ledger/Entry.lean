import AskLedger.Calendar.Moment
import AskLedger.Text.Blank
import AskLedger.Text.Lowercase

/-!
# Ledger entries

One entry is one movement of money: when it happened, what it was for, how much it was, and whether
it came in or went out. The amount itself carries no direction. An entry may recur at a fixed
frequency and may be booked on an account.
-/

namespace AskLedger

/-- Whether money comes in or goes out. -/
inductive Direction where
  /-- Money comes in. -/
  | income
  /-- Money goes out. -/
  | expense
  deriving DecidableEq, Repr

namespace Direction

/-- The code of a direction. -/
def code : Direction → String
  | income => "INCOME"
  | expense => "EXPENSE"

/-- The direction with a code, spelled exactly. -/
def ofCode? (s : String) : Option Direction :=
  [income, expense].find? fun d => d.code == s

/-- The direction that a text names, in any ASCII case and with any outer blanks. -/
def read? (s : String) : Option Direction :=
  ofCode? (String.ofList (Text.asciiUpper (Text.trim s.toList)))

end Direction

/-- How often a recurring entry comes back. -/
inductive Frequency where
  /-- Every day. -/
  | daily
  /-- Every week. -/
  | weekly
  /-- Every month. -/
  | monthly
  /-- Every year. -/
  | yearly
  deriving DecidableEq, Repr

namespace Frequency

/-- The code of a frequency. -/
def code : Frequency → String
  | daily => "DAILY"
  | weekly => "WEEKLY"
  | monthly => "MONTHLY"
  | yearly => "YEARLY"

/-- The frequency as it is shown. -/
def label : Frequency → String
  | daily => "Daily"
  | weekly => "Weekly"
  | monthly => "Monthly"
  | yearly => "Yearly"

/-- The frequency with a code, spelled exactly. -/
def ofCode? (s : String) : Option Frequency :=
  [daily, weekly, monthly, yearly].find? fun f => f.code == s

/-- The frequency that a text names, in any ASCII case and with any outer blanks. -/
def read? (s : String) : Option Frequency :=
  ofCode? (String.ofList (Text.asciiUpper (Text.trim s.toList)))

end Frequency

/-- The account that an entry is booked on. -/
structure Account where
  /-- What the account is called. -/
  name : String
  /-- What sort of account it is. -/
  kind : String
  deriving DecidableEq, Repr

/-- An entry of a ledger. -/
structure Entry where
  /-- What identifies the entry. -/
  id : String
  /-- When it happened. -/
  date : Moment
  /-- What it was for. -/
  description? : Option String := none
  /-- The label it is filed under. -/
  category? : Option String := none
  /-- How much money moved. -/
  amount : Float
  /-- Whether it came in or went out. -/
  direction : Direction
  /-- Whether it comes back. -/
  isRecurring : Bool := false
  /-- How often it comes back. -/
  frequency? : Option Frequency := none
  /-- The account it is booked on. -/
  account? : Option Account := none

namespace Entry

/-- The label of entries that are filed under none. -/
def uncategorized : String := "Uncategorized"

/-- The label that an entry is filed under; a blank label counts as none. -/
def category (e : Entry) : String :=
  match e.category? with
  | some label => if Text.isAllBlank label.toList then uncategorized else label
  | none => uncategorized

/-- What the entry was for; empty if nothing is said. -/
def description (e : Entry) : String :=
  e.description?.getD ""

/-- The day of the entry. -/
def day (e : Entry) : Date := e.date.date

/-- The entry filed under a label. -/
def filedUnder (e : Entry) (label : String) : Entry :=
  { e with category? := some label }

/-- The entry coming back at a frequency. -/
def recurring (e : Entry) (frequency : Frequency) : Entry :=
  { e with isRecurring := true, frequency? := some frequency }

/-- The entry booked on an account. -/
def bookedOn (e : Entry) (account : Account) : Entry :=
  { e with account? := some account }

end Entry

theorem Direction.ofCode?_code (d : Direction) : Direction.ofCode? d.code = some d := by
  cases d <;> decide

theorem Frequency.ofCode?_code (f : Frequency) : Frequency.ofCode? f.code = some f := by
  cases f <;> decide

end AskLedger
