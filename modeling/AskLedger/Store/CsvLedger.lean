import AskLedger.Calendar.Layout
import AskLedger.Decimal.Reading
import AskLedger.Ledger.Entry
import AskLedger.Store.Csv
import AskLedger.Store.Error
import AskLedger.Text.Find

/-!
# Ledgers as comma separated values

One record for each entry, the entries of all users in one file. The first record names the columns;
their order is free and unknown ones are ignored. A record that is shorter than the first one does
not fit, and neither does any record if a required column is missing or a known one is named twice.
Empty optional fields count as absent.

All records have to fit, but only the records of the user in question have to mean something. The
records are read in order, and the first fault ends the reading.

* `CsvRow.isRecurring_of_frequency`: only entries that recur have a frequency.
-/

namespace AskLedger

/-- A record by its columns. -/
structure CsvRow where
  /-- Whose entry it is. -/
  user : String
  /-- What identifies the entry. -/
  id : String
  /-- When it happened. -/
  date : String
  /-- What it was for. -/
  description : String
  /-- The label it is filed under. -/
  category : String
  /-- How much money moved. -/
  amount : String
  /-- Whether it came in or went out. -/
  direction : String
  /-- Whether it comes back. -/
  isRecurring : String
  /-- How often it comes back. -/
  frequency : String
  /-- The name of the account. -/
  accountName : String
  /-- The sort of the account. -/
  accountKind : String
  deriving DecidableEq, Repr

namespace CsvRow

/-- The names of the columns, in their usual order. -/
def columns : List String :=
  ["user", "id", "date", "description", "category", "amount", "type", "is_recurring",
   "recurring_interval", "account_name", "account_type"]

/-- The row with these values in the usual order of columns. -/
def ofValues? : List (Option String) → Option CsvRow
  | [some user, some id, some date, description, category, some amount, some direction,
      isRecurring, frequency, accountName, accountKind] =>
    some
      { user, id, date, amount, direction
        description := description.getD ""
        category := category.getD ""
        isRecurring := isRecurring.getD ""
        frequency := frequency.getD ""
        accountName := accountName.getD ""
        accountKind := accountKind.getD "" }
  | _ => none

/-- The value of a column, if it is named at most once. -/
def valueOf? (named : List (String × String)) (column : String) : Option (Option String) :=
  match named.filter fun p => p.1 == column with
  | [] => some none
  | [p] => some (some p.2)
  | _ => none

/-- The row of a record whose columns are named. -/
def ofNamed? (names fields : List String) : Option CsvRow :=
  -- surplus fields have no column and are dropped
  if fields.length < names.length then none
  else (columns.mapM (valueOf? (names.zip fields))).bind ofValues?

/-- The row of a record whose columns are in the usual order. -/
def ofOrdered? (fields : List String) : Option CsvRow :=
  ofValues? ((List.range columns.length).map fun i => fields[i]?)

/-- A field without outer blanks; none if nothing is left. -/
def nonBlank? (field : String) : Option String :=
  let text := Text.trimmed field
  if text.isEmpty then none else some text

/-- The truth value of a field; an empty field is false. -/
def flag? (field : String) : Option Bool :=
  let word := String.ofList (Text.asciiLower (Text.trim field.toList))
  if ["", "false", "no", "0"].contains word then some false
  else if ["true", "yes", "1"].contains word then some true
  else none

/-- The amount of a field, without its sign. -/
def amount? (field : String) : Option Float :=
  (Decimal.read? (Text.without ',' (Text.trim field.toList))).map Float.abs

/-- The value of a field, or why there is none. -/
def orReason {α : Type} (value : Option α) (name field : String) : Except String α :=
  match value with
  | some a => .ok a
  | none => .error ("bad " ++ name ++ " '" ++ field ++ "'")

/-- The frequency of a field; a blank field has none. -/
def frequency? (field : String) : Except String (Option Frequency) :=
  match nonBlank? field with
  | none => .ok none
  | some word => (orReason (Frequency.read? word) "recurring_interval" word).map some

/-- The account of two fields; there is none without a name. -/
def account? (name kind : String) : Option Account :=
  (nonBlank? name).map fun n => ⟨n, Text.trimmed kind⟩

/-- The entry of a row, or why there is none. -/
def entry (r : CsvRow) : Except String Entry := do
  let date ← orReason (Moment.read? r.date.toList) "date" r.date
  let amount ← orReason (amount? r.amount) "amount" r.amount
  let direction ← orReason (Direction.read? r.direction) "type" r.direction
  let isRecurring ← orReason (flag? r.isRecurring) "is_recurring" r.isRecurring
  -- a frequency has to mean something even where it is not used
  let frequency? ← frequency? r.frequency
  return {
    id := Text.trimmed r.id
    date
    description? := nonBlank? r.description
    category? := nonBlank? r.category
    amount
    direction
    isRecurring
    frequency? := if isRecurring then frequency? else none
    account? := account? r.accountName r.accountKind }

/-- Whether a row belongs to a user, up to outer blanks in the row and ASCII case. -/
def isOf (r : CsvRow) (user : String) : Bool :=
  Text.sameUpToAsciiCase (Text.trimmed r.user) user

/-- Only entries that recur have a frequency. -/
theorem isRecurring_of_frequency {r : CsvRow} {e : Entry} (h : r.entry = .ok e)
    (hf : e.frequency? ≠ none) : e.isRecurring = true := by
  simp only [entry, bind, Except.bind, pure, Except.pure] at h
  repeat' split at h
  all_goals cases h
  · assumption
  · exact absurd rfl hf

end CsvRow

namespace CsvLedger

/-- The names of the columns, without outer blanks; none if one of them is no text. -/
def names? (record : List Csv.Field) : Option (List String) :=
  (Csv.texts? record).map fun names => names.map Text.trimmed

/-- The row of a record, by the names of the columns if there are any. -/
def row (names : Option (List String)) (record : List Csv.Field) : Except StoreError CsvRow :=
  match Csv.texts? record with
  | none => .error .recordEncoding
  | some fields =>
    -- a first record that is no text leaves the columns in their usual order
    let row? := match names with
      | some names => CsvRow.ofNamed? names fields
      | none => CsvRow.ofOrdered? fields
    match row? with
    | some r => .ok r
    | none => .error .recordShape

/-- The entries of a user among records; `line` is the number of the first of them. -/
def entriesFrom (names : Option (List String)) (user : String) (line : Nat) :
    List (List Csv.Field) → Except StoreError (List Entry)
  | [] => .ok []
  | record :: rest => do
    let r ← row names record
    if r.isOf user then
      match r.entry with
      | .ok e => return e :: (← entriesFrom names user (line + 1) rest)
      | .error reason => throw (.invalidRecord line reason)
    else entriesFrom names user (line + 1) rest

/-- The entries of a user in a file, in the order of the file. -/
def entriesOf (user : String) (bytes : List UInt8) : Except StoreError (List Entry) :=
  match Csv.records bytes with
  | [] => .ok []
  | header :: records => entriesFrom (names? header) user 2 records

end CsvLedger

end AskLedger
