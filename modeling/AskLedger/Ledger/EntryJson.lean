import AskLedger.Calendar.Layout
import AskLedger.Calendar.Written
import AskLedger.Json.Decode
import AskLedger.Ledger.Entry

/-!
# Entries as JSON

The JSON form of an entry. Its date is a text in one of the layouts of a timestamp and is written to
the second; directions and frequencies are given by their codes.
-/

namespace AskLedger

/-- The fields of an account, in their fixed order. -/
def Account.fieldNames : List String := ["name", "type"]

/-- Decodes an account. -/
def Account.ofJson (v : Json) : Except DecodeError Account := do
  let s ← v.slots fieldNames
  let name ← s.required 0 Json.asText
  let kind ← s.required 1 Json.asText
  return ⟨name, kind⟩

/-- The JSON form of an account. -/
def Account.toJson (a : Account) : Json :=
  .object [("name", .text a.name), ("type", .text a.kind)]

/-- Decodes a timestamp. -/
def Moment.ofJson (v : Json) : Except DecodeError Moment := do
  let s ← v.asText
  match Moment.read? s.toList with
  | some m => return m
  | none => throw (.badDate s)

namespace Entry

/-- The fields of an entry, in their fixed order. -/
def fieldNames : List String :=
  ["id", "date", "description", "category", "amount", "type", "isRecurring", "recurringInterval",
   "account"]

/-- Decodes an entry. -/
def ofJson (v : Json) : Except DecodeError Entry := do
  let s ← v.slots fieldNames
  let id ← s.required 0 Json.asText
  let date ← s.required 1 Moment.ofJson
  let description? ← s.defaulted 2 none (Json.orNull Json.asText)
  let category? ← s.defaulted 3 none (Json.orNull Json.asText)
  let amount ← s.required 4 Json.asFloat
  let direction ← s.required 5 (Json.asWord Direction.ofCode?)
  let isRecurring ← s.defaulted 6 false Json.asBool
  let frequency? ← s.defaulted 7 none (Json.orNull (Json.asWord Frequency.ofCode?))
  let account? ← s.defaulted 8 none (Json.orNull Account.ofJson)
  return { id, date, description?, category?, amount, direction, isRecurring, frequency?, account? }

/-- Decodes a list of entries. -/
def listOfJson (v : Json) : Except DecodeError (List Entry) :=
  v.asList ofJson

/-- The JSON form of an entry. -/
def toJson (e : Entry) : Json :=
  .object [
    ("id", .text e.id),
    ("date", .text e.date.written),
    ("description", .ofText? e.description?),
    ("category", .ofText? e.category?),
    ("amount", .ofFloat e.amount),
    ("type", .text e.direction.code),
    ("isRecurring", .bool e.isRecurring),
    ("recurringInterval", .ofText? (e.frequency?.map Frequency.code)),
    ("account", match e.account? with | some a => a.toJson | none => .null)]

end Entry

end AskLedger
