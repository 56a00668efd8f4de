import AskLedger.Json.Reader
import AskLedger.Ledger.EntryJson
import AskLedger.Store.Error

/-!
# Ledgers as JSON

A JSON object with the users as names and the lists of their entries as values. Where a user is
named twice the last list counts, but all lists have to be sound.
-/

namespace AskLedger.JsonLedger

/-- Replaces the rows of a user, or puts new ones at the end. -/
def put (user : String) (rows : List Entry) :
    List (String × List Entry) → List (String × List Entry)
  | [] => [(user, rows)]
  | (name, old) :: rest =>
    if name = user then (user, rows) :: rest else (name, old) :: put user rows rest

/-- Decodes the members of an object one after another. -/
def ofMembers (ledgers : List (String × List Entry)) :
    List (String × Json) → Except DecodeError (List (String × List Entry))
  | [] => .ok ledgers
  | (user, v) :: rest => do
    let rows ← Entry.listOfJson v
    ofMembers (put user rows ledgers) rest

/-- Decodes ledgers. -/
def ofJson : Json → Except DecodeError (List (String × List Entry))
  | .object members => ofMembers [] members
  | _ => .error .shape

/-- The ledgers in a text. -/
def ofText (text : List Char) : Except DecodeError (List (String × List Entry)) :=
  match Json.read? text with
  | some v => ofJson v
  | none => .error .shape

/-- The ledgers in a file. -/
def ledgersOf (bytes : ByteArray) : Except StoreError (List (String × List Entry)) :=
  match String.fromUTF8? bytes with
  | none => .error .unreadable
  | some text =>
    match ofText text.toList with
    | .ok ledgers => .ok ledgers
    | .error e => .error (.json e)

/-- The rows of a user; an unknown user has none. -/
def rowsOf (user : String) : List (String × List Entry) → List Entry
  | [] => []
  | (name, rows) :: rest => if name = user then rows else rowsOf user rest

end AskLedger.JsonLedger
