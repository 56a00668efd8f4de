import AskLedger.Ledger.Order
import AskLedger.Store.CsvLedger
import AskLedger.Store.JsonLedger
import AskLedger.Text.Find

/-!
# Ledger files

How a file is to be read is said by the extension of its name: comma separated values or JSON. Of
the entries of a user the newest ones are taken.

* `StoreFormat.recent_length_le`: no more entries are taken than asked for.
-/

namespace AskLedger

/-- How a ledger is written in a file. -/
inductive StoreFormat where
  /-- As comma separated values. -/
  | csv
  /-- As JSON. -/
  | json
  deriving DecidableEq, Repr

namespace StoreFormat

/-- The parts of a path that name something. -/
def pathParts (path : List Char) : List (List Char) :=
  (Text.splitAt '/' path).filter fun part => !part.isEmpty && part != ['.']

/-- What follows the last point of a name, unless the point comes first or there is none. -/
def extensionOf? (name : List Char) : Option (List Char) :=
  match (name.reverse.takeWhile (· != '.'), name.reverse.dropWhile (· != '.')) with
  | (_, []) => none
  | (_, [_]) => none
  | (last, _ :: _) => if name = ['.', '.'] then none else some last.reverse

/-- The extension of the file that a path names. -/
def extension? (path : String) : Option (List Char) :=
  (pathParts path.toList).getLast?.bind extensionOf?

/-- How the file is to be read that a path names, by its extension in any ASCII case. -/
def ofPath (path : String) : Except StoreError StoreFormat :=
  match (extension? path).map fun e => String.ofList (Text.asciiLower e) with
  | some "csv" => .ok csv
  | some "json" => .ok json
  | _ => .error (.unsupportedFormat path)

/-- All entries of a user in a file of comma separated values, in the order of the file; there may
be no such file. -/
def csvEntries (user : String) : Option ByteArray → Except StoreError (List Entry)
  | some content => CsvLedger.entriesOf user content.data.toList
  | none => .error .missingRecords

/-- All ledgers in a JSON file; there may be no such file. -/
def jsonLedgers : Option ByteArray → Except StoreError (List (String × List Entry))
  | some content => JsonLedger.ledgersOf content
  | none => .error .unreadable

/-- All entries of a user in a file. -/
def entries (f : StoreFormat) (user : String) (content? : Option ByteArray) :
    Except StoreError (List Entry) :=
  match f with
  | csv => csvEntries user content?
  | json => (jsonLedgers content?).map (JsonLedger.rowsOf user)

/-- The newest entries of a user in a file, the newest first. -/
def recent (f : StoreFormat) (user : String) (limit : Nat) (content? : Option ByteArray) :
    Except StoreError (List Entry) :=
  (f.entries user content?).map (Entry.newest limit)

/-- No more entries are taken than asked for. -/
theorem recent_length_le {f : StoreFormat} {user : String} {limit : Nat}
    {content? : Option ByteArray} {rows : List Entry}
    (h : f.recent user limit content? = .ok rows) : rows.length ≤ limit := by
  unfold recent at h
  cases he : f.entries user content? with
  | error e => simp [he, Except.map] at h
  | ok all =>
    simp only [he, Except.map, Except.ok.injEq] at h
    subst h
    rw [Entry.newest, List.length_take]
    exact Nat.min_le_left _ _

end StoreFormat

end AskLedger
