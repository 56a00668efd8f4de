/-!
# Comma separated values

A file of records, each a list of fields. Fields are separated by commas and records end with a
line feed, a return or both; lines without any character are skipped. A field that starts with
a quote runs to the next single quote, a doubled quote standing for one; what follows the
closing quote up to the separator belongs to the field as well. A byte order mark at the start
of the file is skipped.

All marks are ASCII, so files are read as bytes and each field is decoded on its own.

* `Csv.ne_nil_of_mem`: every record has a field.
-/

namespace AskLedger.Csv

/-- The bytes of a field. -/
abbrev Field := List UInt8

/-- Where a reader is within a record. -/
inductive Place where
  /-- In front of a record. -/
  | recordStart
  /-- In front of a field that is not the first one. -/
  | fieldStart
  /-- In a field without quotes, or behind its closing quote. -/
  | plain
  /-- Between quotes. -/
  | quoted
  /-- Behind a quote that may be the closing one. -/
  | quoteSeen
  deriving DecidableEq, Repr

/-- What a byte means to the reader. -/
inductive Step where
  /-- It belongs to the field. -/
  | keep
  /-- It is a mark and belongs to no field. -/
  | skip
  /-- It ends the field. -/
  | endField
  /-- It ends the record. -/
  | endRecord
  deriving DecidableEq, Repr

/-- The quote. -/
def quote : UInt8 := 34

/-- The comma. -/
def comma : UInt8 := 44

/-- Whether a byte is a line feed or a return. -/
def endsLine (b : UInt8) : Bool := b == 10 || b == 13

/-- What a byte means outside quotes. -/
def plainStep (b : UInt8) : Step × Place :=
  if b = comma then (.endField, .fieldStart)
  else if endsLine b then (.endRecord, .recordStart)
  else (.keep, .plain)

/-- What a byte means at a place, and the place behind it. -/
def step (place : Place) (b : UInt8) : Step × Place :=
  match place with
  | .recordStart =>
    -- the line feed of a return and line feed, or a line without any character
    if endsLine b then (.skip, .recordStart)
    else if b = quote then (.skip, .quoted)
    else plainStep b
  | .fieldStart => if b = quote then (.skip, .quoted) else plainStep b
  | .plain => plainStep b
  | .quoted => if b = quote then (.skip, .quoteSeen) else (.keep, .quoted)
  -- a doubled quote is one quote of the field; any other byte goes on behind the closing quote
  | .quoteSeen => if b = quote then (.keep, .quoted) else plainStep b

/-- Reads records; `field` and `fields` hold what has been read of the present
record, last first. -/
def recordsFrom (place : Place) (field : Field) (fields : List Field) :
    List UInt8 → List (List Field)
  -- a file may end without a line end, even between quotes
  | [] => if place = .recordStart then [] else [(field.reverse :: fields).reverse]
  | b :: rest =>
    match step place b with
    | (.keep, place) => recordsFrom place (b :: field) fields rest
    | (.skip, place) => recordsFrom place field fields rest
    | (.endField, place) => recordsFrom place [] (field.reverse :: fields) rest
    | (.endRecord, place) => (field.reverse :: fields).reverse :: recordsFrom place [] [] rest

/-- The bytes without a byte order mark in front. -/
def withoutMark : List UInt8 → List UInt8
  | 0xEF :: 0xBB :: 0xBF :: rest => rest
  | bytes => bytes

/-- The records of a file. -/
def records (bytes : List UInt8) : List (List Field) :=
  recordsFrom .recordStart [] [] (withoutMark bytes)

/-- The text of a field, if its bytes are one. -/
def text? (field : Field) : Option String :=
  String.fromUTF8? ⟨field.toArray⟩

/-- The texts of a record, if all its fields are texts. -/
def texts? (record : List Field) : Option (List String) :=
  record.mapM text?

/-- From any place on, every record has a field. -/
theorem ne_nil_of_mem_recordsFrom {place : Place} {field : Field} {fields : List Field}
    {bytes : List UInt8} {record : List Field} (h : record ∈ recordsFrom place field fields bytes) :
    record ≠ [] := by
  induction bytes generalizing place field fields with
  | nil =>
    rw [recordsFrom] at h
    split at h
    · cases h
    · simp_all
  | cons b rest ih =>
    rw [recordsFrom] at h
    split at h
    · exact ih h
    · exact ih h
    · exact ih h
    · rcases List.mem_cons.1 h with h | h
      · simp [h]
      · exact ih h

/-- Every record has a field. -/
theorem ne_nil_of_mem {bytes : List UInt8} {record : List Field} (h : record ∈ records bytes) :
    record ≠ [] :=
  ne_nil_of_mem_recordsFrom h

end AskLedger.Csv
