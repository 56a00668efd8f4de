import AskLedger.Json.Decode

/-!
# Why a ledger cannot be read

The faults of files that hold ledgers. Some of them say in which record they were found.
-/

namespace AskLedger

/-- Why a ledger cannot be read. -/
inductive StoreError where
  /-- The file is missing or, as a whole, no text. -/
  | unreadable
  /-- The file of records is missing. -/
  | missingRecords
  /-- A field of a record is no text. -/
  | recordEncoding
  /-- A record does not fit the columns. -/
  | recordShape
  /-- A record fits the columns but means nothing. -/
  | invalidRecord (line : Nat) (reason : String)
  /-- The JSON text is not well formed or not of the right shape. -/
  | json (error : DecodeError)
  /-- The name of the file does not say how it is to be read. -/
  | unsupportedFormat (path : String)
  deriving DecidableEq, Repr

/-- The wording of an error, for those that have one of their own. -/
def StoreError.message? : StoreError → Option String
  | invalidRecord line reason =>
    some ("Invalid record at line " ++ toString line ++ ": " ++ reason)
  | json (.badDate text) => some ("invalid date: " ++ text)
  | unsupportedFormat path => some ("Unsupported store format: " ++ path)
  | unreadable | missingRecords | recordEncoding | recordShape | json .shape => none

end AskLedger
