import AskLedger.Ledger.Order

/-!
# Ledgers in memory

The ledgers of several users, kept in memory. The rows of a user are in the order in which they were
given.

* `MemoryStore.rowsOf_add`: adding rows appends them to the rows of their user and to no other.
-/

namespace AskLedger

/-- The ledgers of several users. -/
structure MemoryStore where
  /-- The users, each once, with their rows. -/
  ledgers : List (String × List Entry) := []

namespace MemoryStore

/-- The users that have been named. -/
def users (s : MemoryStore) : List String := s.ledgers.map (·.1)

/-- Appends rows to the ledger of a user, or puts a new ledger at the end. -/
def addTo (user : String) (rows : List Entry) :
    List (String × List Entry) → List (String × List Entry)
  | [] => [(user, rows)]
  | (name, old) :: rest =>
    if name = user then (name, old ++ rows) :: rest else (name, old) :: addTo user rows rest

/-- Adds rows to the ledger of a user. -/
def add (s : MemoryStore) (user : String) (rows : List Entry) : MemoryStore :=
  ⟨addTo user rows s.ledgers⟩

/-- Adds one row to the ledger of a user. -/
def insert (s : MemoryStore) (user : String) (row : Entry) : MemoryStore :=
  s.add user [row]

/-- The rows of a user among ledgers; an unknown user has none. -/
def rowsIn (user : String) : List (String × List Entry) → List Entry
  | [] => []
  | (name, rows) :: rest => if name = user then rows else rowsIn user rest

/-- The rows of a user. -/
def rowsOf (s : MemoryStore) (user : String) : List Entry :=
  rowsIn user s.ledgers

/-- The newest rows of a user, the newest first. -/
def recent (s : MemoryStore) (user : String) (limit : Nat) : List Entry :=
  Entry.newest limit (s.rowsOf user)

/-- Rows that are added are behind the others of their user. -/
theorem rowsIn_addTo (user other : String) (rows : List Entry)
    (ledgers : List (String × List Entry)) :
    rowsIn other (addTo user rows ledgers) =
      rowsIn other ledgers ++ if other = user then rows else [] := by
  induction ledgers with
  | nil =>
    by_cases h : user = other
    · simp [addTo, rowsIn, h]
    · simp [addTo, rowsIn, h, Ne.symm h]
  | cons entry rest ih =>
    obtain ⟨name, old⟩ := entry
    rw [addTo]
    by_cases hn : name = user
    · subst hn
      by_cases h : name = other
      · simp [rowsIn, h]
      · simp [rowsIn, h, Ne.symm h]
    · rw [if_neg hn, rowsIn, rowsIn]
      by_cases h : name = other
      · subst h
        simp [hn]
      · simpa [h] using ih

/-- Adding rows appends them to the rows of their user and to no other. -/
theorem rowsOf_add (s : MemoryStore) (user other : String) (rows : List Entry) :
    (s.add user rows).rowsOf other = s.rowsOf other ++ if other = user then rows else [] :=
  rowsIn_addTo user other rows s.ledgers

end MemoryStore

end AskLedger
