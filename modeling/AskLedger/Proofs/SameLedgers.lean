import Mathlib.Data.List.Dedup
import AskLedger.Proofs.GivenRows
import AskLedger.Proofs.MemoryCalls
import AskLedger.Proofs.WrittenEntries
import AskLedger.Store.File

/-!
# The same ledgers in three stores

A book of entries, each with the name of its user, can be kept in a file of comma separated
values, in a JSON file, or in memory. The latter two find the entries whose user has exactly the
name that is asked for. The first one disregards the case of ASCII letters, so it finds the entries
of other users as well if their names differ in case only. Where there are none, all three stores
give the same newest entries.

* `CsvLedger.entriesOf_of_holds`, `JsonLedger.ledgersOf_of_holds`: the entries of a user in a file
  that holds a book.
* `CsvLedger.holds_written`, `JsonLedger.holds_written`: there are such files.
* `Book.recent_from_stores`: what is given for a user, and when it is the same.
-/

namespace AskLedger

/-! ## Books -/

/-- Entries with the names of their users. -/
abbrev Book := List (String × Entry)

namespace Book

/-- The entries of a user. -/
def rowsOf (user : String) (book : Book) : List Entry :=
  (book.filter fun row => row.1 == user).map (·.2)

/-- The entries of all users with a name, up to the case of ASCII letters. -/
def rowsLike (user : String) (book : Book) : List Entry :=
  (book.filter fun row => Text.sameUpToAsciiCase row.1 user).map (·.2)

/-- A book that can be told from its fields. -/
def IsCanonical (book : Book) : Prop :=
  ∀ row ∈ book, Text.IsTrimmed row.1 ∧ row.2.IsCanonical

section
variable {user : String} {book : Book}

/-- Who is not in the book has no rows. -/
theorem rowsOf_of_not_mem (h : user ∉ book.map (·.1)) : rowsOf user book = [] := by
  rw [rowsOf, NamedValues.filter_of_not_mem h, List.map_nil]

/-- Where no other name differs in case only, names may be compared in any case. -/
theorem rowsLike_eq_rowsOf
    (h : ∀ row ∈ book, Text.sameUpToAsciiCase row.1 user = true → row.1 = user) :
    rowsLike user book = rowsOf user book := by
  have hself : Text.sameUpToAsciiCase user user = true := beq_self_eq_true _
  rw [rowsLike, rowsOf]
  congr 1
  refine List.filter_congr fun row hrow => ?_
  rw [Bool.eq_iff_iff, beq_iff_eq]
  constructor
  · exact h row hrow
  · rintro rfl
    exact hself

/-- As many entries under the name in any case as under the name itself are the same entries. -/
theorem eq_of_length_rowsLike (h : (rowsLike user book).length = (rowsOf user book).length) :
    ∀ row ∈ book, Text.sameUpToAsciiCase row.1 user = true → row.1 = user := by
  have hself : Text.sameUpToAsciiCase user user = true := beq_self_eq_true _
  have htwice : (book.filter fun row => Text.sameUpToAsciiCase row.1 user).filter
      (fun row => row.1 == user) = book.filter fun row => row.1 == user := by
    rw [List.filter_filter]
    refine List.filter_congr fun row _ => ?_
    by_cases hname : row.1 = user
    · simp [hname, hself]
    · simp [hname]
  rw [rowsLike, rowsOf, List.length_map, List.length_map, ← htwice] at h
  intro row hrow hsame
  have hall := List.length_filter_eq_length_iff.1 h.symm
  exact beq_iff_eq.1 (hall row (List.mem_filter.2 ⟨hrow, hsame⟩))

end

end Book

/-! ## Files that hold a book -/

namespace CsvLedger

/-- A file of comma separated values that holds a book: behind the columns a record for each row. -/
def Holds (bytes : List UInt8) (book : Book) : Prop :=
  List.Forall₂ (fun record row => IsRecordOf (columnsOf bytes) record row.1 row.2)
    (recordsOf bytes) book

/-- A file of comma separated values gives the rows of the users that are named like this one. -/
theorem entriesOf_of_holds {bytes : List UInt8} {book : Book} (h : Holds bytes book)
    (hcanonical : book.IsCanonical) (user : String) :
    entriesOf user bytes = .ok ((book.rowsLike user).map Entry.unsigned) := by
  rw [entriesOf_eq, entriesFrom_of_isRecordOf h hcanonical, Book.rowsLike, List.map_map]
  rfl

/-- A book as comma separated values, under the usual columns and with the amounts in their shortest
digits. -/
def written (book : Book) : ByteArray :=
  ⟨(Csv.writtenTexts (CsvRow.columns :: book.map fun row =>
    (CsvRow.ofEntry row.1 (Json.ofFloat row.2.amount).compact row.2).fields)).toArray⟩

/-- What is written of a book holds it. -/
theorem holds_written {book : Book} (hcanonical : book.IsCanonical)
    (hamounts : ∀ row ∈ book,
      Decimal.read? (Json.ofFloat row.2.amount).compact.toList = some row.2.amount) :
    Holds (written book).data.toList book := by
  have hheader : CsvRow.columns ≠ [] := by decide
  have hfields : ∀ fields ∈ book.map fun row =>
      (CsvRow.ofEntry row.1 (Json.ofFloat row.2.amount).compact row.2).fields, fields ≠ [] := by
    intro fields hmem
    obtain ⟨row, -, rfl⟩ := List.mem_map.1 hmem
    exact List.cons_ne_nil _ _
  have hnames : CsvRow.columns.map Text.trimmed = CsvRow.columns := by decide
  rw [Holds, written, columnsOf_writtenTexts hheader hfields,
    recordsOf_writtenTexts hheader hfields, hnames, List.map_map, List.forall₂_map_left_iff,
    List.forall₂_same]
  intro row hrow
  exact ⟨_, _, _, rfl, Csv.texts?_map_bytesOf _, CsvRow.isGivenBy_fields _,
    CsvRow.isRowOf_ofEntry row.1 (hcanonical row hrow).2.date (hamounts row hrow)⟩

end CsvLedger

namespace JsonLedger

/-- A list of objects that give entries. -/
def IsListOf (v : Json) (entries : List Entry) : Prop :=
  ∃ items, v = .array items ∧
    List.Forall₂ (fun item e => ∃ members, item = .object members ∧ e.IsGivenBy members)
      items entries

/-- A JSON file that holds a book: an object with a member for each user. -/
def Holds (bytes : ByteArray) (book : Book) : Prop :=
  ∃ text members, String.fromUTF8? bytes = some text ∧
    Json.read? text.toList = some (.object members) ∧
    (∀ row ∈ book, row.1 ∈ members.map (·.1)) ∧
    ∀ m ∈ members, IsListOf m.2 (book.rowsOf m.1)

/-- A list of entries is decoded into them. -/
theorem listOfJson_of_isListOf {v : Json} {entries : List Entry} (h : IsListOf v entries) :
    Entry.listOfJson v = .ok entries := by
  obtain ⟨items, rfl, h⟩ := h
  rw [Entry.listOfJson, Json.asList]
  induction h with
  | nil => rfl
  | cons hitem _ ih =>
    obtain ⟨members, rfl, hgiven⟩ := hitem
    rw [List.mapM_cons, Entry.ofJson_of_isGivenBy hgiven, ih]
    rfl

/-- The last list of a user counts, and no other user has it. -/
theorem rowsOf_put (user name : String) (rows : List Entry) (ledgers : List (String × List Entry)) :
    rowsOf user (put name rows ledgers) = if name = user then rows else rowsOf user ledgers := by
  induction ledgers with
  | nil => rfl
  | cons ledger rest ih =>
    obtain ⟨other, old⟩ := ledger
    rw [put]
    by_cases hother : other = name
    · subst hother
      by_cases huser : other = user
      · simp [rowsOf, huser]
      · simp [rowsOf, huser]
    · rw [if_neg hother, rowsOf, rowsOf, ih]
      by_cases huser : other = user
      · subst huser
        simp [Ne.symm hother]
      · simp [huser]

/-- Where each member gives the rows of its user, the users that are named have these rows. -/
theorem ofMembers_of_rows (rows : String → List Entry) {members : List (String × Json)}
    (h : ∀ m ∈ members, Entry.listOfJson m.2 = .ok (rows m.1))
    (before : List (String × List Entry)) :
    ∃ ledgers, ofMembers before members = .ok ledgers ∧ ∀ user, rowsOf user ledgers =
      if user ∈ members.map (·.1) then rows user else rowsOf user before := by
  induction members generalizing before with
  | nil => exact ⟨before, rfl, by simp⟩
  | cons m members ih =>
    obtain ⟨hm, h⟩ := List.forall_mem_cons.1 h
    obtain ⟨ledgers, hledgers, hrows⟩ := ih h (put m.1 (rows m.1) before)
    refine ⟨ledgers, ?_, fun user => ?_⟩
    · simp only [ofMembers, hm, bind, Except.bind, hledgers]
    · rw [hrows, rowsOf_put]
      by_cases hname : m.1 = user
      · subst hname
        simp
      · have hiff : user ∈ (m :: members).map (·.1) ↔ user ∈ members.map (·.1) := by
          simp [Ne.symm hname]
        simp only [hname, if_false, hiff]

/-- In a file that holds a book the users have the rows of the book. -/
theorem ledgersOf_of_holds {bytes : ByteArray} {book : Book} (h : Holds bytes book) :
    ∃ ledgers, ledgersOf bytes = .ok ledgers ∧
      ∀ user, rowsOf user ledgers = book.rowsOf user := by
  obtain ⟨text, members, htext, hread, hnamed, hlists⟩ := h
  have hdecoded : ∀ m ∈ members, Entry.listOfJson m.2 = .ok (book.rowsOf m.1) :=
    fun m hm => listOfJson_of_isListOf (hlists m hm)
  obtain ⟨ledgers, hledgers, hrows⟩ := ofMembers_of_rows book.rowsOf hdecoded []
  have hledgersOf : ledgersOf bytes = .ok ledgers := by
    simp only [ledgersOf, htext, ofText, hread, ofJson, hledgers]
  refine ⟨ledgers, hledgersOf, fun user => ?_⟩
  rw [hrows]
  split
  · rfl
  · next hnot =>
    have hnone : user ∉ book.map (·.1) := by
      rintro huser
      obtain ⟨row, hrow, rfl⟩ := List.mem_map.1 huser
      exact hnot (hnamed row hrow)
    exact (Book.rowsOf_of_not_mem hnone).symm

/-- A book as JSON, with a member for each user. -/
def written (book : Book) : ByteArray :=
  (Json.object ((book.map (·.1)).dedup.map fun user =>
    (user, .array ((book.rowsOf user).map Entry.toJson)))).compact.toUTF8

/-- What is written of a book holds it. -/
theorem holds_written {book : Book} (hcanonical : book.IsCanonical)
    (hamounts : ∀ row ∈ book, (Json.ofFloat row.2.amount).asFloat = .ok row.2.amount) :
    Holds (written book) book := by
  refine ⟨_, _, Text.fromUTF8?_toUTF8 _, Json.read?_compact ?_, fun row hrow => ?_,
    fun m hm => ?_⟩
  · refine Json.soundMembers_iff.2 fun m hm => ?_
    obtain ⟨user, -, rfl⟩ := List.mem_map.1 hm
    refine Json.soundItems_iff.2 fun v hv => ?_
    obtain ⟨e, -, rfl⟩ := List.mem_map.1 hv
    exact Entry.sound_toJson e
  · -- each user is written once, with all the rows of that user
    have huser : row.1 ∈ (book.map (·.1)).dedup := List.mem_dedup.2 (List.mem_map_of_mem hrow)
    simpa using huser
  · obtain ⟨user, -, rfl⟩ := List.mem_map.1 hm
    refine ⟨_, rfl, ?_⟩
    rw [List.forall₂_map_left_iff, List.forall₂_same]
    intro e he
    obtain ⟨row, hrow, rfl⟩ := List.mem_map.1 he
    have hrow := List.mem_of_mem_filter hrow
    obtain ⟨members, hmembers, hgiven⟩ := Entry.isGivenBy_toJson (hamounts row hrow)
    rw [Entry.atSecond, (hcanonical row hrow).2.date] at hgiven
    exact ⟨members, hmembers, hgiven⟩

end JsonLedger

/-! ## The newest entries -/

/-- Entries that compare as equal: nothing tells them apart, unless it is the sign of an amount of
zero. -/
def Entry.Same (a b : Entry) : Prop :=
  (a.amount == b.amount) = true ∧ { a with amount := b.amount } = b

/-- The newest entries are the same without signs. -/
theorem Entry.newest_map_unsigned (limit : Nat) (entries : List Entry) :
    newest limit (entries.map unsigned) = (newest limit entries).map unsigned := by
  rw [newest, newest, newestFirst, sorted_map (fun _ _ => rfl), List.map_take]
  rfl

namespace Book

section
variable {book : Book} {csv json : ByteArray} {calls : List MemoryStore.Call}

/-- The newest entries from comma separated values. -/
theorem recent_csv (hcanonical : book.IsCanonical) (hcsv : CsvLedger.Holds csv.data.toList book)
    (user : String) (limit : Nat) : StoreFormat.csv.recent user limit (some csv) =
      .ok ((Entry.newest limit (book.rowsLike user)).map Entry.unsigned) := by
  rw [StoreFormat.recent, StoreFormat.entries, StoreFormat.csvEntries,
    CsvLedger.entriesOf_of_holds hcsv hcanonical, Except.map, Entry.newest_map_unsigned]

/-- The newest entries from JSON. -/
theorem recent_json (hjson : JsonLedger.Holds json book) (user : String) (limit : Nat) :
    StoreFormat.json.recent user limit (some json) =
      .ok (Entry.newest limit (book.rowsOf user)) := by
  obtain ⟨ledgers, hledgers, hrows⟩ := JsonLedger.ledgersOf_of_holds hjson
  rw [StoreFormat.recent, StoreFormat.entries, StoreFormat.jsonLedgers, hledgers]
  simp only [Except.map, hrows]

/-- The newest entries from memory. -/
theorem recent_memory (hcalls : ∀ user, MemoryStore.given user calls = book.rowsOf user)
    (user : String) (limit : Nat) :
    (MemoryStore.run calls).recent user limit = Entry.newest limit (book.rowsOf user) := by
  rw [MemoryStore.recent_run, hcalls]

/-- A canonical entry is the same without its sign. -/
theorem same_unsigned {e : Entry} (h : e.IsCanonical) : e.unsigned.Same e :=
  ⟨Amount.abs_beq_self h.nonneg, rfl⟩

/-- The magnitudes of the amounts make no difference to entries that can be told from their
fields. -/
theorem forall₂_same {limit : Nat} {entries : List Entry} (h : ∀ e ∈ entries, e.IsCanonical) :
    List.Forall₂ Entry.Same ((Entry.newest limit entries).map Entry.unsigned)
      (Entry.newest limit entries) := by
  rw [List.forall₂_map_left_iff, List.forall₂_same]
  intro e he
  exact same_unsigned (h e ((Entry.newestFirst_perm entries).mem_iff.1 (List.mem_of_mem_take he)))

theorem isCanonical_of_mem_rowsLike (hcanonical : book.IsCanonical) {user : String} :
    ∀ e ∈ book.rowsLike user, e.IsCanonical := by
  intro e he
  obtain ⟨row, hrow, rfl⟩ := List.mem_map.1 he
  exact (hcanonical row (List.mem_of_mem_filter hrow)).2

/-- A book is kept in a file of comma separated values, in a JSON file and in memory. From the
latter two the newest entries of a user are the newest of those in the book under exactly that
name, from the first one they are the newest of those under the name in any ASCII case. So all
three give the same, for every limit, exactly if no name in the book differs from the user's
in nothing but case. -/
theorem recent_from_stores (hcanonical : book.IsCanonical)
    (hcsv : CsvLedger.Holds csv.data.toList book) (hjson : JsonLedger.Holds json book)
    (hcalls : ∀ user, MemoryStore.given user calls = book.rowsOf user) (user : String) :
    (∀ limit, (MemoryStore.run calls).recent user limit =
        Entry.newest limit (book.rowsOf user) ∧
      StoreFormat.json.recent user limit (some json) =
        .ok ((MemoryStore.run calls).recent user limit) ∧
      ∃ entries, StoreFormat.csv.recent user limit (some csv) = .ok entries ∧
        List.Forall₂ Entry.Same entries (Entry.newest limit (book.rowsLike user))) ∧
    ((∀ limit, ∃ entries, StoreFormat.csv.recent user limit (some csv) = .ok entries ∧
        List.Forall₂ Entry.Same entries ((MemoryStore.run calls).recent user limit)) ↔
      ∀ row ∈ book, Text.sameUpToAsciiCase row.1 user = true → row.1 = user) := by
  have hread := recent_csv hcanonical hcsv user
  have hsame : ∀ limit, List.Forall₂ Entry.Same
      ((Entry.newest limit (book.rowsLike user)).map Entry.unsigned)
      (Entry.newest limit (book.rowsLike user)) :=
    fun limit => forall₂_same (isCanonical_of_mem_rowsLike hcanonical)
  refine ⟨fun limit => ⟨recent_memory hcalls user limit, ?_, _, hread limit, hsame limit⟩, ?_, ?_⟩
  · rw [recent_json hjson, recent_memory hcalls]
  · intro hall
    -- all entries fit below this limit, so there are as many of them
    obtain ⟨entries, hentries, hequal⟩ := hall (book.rowsLike user ++ book.rowsOf user).length
    obtain rfl := Except.ok.inj ((hread _).symm.trans hentries)
    have hlength := hequal.length_eq
    rw [recent_memory hcalls] at hlength
    apply eq_of_length_rowsLike
    simp only [Entry.newest, Entry.newestFirst, List.length_map, List.length_take, length_sorted,
      List.length_append] at hlength
    omega
  · intro h limit
    refine ⟨_, hread limit, ?_⟩
    rw [recent_memory hcalls, ← rowsLike_eq_rowsOf h]
    exact hsame limit

end

/-! ## A household -/

/-- The calls that give the rows of a book one by one. -/
def inMemory (book : Book) : List MemoryStore.Call :=
  book.map fun row => .insert row.1 row.2

/-- Put into memory row by row, a book gives every user the rows it has. -/
theorem given_inMemory (book : Book) (user : String) :
    MemoryStore.given user book.inMemory = book.rowsOf user := by
  induction book with
  | nil => rfl
  | cons row book ih =>
    by_cases hname : row.1 = user
    · simpa [inMemory, MemoryStore.given, MemoryStore.Call.user, rowsOf, hname] using ih
    · simpa [inMemory, MemoryStore.given, MemoryStore.Call.user, rowsOf, hname] using ih

/-- The rent of a user. -/
def rent : Entry where
  id := "t1"
  date := .startOf ⟨2025, 1, 5, by decide⟩
  description? := some "Rent, flat 4"
  amount := 15000
  direction := .expense
  isRecurring := true
  frequency? := some .monthly
  account? := some ⟨"Savings", "BANK"⟩

/-- The salary of another user. -/
def salary : Entry where
  id := "t2"
  date := .startOf ⟨2025, 1, 6, by decide⟩
  category? := some "Salary"
  amount := 90000
  direction := .income

/-- Two users, one of them with a capital letter. -/
def household : Book := [("asha", rent), ("Ravi", salary)]

theorem forall_mem_household {p : String × Entry → Prop} (hrent : p ("asha", rent))
    (hsalary : p ("Ravi", salary)) : ∀ row ∈ household, p row :=
  List.forall_mem_cons.2 ⟨hrent, List.forall_mem_singleton.2 hsalary⟩

theorem isCanonical_household : household.IsCanonical := by
  refine forall_mem_household ⟨by decide, ?_⟩ ⟨by decide, ?_⟩
  · exact ⟨by decide, by decide, by decide, by decide, rfl, by decide, by decide, rfl⟩
  · exact ⟨by decide, by decide, by decide, by decide, rfl, by decide, by decide, rfl⟩

theorem holds_householdCsv :
    CsvLedger.Holds (CsvLedger.written household).data.toList household :=
  CsvLedger.holds_written isCanonical_household (forall_mem_household rfl rfl)

theorem holds_householdJson : JsonLedger.Holds (JsonLedger.written household) household :=
  JsonLedger.holds_written isCanonical_household (forall_mem_household rfl rfl)

/-- The rent of a user is found in all three stores. -/
theorem rent_from_stores :
    household.IsCanonical ∧
    CsvLedger.Holds (CsvLedger.written household).data.toList household ∧
    JsonLedger.Holds (JsonLedger.written household) household ∧
    (∀ user, MemoryStore.given user household.inMemory = household.rowsOf user) ∧
    (MemoryStore.run household.inMemory).recent "asha" 5 = [rent] ∧
    StoreFormat.json.recent "asha" 5 (some (JsonLedger.written household)) = .ok [rent] ∧
    ∃ entries, StoreFormat.csv.recent "asha" 5 (some (CsvLedger.written household)) = .ok entries ∧
      List.Forall₂ Entry.Same entries [rent] := by
  have hrent : Entry.newest 5 (household.rowsOf "asha") = [rent] := rfl
  have hname : ∀ row ∈ household, Text.sameUpToAsciiCase row.1 "asha" = true → row.1 = "asha" :=
    forall_mem_household (by decide) (by decide)
  obtain ⟨heach, hiff⟩ := recent_from_stores isCanonical_household holds_householdCsv
    holds_householdJson (given_inMemory household) "asha"
  obtain ⟨hmemory, hjson, -⟩ := heach 5
  have hcsv := hiff.2 hname 5
  rw [hmemory, hrent] at hjson hcsv
  exact ⟨isCanonical_household, holds_householdCsv, holds_householdJson, given_inMemory household,
    hmemory.trans hrent, hjson, hcsv⟩

/-- Under a name in other case the salary is found in one of the stores only. -/
theorem salary_from_stores :
    household.IsCanonical ∧
    CsvLedger.Holds (CsvLedger.written household).data.toList household ∧
    JsonLedger.Holds (JsonLedger.written household) household ∧
    (∀ user, MemoryStore.given user household.inMemory = household.rowsOf user) ∧
    (MemoryStore.run household.inMemory).recent "ravi" 5 = [] ∧
    StoreFormat.json.recent "ravi" 5 (some (JsonLedger.written household)) = .ok [] ∧
    StoreFormat.csv.recent "ravi" 5 (some (CsvLedger.written household)) = .ok [salary] := by
  refine ⟨isCanonical_household, holds_householdCsv, holds_householdJson, given_inMemory household,
    ?_, ?_, ?_⟩
  · rw [recent_memory (given_inMemory household)]
    rfl
  · rw [recent_json holds_householdJson]
    rfl
  · rw [recent_csv isCanonical_household holds_householdCsv]
    rfl

end Book

end AskLedger
