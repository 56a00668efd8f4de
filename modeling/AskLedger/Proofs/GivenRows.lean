import AskLedger.Proofs.LetterCase
import AskLedger.Proofs.Magnitudes
import AskLedger.Proofs.NamedValues
import AskLedger.Proofs.OtherUsers
import AskLedger.Proofs.WrittenMoments

/-!
# Records that give entries

A record gives an entry if its columns are named once each, if the fields of the required columns
say what the entry says, and if so do those of the optional ones, unless these are left out and
would be empty. Such a record is read as that entry, provided that the entry can be told from its
fields. The reader takes the magnitude of every amount, so zero loses its sign.

* `Decimal.isBare_of_read?`: in a number there are no blanks and no commas.
* `CsvRow.ofNamed?_of_isGivenBy`: a record is read by its columns.
* `CsvRow.entry_of_isRowOf`: a row is read as the entry that it says.
* `CsvRow.isGivenBy_fields`, `CsvRow.isRowOf_ofEntry`: every entry has such a row and such a record.
* `CsvLedger.entriesFrom_of_isRecordOf`: the entries of a user among such records.
* `CsvLedger.recordsOf_table`, `CsvLedger.row_fields`: the rows of a file with the usual columns.
-/

namespace AskLedger

/-! ## Characters of a number -/

namespace Decimal

/-- Whether a character is neither a blank nor a comma. -/
def isBare (c : Char) : Bool := !Text.isBlank c && c != ','

theorem isBare_of_isDigit {c : Char} (h : c.isDigit = true) : isBare c = true := by
  have hall : ∀ d ∈ digits, isBare d = true := Text.forall_of_all (by decide)
  exact hall c (mem_digits_of_isDigit h)

theorem isBare_toLower (c : Char) : isBare c.toLower = isBare c :=
  Text.apply_toLower (by decide) c

variable {s : List Char} {x : Float}

theorem isBare_of_signed (h : ∀ c ∈ (signed s).2, isBare c = true) : ∀ c ∈ s, isBare c = true := by
  unfold signed at h
  split at h
  · exact List.forall_mem_cons.2 ⟨rfl, h⟩
  · exact List.forall_mem_cons.2 ⟨rfl, h⟩
  · exact h

theorem isBare_of_exponent? {e : Int} (h : exponent? s = some e) : ∀ c ∈ s, isBare c = true := by
  cases s with
  | nil => simp
  | cons c s =>
    rw [exponent?_cons] at h
    split at h
    · next hmark =>
      split at h
      · cases h
      · next hdigits =>
        refine List.forall_mem_cons.2 ⟨?_, isBare_of_signed fun c hc => ?_⟩
        · rcases hmark with rfl | rfl <;> rfl
        · simp only [Bool.or_eq_true, Bool.not_eq_true', not_or, Bool.not_eq_false] at hdigits
          exact isBare_of_isDigit (List.all_eq_true.1 hdigits.2 c hc)
    · cases h

theorem isBare_of_fraction (h : ∀ c ∈ (fraction s).2, isBare c = true) :
    ∀ c ∈ s, isBare c = true := by
  unfold fraction at h
  split at h
  · next rest =>
    refine List.forall_mem_cons.2 ⟨rfl, ?_⟩
    rw [← List.takeWhile_append_dropWhile (p := Char.isDigit) (l := rest)]
    refine List.forall_mem_append.2 ⟨fun c hc => isBare_of_isDigit ?_, h⟩
    exact List.all_eq_true.1 List.all_takeWhile c hc
  · exact h

theorem isBare_of_unsigned? (h : unsigned? s = some x) : ∀ c ∈ s, isBare c = true := by
  rw [unsigned?_eq] at h
  simp only at h
  split at h
  · cases h
  · split at h
    · next hexponent =>
      rw [← List.takeWhile_append_dropWhile (p := Char.isDigit) (l := s)]
      refine List.forall_mem_append.2 ⟨fun c hc => isBare_of_isDigit ?_,
        isBare_of_fraction (isBare_of_exponent? hexponent)⟩
      exact List.all_eq_true.1 List.all_takeWhile c hc
    · cases h

/-- What has a name is infinite or no number. -/
theorem named?_cases (h : named? s = some x) :
    (String.ofList (s.map Char.toLower) = "inf" ∨ String.ofList (s.map Char.toLower) = "infinity") ∧
      x = 1.0 / 0.0 ∨
    String.ofList (s.map Char.toLower) = "nan" ∧ x = 0.0 / 0.0 := by
  unfold named? at h
  simp only at h
  split at h
  · next hname => exact .inl ⟨hname, (Option.some.inj h).symm⟩
  · split at h
    · next hname => exact .inr ⟨hname, (Option.some.inj h).symm⟩
    · cases h

/-- The name of a number consists of letters. -/
theorem isBare_of_named? (h : named? s = some x) : ∀ c ∈ s, isBare c = true := by
  have hname : ∃ name ∈ ["inf", "infinity", "nan"], String.ofList (s.map Char.toLower) = name := by
    rcases named?_cases h with ⟨hname | hname, -⟩ | ⟨hname, -⟩ <;> exact ⟨_, by simp, hname⟩
  obtain ⟨name, hmem, hname⟩ := hname
  have hletters : ∀ name ∈ ["inf", "infinity", "nan"], name.toList.all isBare = true := by decide
  intro c hc
  rw [← isBare_toLower]
  refine List.all_eq_true.1 (hletters name hmem) c.toLower ?_
  rw [← hname, String.toList_ofList]
  exact List.mem_map_of_mem hc

/-- There are no blanks and no commas in a number. -/
theorem isBare_of_read? (h : read? s = some x) : ∀ c ∈ s, isBare c = true := by
  rw [read?_eq] at h
  obtain ⟨y, hy, -⟩ := Option.map_eq_some_iff.1 h
  rcases Option.or_eq_some_iff.1 hy with hnamed | ⟨-, hunsigned⟩
  · exact isBare_of_signed (isBare_of_named? hnamed)
  · exact isBare_of_signed (isBare_of_unsigned? hunsigned)

end Decimal

open NamedValues (Says Found)

namespace CsvRow

/-! ## Rows of records -/

/-- Columns and fields that give a row: the required columns are there, and the optional ones unless
their fields are empty. -/
structure IsGivenBy (names fields : List String) (r : CsvRow) : Prop where
  /-- Each column is named once. -/
  nodup : names.Nodup
  /-- Each column has a field. -/
  fits : names.length ≤ fields.length
  /-- Whose entry it is. -/
  user : ("user", r.user) ∈ names.zip fields
  /-- What identifies the entry. -/
  id : ("id", r.id) ∈ names.zip fields
  /-- When it happened. -/
  date : ("date", r.date) ∈ names.zip fields
  /-- What it was for. -/
  description : Says (names.zip fields) "" "description" r.description
  /-- The label it is filed under. -/
  category : Says (names.zip fields) "" "category" r.category
  /-- How much money moved. -/
  amount : ("amount", r.amount) ∈ names.zip fields
  /-- Whether it came in or went out. -/
  direction : ("type", r.direction) ∈ names.zip fields
  /-- Whether it comes back. -/
  isRecurring : Says (names.zip fields) "" "is_recurring" r.isRecurring
  /-- How often it comes back. -/
  frequency : Says (names.zip fields) "" "recurring_interval" r.frequency
  /-- The name of the account. -/
  accountName : Says (names.zip fields) "" "account_name" r.accountName
  /-- The sort of the account. -/
  accountKind : Says (names.zip fields) "" "account_type" r.accountKind

section
variable {named : List (String × String)} {column value : String}

/-- The value of a column that is named once. -/
theorem valueOf?_of_mem (hnodup : (named.map (·.1)).Nodup) (h : (column, value) ∈ named) :
    valueOf? named column = some (some value) := by
  rw [valueOf?, NamedValues.filter_of_mem hnodup h]

/-- An empty field is as good as a column that is left out. -/
theorem valueOf?_of_says (hnodup : (named.map (·.1)).Nodup) (h : Says named "" column value) :
    ∃ found, valueOf? named column = some found ∧ found.getD "" = value := by
  rcases h with h | ⟨h, rfl⟩
  · exact ⟨some value, valueOf?_of_mem hnodup h, rfl⟩
  · exact ⟨none, by rw [valueOf?, NamedValues.filter_of_not_mem h], rfl⟩

end

/-- Columns and fields that give a row are read as that row. -/
theorem ofNamed?_of_isGivenBy {names fields : List String} {r : CsvRow}
    (h : r.IsGivenBy names fields) : ofNamed? names fields = some r := by
  have hnodup : ((names.zip fields).map (·.1)).Nodup := by
    rw [List.map_fst_zip h.fits]
    exact h.nodup
  obtain ⟨description, hdescription, hdescription'⟩ := valueOf?_of_says hnodup h.description
  obtain ⟨category, hcategory, hcategory'⟩ := valueOf?_of_says hnodup h.category
  obtain ⟨isRecurring, hrecurring, hrecurring'⟩ := valueOf?_of_says hnodup h.isRecurring
  obtain ⟨frequency, hfrequency, hfrequency'⟩ := valueOf?_of_says hnodup h.frequency
  obtain ⟨accountName, hname, hname'⟩ := valueOf?_of_says hnodup h.accountName
  obtain ⟨accountKind, hkind, hkind'⟩ := valueOf?_of_says hnodup h.accountKind
  have hvalues : columns.mapM (valueOf? (names.zip fields)) =
      some [some r.user, some r.id, some r.date, description, category, some r.amount,
        some r.direction, isRecurring, frequency, accountName, accountKind] := by
    simp [columns, valueOf?_of_mem hnodup h.user, valueOf?_of_mem hnodup h.id,
      valueOf?_of_mem hnodup h.date, hdescription, hcategory, valueOf?_of_mem hnodup h.amount,
      valueOf?_of_mem hnodup h.direction, hrecurring, hfrequency, hname, hkind]
  rw [ofNamed?, if_neg (Nat.not_lt.2 h.fits), hvalues]
  simp [ofValues?, hdescription', hcategory', hrecurring', hfrequency', hname', hkind']

/-! ## Entries of rows -/

/-- The amount of a field that is a number and nothing else is its magnitude. -/
theorem amount?_of_read? {field : String} {x : Float} (h : Decimal.read? field.toList = some x) :
    amount? field = some x.abs := by
  have hbare := Decimal.isBare_of_read? h
  have htrim : Text.trim field.toList = field.toList :=
    Text.trim_eq_self fun c hc => by simpa using (Bool.and_eq_true_iff.1 (hbare c hc)).1
  have hcomma : Text.without ',' field.toList = field.toList :=
    List.filter_eq_self.2 fun c hc => (Bool.and_eq_true_iff.1 (hbare c hc)).2
  rw [amount?, htrim, hcomma, h, Option.map_some]

end CsvRow

/-- A text that stands for itself: there is something in it, and no blank around it. -/
def Text.IsTrimmed (s : String) : Prop := trimmed s = s ∧ s ≠ ""

instance (s : String) : Decidable (Text.IsTrimmed s) :=
  inferInstanceAs (Decidable (_ ∧ _))

/-- An entry that can be told from its fields: its texts are trimmed and not blank, its amount is
finite and not below zero, only if it recurs has it a frequency, and its date has no fraction of a
second. -/
structure Entry.IsCanonical (e : Entry) : Prop where
  /-- What identifies the entry is trimmed. -/
  id : Text.IsTrimmed e.id
  /-- So is what it was for. -/
  description : ∀ s ∈ e.description?, Text.IsTrimmed s
  /-- So is the label it is filed under. -/
  category : ∀ s ∈ e.category?, Text.IsTrimmed s
  /-- So are the name and the sort of the account. -/
  account : ∀ a ∈ e.account?, Text.IsTrimmed a.name ∧ Text.IsTrimmed a.kind
  /-- The amount is finite. -/
  isFinite : e.amount.isFinite = true
  /-- The amount is not below zero. -/
  nonneg : 0 ≤ e.amount
  /-- Only an entry that recurs has a frequency. -/
  frequency : e.frequency? ≠ none → e.isRecurring = true
  /-- The date has no fraction of a second. -/
  date : e.date.wholeSecond = e.date

/-- The entry with the magnitude of its amount. -/
def Entry.unsigned (e : Entry) : Entry := { e with amount := e.amount.abs }

namespace CsvRow

/-- A row that says of an entry what the entry says, fields that are left empty being absent. -/
structure IsRowOf (user : String) (e : Entry) (r : CsvRow) : Prop where
  /-- Whose entry it is. -/
  user : r.user = user
  /-- What identifies the entry. -/
  id : r.id = e.id
  /-- When it happened, in any layout that is read. -/
  date : Moment.read? r.date.toList = some e.date
  /-- What it was for. -/
  description : r.description = e.description?.getD ""
  /-- The label it is filed under. -/
  category : r.category = e.category?.getD ""
  /-- How much money moved, as any number that is read as the amount. -/
  amount : Decimal.read? r.amount.toList = some e.amount
  /-- Whether it came in or went out. -/
  direction : r.direction = e.direction.code
  /-- Whether it comes back; it does not if the field is empty. -/
  isRecurring : r.isRecurring ∈ if e.isRecurring then ["true"] else ["false", ""]
  /-- How often it comes back. -/
  frequency : r.frequency = (e.frequency?.map Frequency.code).getD ""
  /-- The name of the account. -/
  accountName : r.accountName = (e.account?.map Account.name).getD ""
  /-- The sort of the account. -/
  accountKind : r.accountKind = (e.account?.map Account.kind).getD ""

/-- A trimmed text that is given or not, written into a field and read again. -/
theorem nonBlank?_getD {s? : Option String} (h : ∀ s ∈ s?, Text.IsTrimmed s) :
    nonBlank? (s?.getD "") = s? := by
  cases s? with
  | none => rfl
  | some s =>
    obtain ⟨htrim, hne⟩ := h s rfl
    simp [nonBlank?, htrim, hne]

/-- An account that is given or not, written into two fields and read again. -/
theorem account?_getD {a? : Option Account}
    (h : ∀ a ∈ a?, Text.IsTrimmed a.name ∧ Text.IsTrimmed a.kind) :
    account? ((a?.map Account.name).getD "") ((a?.map Account.kind).getD "") = a? := by
  cases a? with
  | none => rfl
  | some a =>
    obtain ⟨hname, hkind⟩ := h a rfl
    have hnonBlank : nonBlank? ((some a.name).getD "") = some a.name :=
      nonBlank?_getD (by simpa using hname)
    rw [Option.getD_some] at hnonBlank
    simp [account?, hnonBlank, hkind.1]

theorem frequency?_getD (f? : Option Frequency) :
    frequency? ((f?.map Frequency.code).getD "") = .ok f? := by
  rcases f? with - | (- | - | - | -) <;> rfl

/-- A flag written into a field and read again. -/
theorem flag?_eq {field : String} {b : Bool}
    (h : field ∈ if b then ["true"] else ["false", ""]) : flag? field = some b := by
  have hall : ∀ b, ∀ field ∈ (if b then ["true"] else ["false", ""]), flag? field = some b := by
    decide
  exact hall b field h

/-- The row of an entry that can be told from its fields means that entry, up to a sign that the
amount may have only if it is zero. -/
theorem entry_of_isRowOf {user : String} {e : Entry} {r : CsvRow} (hcanonical : e.IsCanonical)
    (h : r.IsRowOf user e) : r.entry = .ok e.unsigned := by
  have hdirection : Direction.read? e.direction.code = some e.direction := by
    cases e.direction <;> rfl
  have hfrequency : (if e.isRecurring then e.frequency? else none) = e.frequency? := by
    split
    · rfl
    · next hnot =>
      by_contra hne
      exact hnot (hcanonical.frequency (Ne.symm hne))
  simp only [entry, bind, Except.bind, h.date, amount?_of_read? h.amount, h.direction, hdirection,
    flag?_eq h.isRecurring, h.frequency, frequency?_getD, orReason, pure, Except.pure, h.id,
    hcanonical.id.1, h.description, nonBlank?_getD hcanonical.description, h.category,
    nonBlank?_getD hcanonical.category, h.accountName, h.accountKind,
    account?_getD hcanonical.account, hfrequency]
  rfl

/-- The row of an entry, with its amount in these digits. -/
def ofEntry (user digits : String) (e : Entry) : CsvRow where
  user := user
  id := e.id
  date := e.date.written
  description := e.description?.getD ""
  category := e.category?.getD ""
  amount := digits
  direction := e.direction.code
  isRecurring := if e.isRecurring then "true" else "false"
  frequency := (e.frequency?.map Frequency.code).getD ""
  accountName := (e.account?.map Account.name).getD ""
  accountKind := (e.account?.map Account.kind).getD ""

/-- The fields of a row in the usual order of columns. -/
def fields (r : CsvRow) : List String :=
  [r.user, r.id, r.date, r.description, r.category, r.amount, r.direction, r.isRecurring,
    r.frequency, r.accountName, r.accountKind]

/-- A row is given by its fields under the names of the columns. -/
theorem isGivenBy_fields (r : CsvRow) : r.IsGivenBy columns r.fields where
  nodup := by decide
  fits := Nat.le_refl _
  user := by simp [columns, fields]
  id := by simp [columns, fields]
  date := by simp [columns, fields]
  description := .inl (by simp [columns, fields])
  category := .inl (by simp [columns, fields])
  amount := by simp [columns, fields]
  direction := by simp [columns, fields]
  isRecurring := .inl (by simp [columns, fields])
  frequency := .inl (by simp [columns, fields])
  accountName := .inl (by simp [columns, fields])
  accountKind := .inl (by simp [columns, fields])

/-- The row that is made of an entry is a row of that entry. -/
theorem isRowOf_ofEntry (user : String) {digits : String} {e : Entry}
    (hdate : e.date.wholeSecond = e.date) (hdigits : Decimal.read? digits.toList = some e.amount) :
    (ofEntry user digits e).IsRowOf user e where
  user := rfl
  id := rfl
  date := by rw [ofEntry, Moment.read?_written, hdate]
  description := rfl
  category := rfl
  amount := hdigits
  direction := rfl
  isRecurring := by cases h : e.isRecurring <;> simp [ofEntry, h]
  frequency := rfl
  accountName := rfl
  accountKind := rfl

end CsvRow

/-! ## Files of rows -/

namespace CsvLedger

/-- A record that is the row of an entry under named columns. -/
def IsRecordOf (names? : Option (List String)) (record : List Csv.Field) (user : String)
    (e : Entry) : Prop :=
  ∃ names fields r, names? = some names ∧ Csv.texts? record = some fields ∧
    CsvRow.IsGivenBy names fields r ∧ r.IsRowOf user e

/-- The entries of a user among records of entries are those under a name that is the user's up to
ASCII case. -/
theorem entriesFrom_of_isRecordOf {names? : Option (List String)} {records : List (List Csv.Field)}
    {book : List (String × Entry)}
    (h : List.Forall₂ (fun record row => IsRecordOf names? record row.1 row.2) records book)
    (hcanonical : ∀ row ∈ book, Text.IsTrimmed row.1 ∧ row.2.IsCanonical) (user : String)
    (line : Nat) : entriesFrom names? user line records =
      .ok ((book.filter fun row => Text.sameUpToAsciiCase row.1 user).map (·.2.unsigned)) := by
  induction h generalizing line with
  | nil => rfl
  | @cons record row records book hrecord _ ih =>
    obtain ⟨⟨htrim, -⟩, hentry⟩ := hcanonical row List.mem_cons_self
    have hrest := ih (fun row hrow => hcanonical row (List.mem_cons_of_mem _ hrow)) (line + 1)
    obtain ⟨names, fields, r, rfl, htexts, hgiven, hrow⟩ := hrecord
    have hread : CsvLedger.row (some names) record = .ok r := by
      simp [CsvLedger.row, htexts, CsvRow.ofNamed?_of_isGivenBy hgiven]
    -- the user stands in the record without blanks around it, just as it is compared
    have hof : r.isOf user = Text.sameUpToAsciiCase row.1 user := by
      rw [CsvRow.isOf, hrow.user, htrim]
    cases hsame : Text.sameUpToAsciiCase row.1 user with
    | true =>
      rw [entriesFrom_of_entry hread (hof.trans hsame) (CsvRow.entry_of_isRowOf hentry hrow), hrest]
      simp [hsame, Except.map]
    | false =>
      rw [entriesFrom_of_other hread (hof.trans hsame), hrest]
      simp [hsame]

/-- A file with the usual columns. -/
def table (rows : List (List String)) : List UInt8 := Csv.writtenTexts (CsvRow.columns :: rows)

section
variable {rows : List (List String)} (h : ∀ r ∈ rows, r ≠ [])
include h

theorem columnsOf_table : columnsOf (table rows) = some CsvRow.columns := by
  have hnames : CsvRow.columns.map Text.trimmed = CsvRow.columns := by decide
  rw [table, columnsOf_writtenTexts (by decide) h, hnames]

theorem recordsOf_table : recordsOf (table rows) = rows.map (·.map Csv.bytesOf) :=
  recordsOf_writtenTexts (by decide) h

end

/-- The fields of a row in the usual order of columns are read as that row. -/
theorem row_fields (r : CsvRow) : row (some CsvRow.columns) (r.fields.map Csv.bytesOf) = .ok r :=
  row_map_bytesOf (CsvRow.ofNamed?_of_isGivenBy r.isGivenBy_fields)

end CsvLedger

end AskLedger
