import Mathlib.Data.List.Forall2
import AskLedger.Proofs.WrittenRecords

/-!
# The records of other users

The entries of a user in a file of comma separated values are those of the records under that user's
name, one entry a record. The records of other users have to fit the columns, but what else they say
does not matter: neither the entries nor the fault that is reported, with its line, depends on it.

* `CsvLedger.entriesFrom_eq_ok_iff`: when there are entries, and which.
* `CsvLedger.entriesFrom_append`: the entries among records in two parts.
* `CsvLedger.entriesFrom_of_replaced`: other users' records may say anything.
* `CsvLedger.entries_of_user`: both for files.
-/

namespace AskLedger

/-- A computation in two steps has a result if both steps have one. -/
theorem bind_eq_ok_iff {α β ε : Type} {x : Except ε α} {f : α → Except ε β} {b : β} :
    (x >>= f) = .ok b ↔ ∃ a, x = .ok a ∧ f a = .ok b := by
  cases x <;> simp [bind, Except.bind]

/-! ## Rows of records with as many fields -/

namespace CsvRow

/-- Which values are given is decided by what is given for each column. -/
theorem mapM_map_isSome (f : String → Option (Option String)) (columns : List String) :
    (columns.mapM f).map (List.map Option.isSome) =
      columns.mapM fun column => (f column).map Option.isSome := by
  induction columns with
  | nil => rfl
  | cons column columns ih =>
    rw [List.mapM_cons, List.mapM_cons, ← ih]
    cases f column with
    | none => rfl
    | some v => cases columns.mapM f <;> rfl

/-- Whether a column is given is decided by the names. -/
theorem valueOf?_map_isSome {named named' : List (String × String)}
    (h : named.map (·.1) = named'.map (·.1)) (column : String) :
    (valueOf? named column).map Option.isSome = (valueOf? named' column).map Option.isSome := by
  have hlength : (named.filter fun p => p.1 == column).length =
      (named'.filter fun p => p.1 == column).length := by
    have hnames : ∀ l : List (String × String), (l.filter fun p => p.1 == column).length =
        ((l.map (·.1)).filter (· == column)).length := by
      intro l
      simp [List.filter_map, Function.comp_def]
    rw [hnames, hnames, h]
  simp only [valueOf?]
  generalize (named.filter fun p => p.1 == column) = l at hlength ⊢
  generalize (named'.filter fun p => p.1 == column) = l' at hlength ⊢
  match l, l', hlength with
  | [], [], _ => rfl
  | [_], [_], _ => rfl
  | _ :: _ :: _, _ :: _ :: _, _ => rfl

/-- Whether values make a row depends on which of them are there. -/
theorem exists_ofValues? {values values' : List (Option String)} {r : CsvRow}
    (h : ofValues? values = some r) (hsome : values'.map Option.isSome = values.map Option.isSome) :
    ∃ r', ofValues? values' = some r' := by
  unfold ofValues? at h
  split at h
  · have hlength : values'.length = 11 := by simpa using congrArg List.length hsome
    match values', hlength with
    | [a, b, c, d, e, f, g, i, j, k, l], _ =>
      simp only [List.map_cons, List.cons.injEq, Option.isSome_some] at hsome
      obtain ⟨ha, hb, hc, -, -, hf, hg, -⟩ := hsome
      obtain ⟨_, rfl⟩ := Option.isSome_iff_exists.1 ha
      obtain ⟨_, rfl⟩ := Option.isSome_iff_exists.1 hb
      obtain ⟨_, rfl⟩ := Option.isSome_iff_exists.1 hc
      obtain ⟨_, rfl⟩ := Option.isSome_iff_exists.1 hf
      obtain ⟨_, rfl⟩ := Option.isSome_iff_exists.1 hg
      exact ⟨_, rfl⟩
  · cases h

/-- A record with as many fields as one that fits the named columns fits them too. -/
theorem exists_ofNamed? {names fields fields' : List String} {r : CsvRow}
    (h : ofNamed? names fields = some r) (hlength : fields'.length = fields.length) :
    ∃ r', ofNamed? names fields' = some r' := by
  unfold ofNamed? at h ⊢
  rw [hlength]
  split at h
  · cases h
  · next hfits =>
    obtain ⟨values, hvalues, hr⟩ := Option.bind_eq_some_iff.1 h
    have hnames : (names.zip fields').map (·.1) = (names.zip fields).map (·.1) := by
      rw [← List.unzip_fst, ← List.unzip_fst, List.unzip_zip_left (by omega),
        List.unzip_zip_left (by omega)]
    have hsome := mapM_map_isSome (valueOf? (names.zip fields')) columns
    simp only [valueOf?_map_isSome hnames, ← mapM_map_isSome, hvalues, Option.map_some] at hsome
    obtain ⟨values', hvalues', hsome⟩ := Option.map_eq_some_iff.1 hsome
    rw [if_neg hfits, hvalues']
    exact exists_ofValues? hr hsome

/-- So does one with as many fields in the usual order of columns. -/
theorem exists_ofOrdered? {fields fields' : List String} {r : CsvRow}
    (h : ofOrdered? fields = some r) (hlength : fields'.length = fields.length) :
    ∃ r', ofOrdered? fields' = some r' := by
  refine exists_ofValues? h ?_
  rw [List.map_map, List.map_map]
  refine List.map_congr_left fun i _ => ?_
  rw [Function.comp_apply, Function.comp_apply, Bool.eq_iff_iff]
  simp [hlength]

/-! ## The field for users -/

/-- The field under the column for users; the first one if the columns have no names. -/
def userField? (names : Option (List String)) (fields : List String) : Option String :=
  match names with
  | some names => ((names.zip fields).find? (·.1 == "user")).map (·.2)
  | none => fields[0]?

/-- With names, the user of a row is the field under the name of the user. -/
theorem userField?_of_ofNamed? {names fields : List String} {r : CsvRow}
    (h : ofNamed? names fields = some r) : userField? (some names) fields = some r.user := by
  unfold ofNamed? at h
  split at h
  · cases h
  · obtain ⟨values, hvalues, hr⟩ := Option.bind_eq_some_iff.1 h
    rw [columns, List.mapM_cons] at hvalues
    -- the user is the first of the columns, so its value is the first one taken
    obtain ⟨v, hv, hvalues⟩ := Option.bind_eq_some_iff.1 hvalues
    obtain ⟨vs, -, hvs⟩ := Option.bind_eq_some_iff.1 hvalues
    cases hvs
    unfold ofValues? at hr
    split at hr
    · next heq =>
      cases hr
      obtain ⟨rfl, -⟩ := List.cons.inj heq
      rw [userField?, ← List.head?_filter]
      unfold valueOf? at hv
      split at hv
      · cases hv
      · next hfilter =>
        cases hv
        rw [hfilter]
        rfl
      · cases hv
    · cases hr

/-- Without names, the user of a row is the field in the place of the user. -/
theorem userField?_of_ofOrdered? {fields : List String} {r : CsvRow}
    (h : ofOrdered? fields = some r) : userField? none fields = some r.user := by
  unfold ofOrdered? ofValues? at h
  split at h
  · next heq =>
    cases h
    exact (List.cons.inj heq).1
  · cases h

end CsvRow

/-! ## Records -/

namespace CsvLedger

open CsvRow (userField?)

variable {names : Option (List String)} {user : String}

/-- A record that fits the columns is a list of texts, among them the name of its user. -/
theorem texts_of_row {record : List Csv.Field} {r : CsvRow} (h : row names record = .ok r) :
    ∃ fields, Csv.texts? record = some fields ∧ userField? names fields = some r.user := by
  unfold row at h
  split at h
  · cases h
  · next fields htexts =>
    refine ⟨fields, htexts, ?_⟩
    cases names with
    | none =>
      simp only at h
      split at h
      · next hrow =>
        cases h
        exact CsvRow.userField?_of_ofOrdered? hrow
      · cases h
    | some names =>
      simp only at h
      split at h
      · next hrow =>
        cases h
        exact CsvRow.userField?_of_ofNamed? hrow
      · cases h

/-- A record with as many fields as one that fits the columns, and with the same name of its user,
fits them as well and is that user's. -/
theorem exists_row {record record' : List Csv.Field} {r : CsvRow} {fields fields' : List String}
    (hrow : row names record = .ok r) (htexts : Csv.texts? record = some fields)
    (htexts' : Csv.texts? record' = some fields') (hlength : fields'.length = fields.length)
    (huser : userField? names fields' = userField? names fields) :
    ∃ r', row names record' = .ok r' ∧ r'.user = r.user := by
  -- whether a record makes a row hangs on its number of fields alone
  have hfits : ∃ r', row names record' = .ok r' := by
    simp only [row, htexts, htexts'] at hrow ⊢
    cases names with
    | none =>
      simp only at hrow ⊢
      split at hrow
      · next hr =>
        obtain ⟨r', hr'⟩ := CsvRow.exists_ofOrdered? hr hlength
        exact ⟨r', by rw [hr']⟩
      · cases hrow
    | some names =>
      simp only at hrow ⊢
      split at hrow
      · next hr =>
        obtain ⟨r', hr'⟩ := CsvRow.exists_ofNamed? hr hlength
        exact ⟨r', by rw [hr']⟩
      · cases hrow
  obtain ⟨r', hr'⟩ := hfits
  obtain ⟨_, hfields, hr⟩ := texts_of_row hrow
  cases htexts.symm.trans hfields
  obtain ⟨_, hfields', hname⟩ := texts_of_row hr'
  cases htexts'.symm.trans hfields'
  rw [huser, hr] at hname
  exact ⟨r', hr', (Option.some.inj hname).symm⟩

/-! ## What one record does -/

section Step

variable {line : Nat} {record : List Csv.Field} {rest : List (List Csv.Field)} {r : CsvRow}

/-- A record that does not fit the columns ends the reading. -/
theorem entriesFrom_of_error {fault : StoreError} (h : row names record = .error fault) :
    entriesFrom names user line (record :: rest) = .error fault := by
  simp [entriesFrom, bind, Except.bind, h]

/-- A record of another user is passed over. -/
theorem entriesFrom_of_other (h : row names record = .ok r) (hother : r.isOf user = false) :
    entriesFrom names user line (record :: rest) = entriesFrom names user (line + 1) rest := by
  simp [entriesFrom, bind, Except.bind, h, hother]

/-- A record of the user that means nothing ends the reading, and its line is reported. -/
theorem entriesFrom_of_invalid {reason : String} (h : row names record = .ok r)
    (hof : r.isOf user = true) (hentry : r.entry = .error reason) :
    entriesFrom names user line (record :: rest) = .error (.invalidRecord line reason) := by
  simp [entriesFrom, bind, Except.bind, h, hof, hentry, throw, throwThe, MonadExceptOf.throw]

/-- Any other record of the user is an entry in front of those that follow. -/
theorem entriesFrom_of_entry {e : Entry} (h : row names record = .ok r) (hof : r.isOf user = true)
    (hentry : r.entry = .ok e) :
    entriesFrom names user line (record :: rest) =
      (entriesFrom names user (line + 1) rest).map (e :: ·) := by
  simp only [entriesFrom, bind, Except.bind, h, hof, hentry, if_true]
  cases entriesFrom names user (line + 1) rest <;> rfl

/-- These are all the kinds of records. -/
theorem record_cases (names : Option (List String)) (user : String) (record : List Csv.Field) :
    (∃ fault, row names record = .error fault) ∨
    (∃ r, row names record = .ok r ∧ r.isOf user = false) ∨
    (∃ r reason, row names record = .ok r ∧ r.isOf user = true ∧ r.entry = .error reason) ∨
    ∃ r e, row names record = .ok r ∧ r.isOf user = true ∧ r.entry = .ok e := by
  cases hrow : row names record with
  | error fault => exact .inl ⟨fault, rfl⟩
  | ok r =>
    cases hof : r.isOf user with
    | false => exact .inr (.inl ⟨r, rfl, hof⟩)
    | true =>
      cases hentry : r.entry with
      | error reason => exact .inr (.inr (.inl ⟨r, reason, rfl, hof, hentry⟩))
      | ok e => exact .inr (.inr (.inr ⟨r, e, rfl, hof, hentry⟩))

end Step

/-! ## All records -/

/-- The entries of a user are those of that user's rows, one each and in order. -/
def EntriesOf (user : String) (rows : List CsvRow) (entries : List Entry) : Prop :=
  List.Forall₂ (fun r e => r.entry = .ok e) (rows.filter (·.isOf user)) entries

/-- A row of another user is passed over. -/
theorem entriesOf_cons_of_other {r : CsvRow} {rows : List CsvRow} {entries : List Entry}
    (h : r.isOf user = false) : EntriesOf user (r :: rows) entries ↔ EntriesOf user rows entries := by
  rw [EntriesOf, List.filter_cons, if_neg (by simp [h]), EntriesOf]

/-- A row of the user gives an entry, or all fails. -/
theorem entriesOf_cons_of_user {r : CsvRow} {rows : List CsvRow} {entries : List Entry}
    (h : r.isOf user = true) : EntriesOf user (r :: rows) entries ↔
      ∃ e rest, r.entry = .ok e ∧ EntriesOf user rows rest ∧ entries = e :: rest := by
  rw [EntriesOf, List.filter_cons, if_pos h, List.forall₂_cons_left_iff]
  rfl

/-- Records are read to their end if each fits the columns and those of the user mean something; the
entries are those of the user's records, in order. -/
theorem entriesFrom_eq_ok_iff {line : Nat} {records : List (List Csv.Field)} {entries : List Entry} :
    entriesFrom names user line records = .ok entries ↔
      ∃ rows, List.Forall₂ (fun record r => row names record = .ok r) records rows ∧
        EntriesOf user rows entries := by
  induction records generalizing line entries with
  | nil => simp [entriesFrom, EntriesOf, eq_comm]
  | cons record records ih =>
    simp only [List.forall₂_cons_left_iff]
    -- a record is at fault, is of another user, or is the user's and does or does not give an entry
    rcases record_cases names user record with ⟨fault, h⟩ | ⟨r, h, hother⟩ | ⟨r, reason, h, hof, hentry⟩
      | ⟨r, e, h, hof, hentry⟩
    · simp [entriesFrom_of_error h, h]
    · rw [entriesFrom_of_other h hother, ih]
      constructor
      · rintro ⟨rows, hrows, hentries⟩
        exact ⟨r :: rows, ⟨r, rows, h, hrows, rfl⟩, (entriesOf_cons_of_other hother).2 hentries⟩
      · rintro ⟨_, ⟨r', rows, hr', hrows, rfl⟩, hentries⟩
        cases h.symm.trans hr'
        exact ⟨rows, hrows, (entriesOf_cons_of_other hother).1 hentries⟩
    · rw [entriesFrom_of_invalid h hof hentry]
      simp only [reduceCtorEq, false_iff]
      rintro ⟨_, ⟨r', rows, hr', -, rfl⟩, hentries⟩
      cases h.symm.trans hr'
      obtain ⟨e, _, he, -⟩ := (entriesOf_cons_of_user hof).1 hentries
      cases hentry.symm.trans he
    · rw [entriesFrom_of_entry h hof hentry]
      constructor
      · intro hrest
        cases hfrom : entriesFrom names user (line + 1) records with
        | error fault => simp [hfrom, Except.map] at hrest
        | ok rest =>
          obtain rfl : e :: rest = entries := by simpa [hfrom, Except.map] using hrest
          obtain ⟨rows, hrows, hentries⟩ := ih.1 hfrom
          exact ⟨r :: rows, ⟨r, rows, h, hrows, rfl⟩,
            (entriesOf_cons_of_user hof).2 ⟨e, rest, hentry, hentries, rfl⟩⟩
      · rintro ⟨_, ⟨r', rows, hr', hrows, rfl⟩, hentries⟩
        cases h.symm.trans hr'
        obtain ⟨e', rest, he', hrest, rfl⟩ := (entriesOf_cons_of_user hof).1 hentries
        cases hentry.symm.trans he'
        rw [ih.2 ⟨rows, hrows, hrest⟩]
        rfl

/-- Records in two parts: a fault in the first part ends the reading, and otherwise the entries of
both follow each other. -/
theorem entriesFrom_append {line : Nat} (before rest : List (List Csv.Field)) :
    entriesFrom names user line (before ++ rest) =
      (entriesFrom names user line before).bind fun entries =>
        (entriesFrom names user (line + before.length) rest).map (entries ++ ·) := by
  induction before generalizing line with
  | nil =>
    rw [List.nil_append, List.length_nil, Nat.add_zero, entriesFrom, Except.bind]
    cases entriesFrom names user line rest <;> rfl
  | cons record before ih =>
    have hline : line + (record :: before).length = line + 1 + before.length := by
      rw [List.length_cons]
      omega
    rw [List.cons_append, hline]
    -- the line grows with each record, so that the rest starts behind all of them
    rcases record_cases names user record with ⟨fault, h⟩ | ⟨r, h, hother⟩ | ⟨r, reason, h, hof, hentry⟩
      | ⟨r, e, h, hof, hentry⟩
    · rw [entriesFrom_of_error h, entriesFrom_of_error h]
      rfl
    · rw [entriesFrom_of_other h hother, entriesFrom_of_other h hother, ih]
    · rw [entriesFrom_of_invalid h hof hentry, entriesFrom_of_invalid h hof hentry]
      rfl
    · rw [entriesFrom_of_entry h hof hentry, entriesFrom_of_entry h hof hentry, ih]
      cases entriesFrom names user (line + 1) before with
      | error fault => rfl
      | ok entries => cases entriesFrom names user (line + 1 + before.length) rest <;> rfl

/-- All records are read exactly if each fits the columns and those of the user mean something. -/
theorem exists_entriesFrom_iff {line : Nat} {records : List (List Csv.Field)} :
    (∃ entries, entriesFrom names user line records = .ok entries) ↔
      ∀ record ∈ records, ∃ r, row names record = .ok r ∧
        (r.isOf user = true → ∃ e, r.entry = .ok e) := by
  induction records generalizing line with
  | nil => simp [entriesFrom]
  | cons record records ih =>
    rw [List.forall_mem_cons, ← @ih (line + 1)]
    rcases record_cases names user record with ⟨fault, h⟩ | ⟨r, h, hother⟩ | ⟨r, reason, h, hof, hentry⟩
      | ⟨r, e, h, hof, hentry⟩
    · simp [entriesFrom_of_error h, h]
    · simp [entriesFrom_of_other h hother, h, hother]
    · simp [entriesFrom_of_invalid h hof hentry, h, hof, hentry]
    · cases hrest : entriesFrom names user (line + 1) records <;>
        simp [entriesFrom_of_entry h hof hentry, hrest, h, hof, hentry, Except.map]

/-- A record stays as it is, or it is one of another user and its fields become any texts, except
for the name of its user. -/
inductive OthersReplaced (names : Option (List String)) (user : String) :
    List Csv.Field → List Csv.Field → Prop where
  /-- A record stays as it is. -/
  | kept (record : List Csv.Field) : OthersReplaced names user record record
  /-- A record of another user is replaced by one of that user with as many fields. -/
  | replaced {record record' : List Csv.Field} {r : CsvRow} {fields fields' : List String}
      (hrow : row names record = .ok r) (hother : r.isOf user = false)
      (htexts : Csv.texts? record = some fields) (htexts' : Csv.texts? record' = some fields')
      (hlength : fields'.length = fields.length)
      (huser : userField? names fields' = userField? names fields) :
      OthersReplaced names user record record'

/-- What the records of other users say makes no difference, except for the names of these users. -/
theorem entriesFrom_of_replaced {records records' : List (List Csv.Field)}
    (h : List.Forall₂ (OthersReplaced names user) records records') (line : Nat) :
    entriesFrom names user line records' = entriesFrom names user line records := by
  induction h generalizing line with
  | nil => rfl
  | @cons record record' records records' hrecord _ ih =>
    cases hrecord with
    | kept =>
      -- the same happens at this record, and the same at all others
      rcases record_cases names user record with ⟨fault, h⟩ | ⟨r, h, hother⟩
        | ⟨r, reason, h, hof, hentry⟩ | ⟨r, e, h, hof, hentry⟩
      · rw [entriesFrom_of_error h, entriesFrom_of_error h]
      · rw [entriesFrom_of_other h hother, entriesFrom_of_other h hother, ih]
      · rw [entriesFrom_of_invalid h hof hentry, entriesFrom_of_invalid h hof hentry]
      · rw [entriesFrom_of_entry h hof hentry, entriesFrom_of_entry h hof hentry, ih]
    | replaced hrow hother htexts htexts' hlength huser =>
      obtain ⟨r', hrow', hname⟩ := exists_row hrow htexts htexts' hlength huser
      have hother' : r'.isOf user = false := by
        rw [CsvRow.isOf, hname]
        exact hother
      rw [entriesFrom_of_other hrow hother, entriesFrom_of_other hrow' hother', ih]

/-! ## Files -/

/-- The names of the columns of a file; none if its first record is no text. -/
def columnsOf (bytes : List UInt8) : Option (List String) :=
  (Csv.records bytes).head?.bind names?

/-- The records of a file behind the first one, which names the columns. -/
def recordsOf (bytes : List UInt8) : List (List Csv.Field) :=
  (Csv.records bytes).tail

/-- The entries of a user are read record by record behind the columns. -/
theorem entriesOf_eq (user : String) (bytes : List UInt8) :
    entriesOf user bytes = entriesFrom (columnsOf bytes) user 2 (recordsOf bytes) := by
  rw [entriesOf, columnsOf, recordsOf]
  cases Csv.records bytes <;> rfl

/-- The entries of a user can be read exactly if all records of the file fit the columns and those
under the name of the user, up to blanks and case, mean something. They are the entries of these
records, one each and in the order of the file. Nothing that other users' records say makes a
difference, neither to the entries nor to the fault that is reported and its line. -/
theorem entries_of_user (bytes : List UInt8) (user : String) :
    ((∃ entries, entriesOf user bytes = .ok entries) ↔
      ∀ record ∈ recordsOf bytes, ∃ r, row (columnsOf bytes) record = .ok r ∧
        (r.isOf user = true → ∃ e, r.entry = .ok e)) ∧
    (∀ entries, entriesOf user bytes = .ok entries → ∃ rows,
      List.Forall₂ (fun record r => row (columnsOf bytes) record = .ok r) (recordsOf bytes) rows ∧
      List.Forall₂ (fun r e => r.entry = .ok e) (rows.filter (·.isOf user)) entries) ∧
    ∀ bytes', columnsOf bytes' = columnsOf bytes →
      List.Forall₂ (OthersReplaced (columnsOf bytes) user) (recordsOf bytes) (recordsOf bytes') →
      entriesOf user bytes' = entriesOf user bytes := by
  simp only [entriesOf_eq]
  refine ⟨exists_entriesFrom_iff, fun entries h => entriesFrom_eq_ok_iff.1 h, ?_⟩
  intro bytes' hcolumns h
  rw [hcolumns]
  exact entriesFrom_of_replaced h 2

/-- The columns of a written table are its header. -/
theorem columnsOf_writtenTexts {header : List String} {rows : List (List String)}
    (hheader : header ≠ []) (hrows : ∀ r ∈ rows, r ≠ []) :
    columnsOf (Csv.writtenTexts (header :: rows)) = some (header.map Text.trimmed) := by
  rw [columnsOf, Csv.records_writtenTexts (List.forall_mem_cons.2 ⟨hheader, hrows⟩)]
  simp [names?, Csv.texts?_map_bytesOf]

theorem recordsOf_writtenTexts {header : List String} {rows : List (List String)}
    (hheader : header ≠ []) (hrows : ∀ r ∈ rows, r ≠ []) :
    recordsOf (Csv.writtenTexts (header :: rows)) = rows.map (·.map Csv.bytesOf) := by
  rw [recordsOf, Csv.records_writtenTexts (List.forall_mem_cons.2 ⟨hheader, hrows⟩)]
  rfl

/-- A record of texts that fits the columns is a row. -/
theorem row_map_bytesOf {columns fields : List String} {r : CsvRow}
    (h : CsvRow.ofNamed? columns fields = some r) :
    row (some columns) (fields.map Csv.bytesOf) = .ok r := by
  simp [row, Csv.texts?_map_bytesOf, h]

/-- A file with the usual columns, in which a record of another user stands before one that is at
fault. -/
def sharedFile (ravi : List String) : List UInt8 :=
  Csv.writtenTexts [CsvRow.columns, "ravi" :: ravi,
    ["Asha", "t3", "soon", "", "", "1", "INCOME", "", "", "", ""]]

/-- A record of another user with a fault. -/
theorem fault_beside_ravi :
    let salary := ["t2", "2025-01-06", "Salary", "", "90000", "INCOME", "false", "", "", ""]
    let nothing := ["", "never", "a\nb", "\"", "none", "", "?", "hourly", "", ""]
    columnsOf (sharedFile nothing) = columnsOf (sharedFile salary) ∧
      List.Forall₂ (OthersReplaced (columnsOf (sharedFile salary)) "asha")
        (recordsOf (sharedFile salary)) (recordsOf (sharedFile nothing)) ∧
      entriesOf "asha" (sharedFile nothing) = entriesOf "asha" (sharedFile salary) ∧
      entriesOf "asha" (sharedFile salary) = .error (.invalidRecord 3 "bad date 'soon'") := by
  intro salary nothing
  have hnames : CsvRow.columns.map Text.trimmed = CsvRow.columns := by decide
  have hcolumns : ∀ ravi, columnsOf (sharedFile ravi) = some CsvRow.columns := by
    intro ravi
    rw [sharedFile, columnsOf_writtenTexts (by decide) (by simp), hnames]
  have hrecords : ∀ ravi, recordsOf (sharedFile ravi) = [("ravi" :: ravi).map Csv.bytesOf,
      ["Asha", "t3", "soon", "", "", "1", "INCOME", "", "", "", ""].map Csv.bytesOf] := by
    intro ravi
    rw [sharedFile, recordsOf_writtenTexts (by decide) (by simp)]
    rfl
  have hravi : row (some CsvRow.columns) (("ravi" :: salary).map Csv.bytesOf) =
      .ok ⟨"ravi", "t2", "2025-01-06", "Salary", "", "90000", "INCOME", "false", "", "", ""⟩ :=
    row_map_bytesOf (by decide)
  have hreplaced : List.Forall₂ (OthersReplaced (columnsOf (sharedFile salary)) "asha")
      (recordsOf (sharedFile salary)) (recordsOf (sharedFile nothing)) := by
    rw [hcolumns, hrecords, hrecords]
    refine .cons ?_ (.cons (.kept _) .nil)
    exact .replaced hravi (by decide) (Csv.texts?_map_bytesOf _) (Csv.texts?_map_bytesOf _)
      (by decide) (by decide)
  have hsame := (entries_of_user (sharedFile salary) "asha").2.2 (sharedFile nothing)
    (by rw [hcolumns, hcolumns]) hreplaced
  refine ⟨by rw [hcolumns, hcolumns], hreplaced, hsame, ?_⟩
  let asha : CsvRow := ⟨"Asha", "t3", "soon", "", "", "1", "INCOME", "", "", "", ""⟩
  have hasha : row (some CsvRow.columns)
      (["Asha", "t3", "soon", "", "", "1", "INCOME", "", "", "", ""].map Csv.bytesOf) = .ok asha :=
    row_map_bytesOf (by decide)
  have hdate : Moment.read? "soon".toList = none := Option.isNone_iff_eq_none.1 (by decide)
  have hinvalid : asha.entry = .error "bad date 'soon'" := by
    rw [CsvRow.entry, hdate]
    rfl
  rw [entriesOf_eq, hcolumns, hrecords, entriesFrom_of_other hravi (by decide),
    entriesFrom_of_invalid hasha (by decide) hinvalid]

end CsvLedger

end AskLedger
