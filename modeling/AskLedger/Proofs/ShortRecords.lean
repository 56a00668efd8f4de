import AskLedger.Proofs.TidyEntries

/-!
# Records that are too short

A record with fewer fields than there are columns does not fit them, even where only empty fields of
optional columns are missing. It ends the reading for every user, unless an earlier record has ended
it. Fields beyond the columns are dropped, so there empty fields make no difference.

* `CsvLedger.row_of_short`: a record that is too short does not fit.
* `CsvLedger.row_append_empty`: empty fields beyond the columns make no difference.
* `CsvLedger.entries_without_last_fields`: when the last empty fields of a record may be left out.
-/

namespace AskLedger

/-! ## Fields of a record -/

namespace CsvRow

/-- Fields beyond the columns are dropped. -/
theorem ofNamed?_append {names fields : List String} (more : List String)
    (h : names.length ≤ fields.length) :
    ofNamed? names (fields ++ more) = ofNamed? names fields := by
  have hzip : names.zip (fields ++ more) = names.zip fields := by
    rw [List.zip_eq_zip_take_min, @List.zip_eq_zip_take_min _ _ names fields, List.length_append,
      Nat.min_eq_left h, Nat.min_eq_left (Nat.le_add_right_of_le h),
      List.take_append_of_le_length h]
  have hmore : ¬(fields ++ more).length < names.length := by
    rw [List.length_append]
    omega
  rw [ofNamed?, ofNamed?, hzip, if_neg hmore, if_neg (Nat.not_lt.2 h)]

/-- A record with fewer fields than columns makes no row. -/
theorem ofNamed?_of_short {names fields : List String} (h : fields.length < names.length) :
    ofNamed? names fields = none := by
  rw [ofNamed?, if_pos h]

end CsvRow

/-- A record has a text for each field. -/
theorem Csv.length_of_texts? {record : List Csv.Field} {fields : List String}
    (h : Csv.texts? record = some fields) : fields.length = record.length := by
  induction record generalizing fields with
  | nil =>
    cases h
    rfl
  | cons field record ih =>
    rw [Csv.texts?, List.mapM_cons] at h
    obtain ⟨text, -, h⟩ := Option.bind_eq_some_iff.1 h
    obtain ⟨texts, htexts, h⟩ := Option.bind_eq_some_iff.1 h
    cases h
    rw [List.length_cons, List.length_cons, ih htexts]

/-- A record with empty fields at its end is one of texts exactly if it is without them. -/
theorem Csv.texts?_append_empty (record : List Csv.Field) (n : Nat) :
    Csv.texts? (record ++ List.replicate n []) =
      (Csv.texts? record).map (· ++ List.replicate n "") := by
  have hempty : Csv.texts? (List.replicate n []) = some (List.replicate n "") := by
    have htexts := Csv.texts?_map_bytesOf (List.replicate n "")
    rwa [List.map_replicate] at htexts
  rw [Csv.texts?, Csv.texts?, List.mapM_append]
  rw [Csv.texts?] at hempty
  rw [hempty]
  cases List.mapM Csv.text? record <;> rfl

namespace CsvLedger

variable {names : List String} {user : String} {record : List Csv.Field} {n : Nat}

/-- A record of texts that is too short does not fit the columns. -/
theorem row_of_short (h : record.length < names.length) :
    row (some names) record =
      .error (if Csv.texts? record = none then .recordEncoding else .recordShape) := by
  unfold row
  cases htexts : Csv.texts? record with
  | none => rfl
  | some fields =>
    have hlength : fields.length < names.length := by
      rwa [Csv.length_of_texts? htexts]
    simp only [CsvRow.ofNamed?_of_short hlength]
    rfl

/-- Empty fields at the end of a record make no difference if it has a field for each column without
them. -/
theorem row_append_empty (h : names.length ≤ record.length) :
    row (some names) (record ++ List.replicate n []) = row (some names) record := by
  unfold row
  rw [Csv.texts?_append_empty]
  cases htexts : Csv.texts? record with
  | none => rfl
  | some fields =>
    have hlength : names.length ≤ fields.length := by
      rwa [Csv.length_of_texts? htexts]
    simp only [Option.map_some, CsvRow.ofNamed?_append _ hlength]

/-- A record that is no list of texts is none with more fields either. -/
theorem row_append_of_encoding (h : Csv.texts? record = none) :
    row (some names) (record ++ List.replicate n []) = .error .recordEncoding := by
  rw [row, Csv.texts?_append_empty, h]
  rfl

/-! ## Files -/

section
variable {bytes : List UInt8} {before after : List (List Csv.Field)}

/-- The entries of a file come from the records in front of one, and from that one with those
behind it. -/
theorem entriesOf_around (hcolumns : columnsOf bytes = some names)
    (hrecords : recordsOf bytes = before ++ record :: after) (user : String) :
    entriesOf user bytes = (entriesFrom (some names) user 2 before).bind fun entries =>
      (entriesFrom (some names) user (2 + before.length) (record :: after)).map (entries ++ ·) := by
  rw [entriesOf_eq, hcolumns, hrecords, entriesFrom_append]

/-- A record that does not fit the columns ends the reading, unless an earlier one has ended it. -/
theorem entriesOf_of_error {fault : StoreError} (hcolumns : columnsOf bytes = some names)
    (hrecords : recordsOf bytes = before ++ record :: after)
    (hrow : row (some names) record = .error fault) (user : String) :
    entriesOf user bytes =
      (entriesFrom (some names) user 2 before).bind fun _ => .error fault := by
  rw [entriesOf_around hcolumns hrecords, entriesFrom_of_error hrow]
  rfl

/-- Records with the same row may stand for each other. -/
theorem entriesOf_congr {bytes' : List UInt8} {record' : List Csv.Field}
    (hcolumns : columnsOf bytes = some names) (hcolumns' : columnsOf bytes' = some names)
    (hrecords : recordsOf bytes = before ++ record :: after)
    (hrecords' : recordsOf bytes' = before ++ record' :: after)
    (hrow : row (some names) record' = row (some names) record) (user : String) :
    entriesOf user bytes' = entriesOf user bytes := by
  rw [entriesOf_around hcolumns hrecords, entriesOf_around hcolumns' hrecords']
  simp only [entriesFrom, hrow]

end

/-- A file in which a record lacks `n` empty fields at its end, compared with the one that has them.
If the record has too few fields, nothing is read for any user: unless an earlier record is at
fault, this one is. The empty fields make no difference exactly if there are enough without them, or
if the reading ends at an earlier record, at this one because it is no text, or elsewhere because
another record does not fit. -/
theorem entries_without_last_fields {bytes bytes' : List UInt8}
    {before after : List (List Csv.Field)} (hcolumns : columnsOf bytes = some CsvRow.columns)
    (hcolumns' : columnsOf bytes' = some CsvRow.columns)
    (hrecords : recordsOf bytes = before ++ (record ++ List.replicate n []) :: after)
    (hrecords' : recordsOf bytes' = before ++ record :: after) (user : String) :
    (record.length < CsvRow.columns.length → entriesOf user bytes' =
      (entriesFrom (some CsvRow.columns) user 2 before).bind fun _ =>
        .error (if Csv.texts? record = none then .recordEncoding else .recordShape)) ∧
    (entriesOf user bytes' = entriesOf user bytes ↔
      n = 0 ∨ CsvRow.columns.length ≤ record.length ∨
      (∃ fault, entriesFrom (some CsvRow.columns) user 2 before = .error fault) ∨
      Csv.texts? record = none ∨ entriesOf user bytes = .error .recordShape) := by
  -- a record with too few fields stops the reading once the records before it are read
  have hshort (hlength : record.length < CsvRow.columns.length) :=
    entriesOf_of_error hcolumns' hrecords' (row_of_short hlength) user
  refine ⟨hshort, ?_⟩
  by_cases hn : n = 0
  · refine iff_of_true ?_ (.inl hn)
    subst hn
    rw [List.replicate_zero, List.append_nil] at hrecords
    exact entriesOf_congr hcolumns hcolumns' hrecords hrecords' rfl user
  by_cases hlength : CsvRow.columns.length ≤ record.length
  · -- the same row, since what is dropped stands in no column
    have hrow := (row_append_empty (n := n) hlength).symm
    exact iff_of_true (entriesOf_congr hcolumns hcolumns' hrecords hrecords' hrow user)
      (.inr (.inl hlength))
  rw [hshort (Nat.lt_of_not_ge hlength)]
  by_cases htexts : Csv.texts? record = none
  · -- both records are at fault in the same way
    refine iff_of_true ?_ (.inr (.inr (.inr (.inl htexts))))
    rw [if_pos htexts]
    exact (entriesOf_of_error hcolumns hrecords (row_append_of_encoding htexts) user).symm
  cases hbefore : entriesFrom (some CsvRow.columns) user 2 before with
  | error fault =>
    refine iff_of_true ?_ (.inr (.inr (.inl ⟨fault, rfl⟩)))
    rw [entriesOf_around hcolumns hrecords, hbefore]
    rfl
  | ok entries => simp [hn, hlength, htexts, Except.bind, eq_comm]

/-- A payment with nothing in the optional columns but its label and what it was for. -/
def plainRow : CsvRow :=
  ⟨"asha", "t1", "2025-01-05", "Rent", "Housing", "1", "EXPENSE", "", "", "", ""⟩

/-- Without its last four fields the payment is not read. -/
theorem plainRow_without_last_fields :
    let bytes := table [plainRow.fields]
    let bytes' := table [plainRow.fields.take 7]
    let record := (plainRow.fields.take 7).map Csv.bytesOf
    columnsOf bytes = some CsvRow.columns ∧ columnsOf bytes' = some CsvRow.columns ∧
      recordsOf bytes = [] ++ (record ++ List.replicate 4 []) :: [] ∧
      recordsOf bytes' = [] ++ record :: [] ∧
      (∃ entries, entriesOf "asha" bytes = .ok entries) ∧
      entriesOf "asha" bytes' = .error .recordShape ∧
      entriesOf "asha" bytes' ≠ entriesOf "asha" bytes := by
  intro bytes bytes' record
  have hne : ∀ r ∈ [plainRow.fields], r ≠ [] := by decide
  have hne' : ∀ r ∈ [plainRow.fields.take 7], r ≠ [] := by decide
  have hcolumns : columnsOf bytes = some CsvRow.columns := columnsOf_table hne
  have hcolumns' : columnsOf bytes' = some CsvRow.columns := columnsOf_table hne'
  have hrecords : recordsOf bytes = [] ++ (record ++ List.replicate 4 []) :: [] :=
    recordsOf_table hne
  have hrecords' : recordsOf bytes' = [] ++ record :: [] := recordsOf_table hne'
  have htexts : Csv.texts? record ≠ none := by
    rw [Csv.texts?_map_bytesOf]
    exact Option.some_ne_none _
  obtain ⟨rent, hrent⟩ : ∃ e, plainRow.entry = .ok e := ⟨_, rfl⟩
  have hread : entriesOf "asha" bytes = .ok [rent] := by
    rw [entriesOf_eq, hcolumns, recordsOf_table hne, List.map_singleton,
      entriesFrom_of_entry (row_fields plainRow) (by decide) hrent]
    rfl
  obtain ⟨hshort, hsame⟩ :=
    entries_without_last_fields hcolumns hcolumns' hrecords hrecords' "asha"
  refine ⟨hcolumns, hcolumns', hrecords, hrecords', ⟨_, hread⟩, ?_, ?_⟩
  · rw [hshort (by decide), if_neg htexts]
    rfl
  · rw [Ne, hsame, hread]
    have hlength : ¬CsvRow.columns.length ≤ record.length := by decide
    simp [htexts, hlength, entriesFrom]

end CsvLedger

end AskLedger
