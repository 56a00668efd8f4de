import AskLedger.Store.CsvLedger

/-!
# Written records

Records are written with every field between quotes, a quote in a field being doubled. Whatever
bytes the fields consist of, line ends and commas among them, the same records are read back. So
every list of records is what some file holds, provided that each of them has a field.

* `Csv.records_written`: what is written is read back.
* `Csv.texts?_map_bytesOf`: the fields of texts are read back as these texts.
-/

namespace AskLedger

/-- A text is read back from its bytes. -/
theorem Text.fromUTF8?_toUTF8 (s : String) : String.fromUTF8? s.toUTF8 = some s := by
  simp [String.fromUTF8?, s.isValidUTF8, String.fromUTF8]

namespace Csv

/-- The bytes of a field that are written between the quotes. -/
def doubled (field : Field) : List UInt8 :=
  field.flatMap fun b => if b = quote then [quote, quote] else [b]

/-- A record as it is written, with its line feed. -/
def writtenRecord : List Field → List UInt8
  | [] => [10]
  | [field] => quote :: (doubled field ++ [quote, 10])
  | field :: rest => quote :: (doubled field ++ quote :: comma :: writtenRecord rest)

/-- Records as they are written. -/
def written (records : List (List Field)) : List UInt8 :=
  records.flatMap writtenRecord

/-- Between quotes a field is read up to its closing quote. -/
theorem recordsFrom_doubled (field done : Field) (fields : List Field) (rest : List UInt8) :
    recordsFrom .quoted done fields (doubled field ++ rest) =
      recordsFrom .quoted (field.reverse ++ done) fields rest := by
  induction field generalizing done with
  | nil => rfl
  | cons b field ih =>
    have hdone : (b :: field).reverse ++ done = field.reverse ++ b :: done := by simp
    rw [hdone, ← ih]
    by_cases hb : b = quote
    · -- the first of two quotes might be the closing one, the second says that it is not
      simp [doubled, hb, recordsFrom, step]
    · simp [doubled, hb, recordsFrom, step]

/-- A field between quotes is read wherever a field may start. -/
theorem recordsFrom_quote {place : Place} (h : place = .recordStart ∨ place = .fieldStart)
    (field : Field) (fields : List Field) (rest : List UInt8) :
    recordsFrom place [] fields (quote :: (doubled field ++ quote :: rest)) =
      recordsFrom .quoteSeen field.reverse fields rest := by
  have hopen : ∀ s, recordsFrom place [] fields (quote :: s) = recordsFrom .quoted [] fields s := by
    rcases h with rfl | rfl <;> exact fun _ => rfl
  rw [hopen, recordsFrom_doubled, List.append_nil]
  rfl

/-- A written record is read back. -/
theorem recordsFrom_writtenRecord {place : Place} (h : place = .recordStart ∨ place = .fieldStart)
    (fields : List Field) {record : List Field} (hne : record ≠ []) (rest : List UInt8) :
    recordsFrom place [] fields (writtenRecord record ++ rest) =
      (fields.reverse ++ record) :: recordsFrom .recordStart [] [] rest := by
  induction record generalizing place fields with
  | nil => exact absurd rfl hne
  | cons field record ih =>
    cases record with
    | nil =>
      -- the line feed ends the record
      rw [writtenRecord, List.cons_append, List.append_assoc, List.cons_append,
        recordsFrom_quote h]
      simp [recordsFrom, step, plainStep, quote, comma, endsLine]
    | cons next record =>
      -- the comma ends the field, and the others follow
      have hcomma : ∀ s, recordsFrom .quoteSeen field.reverse fields (comma :: s) =
          recordsFrom .fieldStart [] (field :: fields) s := by
        intro s
        simp [recordsFrom, step, plainStep, quote, comma]
      rw [writtenRecord, List.cons_append, List.append_assoc, List.cons_append,
        recordsFrom_quote h, List.cons_append, hcomma, ih (.inr rfl) _ (List.cons_ne_nil _ _)]
      · simp
      · exact List.cons_ne_nil _ _

/-- Written records do not start with a byte order mark. -/
theorem withoutMark_written {records : List (List Field)} (h : ∀ r ∈ records, r ≠ []) :
    withoutMark (written records) = written records := by
  -- the first byte is a quote
  cases records with
  | nil => rfl
  | cons r records =>
    cases r with
    | nil => exact absurd rfl (h [] List.mem_cons_self)
    | cons field r => cases r <;> rfl

/-- What is written is read back. -/
theorem records_written {records : List (List Field)} (h : ∀ r ∈ records, r ≠ []) :
    Csv.records (written records) = records := by
  rw [Csv.records, withoutMark_written h]
  induction records with
  | nil => rfl
  | cons r records ih =>
    obtain ⟨hr, h⟩ := List.forall_mem_cons.1 h
    rw [written, List.flatMap_cons, recordsFrom_writtenRecord (.inl rfl) [] hr]
    exact congrArg (r :: ·) (ih h)

/-! ## Fields of texts -/

/-- The bytes of a text. -/
def bytesOf (s : String) : Field := s.toUTF8.data.toList

/-- A text is read back from the bytes of its field. -/
theorem text?_bytesOf (s : String) : text? (bytesOf s) = some s :=
  Text.fromUTF8?_toUTF8 s

/-- The fields of texts are read back as these texts. -/
theorem texts?_map_bytesOf (fields : List String) : texts? (fields.map bytesOf) = some fields := by
  induction fields with
  | nil => rfl
  | cons s fields ih =>
    rw [texts?] at ih ⊢
    rw [List.map_cons, List.mapM_cons, text?_bytesOf, ih]
    rfl

/-- Records of texts as they are written. -/
def writtenTexts (records : List (List String)) : List UInt8 :=
  written (records.map (·.map bytesOf))

/-- Written records are read back. -/
theorem records_writtenTexts {rows : List (List String)} (h : ∀ r ∈ rows, r ≠ []) :
    records (writtenTexts rows) = rows.map (·.map bytesOf) :=
  records_written (by simpa using h)

end Csv

end AskLedger
