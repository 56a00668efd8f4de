import AskLedger.Proofs.GivenRows

/-!
# Lines of records

A fault is reported with a number that counts records: the first one, which names the columns, has
number one. A line of the file ends with a line feed, a return, or a return and a line feed. Most
line ends end a record, but not those of blank lines and those between quotes. So the number that is
reported is that of the line where the record begins, less the number of such line ends in front.

* `Csv.exists_front`: where the records of a file begin.
* `Csv.lineEnds_eq`: the line ends in front of a record.
* `CsvLedger.entriesFrom_eq_invalid_iff`: which record is reported as a fault.
* `CsvLedger.reported_line`: the number that is reported and the line of the file.
-/

namespace AskLedger

/-! ## Line ends -/

namespace Csv

/-- The number of line ends; after a return a line feed is none of its own. -/
def lineEnds (afterReturn : Bool) : List UInt8 → Nat
  | [] => 0
  | b :: rest =>
    (if endsLine b && !(afterReturn && b == 10) then 1 else 0) + lineEnds (b == 13) rest

/-- Whether a line end at a place ends no record: in front of a record, where it is that of a blank
line, and between quotes. -/
def isLoose (place : Place) : Bool := place == .recordStart || place == .quoted

/-- The number of line ends that end no record. -/
def looseEnds (place : Place) (afterReturn : Bool) : List UInt8 → Nat
  | [] => 0
  | b :: rest =>
    (if endsLine b && !(afterReturn && b == 10) && isLoose place then 1 else 0) +
      looseEnds (step place b).2 (b == 13) rest

/-- The place behind some bytes. -/
def placeAfter (place : Place) : List UInt8 → Place
  | [] => place
  | b :: rest => placeAfter (step place b).2 rest

/-- What a byte does at a place. -/
inductive StepKind (place : Place) (b : UInt8) : Prop where
  /-- It ends a record, and the next one is in front. -/
  | endsRecord (hend : endsLine b = true) (hloose : isLoose place = false)
      (hstep : step place b = (.endRecord, .recordStart))
  /-- It is the line end of a blank line. -/
  | blankLine (hend : endsLine b = true) (hplace : place = .recordStart)
      (hstep : step place b = (.skip, .recordStart))
  /-- It belongs to a record, as a line end only between quotes. -/
  | inside (hend : endsLine b = true → place = .quoted ∧ (step place b).2 = .quoted)
      (hstep : (step place b).1 ≠ .endRecord)

/-- These are all the kinds of steps. -/
theorem stepKind (place : Place) (b : UInt8) : StepKind place b := by
  cases hend : endsLine b with
  | true =>
    -- a byte that ends a line is neither of the other two marks
    have hmarks : b ≠ comma ∧ b ≠ quote := by
      constructor <;> rintro rfl <;> cases hend
    have hplain : plainStep b = (.endRecord, .recordStart) := by simp [plainStep, hmarks, hend]
    cases place with
    | recordStart => exact .blankLine hend rfl (by simp [step, hend])
    | quoted => exact .inside (fun _ => ⟨rfl, by simp [step, hmarks]⟩) (by simp [step, hmarks])
    | fieldStart => exact .endsRecord hend rfl (by simp [step, hmarks, hplain])
    | plain => exact .endsRecord hend rfl (by simp [step, hplain])
    | quoteSeen => exact .endsRecord hend rfl (by simp [step, hmarks, hplain])
  | false =>
    have hplain : (plainStep b).1 ≠ .endRecord := by
      unfold plainStep
      split <;> simp [hend]
    refine .inside (fun h => by rw [hend] at h; cases h) ?_
    cases place with
    | recordStart | fieldStart | quoteSeen =>
      by_cases hquote : b = quote
      · subst hquote
        simp [step, hend]
      · simp [step, hend, hquote, hplain]
    | plain => exact hplain
    | quoted => by_cases hquote : b = quote <;> simp [step, hquote]

/-- A byte that ends no record leads to another place of the same record. -/
theorem exists_recordsFrom_cons {place : Place} {b : UInt8} (h : (step place b).1 ≠ .endRecord)
    (field : Field) (fields : List Field) (rest : List UInt8) : ∃ field' fields',
      recordsFrom place field fields (b :: rest) =
        recordsFrom (step place b).2 field' fields' rest := by
  rw [recordsFrom]
  cases hstep : step place b with
  | mk kind next =>
    rw [hstep] at h
    cases kind with
    | keep => exact ⟨_, _, rfl⟩
    | skip => exact ⟨_, _, rfl⟩
    | endField => exact ⟨_, _, rfl⟩
    | endRecord => exact absurd rfl h

/-- Bytes that lead from a place to the front of a record, where `n` records have ended in between:
all line ends that are not loose have ended one of them. -/
structure LeadsToStart (place : Place) (afterReturn : Bool) (front : List UInt8) (n : Nat) :
    Prop where
  /-- Behind these bytes a record may begin. -/
  atStart : placeAfter place front = .recordStart
  /-- Every line end is loose or ends a record. -/
  ends : lineEnds afterReturn front = n + looseEnds place afterReturn front

theorem LeadsToStart.cons {place : Place} {afterReturn : Bool} {b : UInt8} {front : List UInt8}
    {n k : Nat} (h : LeadsToStart (step place b).2 (b == 13) front n)
    (hk : (if endsLine b && !(afterReturn && b == 10) && !isLoose place then 1 else 0) = k) :
    LeadsToStart place afterReturn (b :: front) (n + k) where
  atStart := h.atStart
  ends := by
    rw [lineEnds, looseEnds, h.ends, ← hk]
    cases isLoose place <;> simp <;> omega

/-- A record begins in front of a byte that is no line end, where the records before it have ended.
All line ends in front of that byte that are not loose have ended one of these. -/
theorem exists_front {place : Place} {afterReturn : Bool} {field : Field} {fields : List Field}
    {bytes : List UInt8} {before after : List (List Field)} {record : List Field}
    (h : recordsFrom place field fields bytes = before ++ record :: after)
    (hstart : before = [] → place = .recordStart ∧ field = [] ∧ fields = [])
    (hreturn : afterReturn = true → isLoose place = true) :
    ∃ front b rest, bytes = front ++ b :: rest ∧ endsLine b = false ∧
      recordsFrom .recordStart [] [] (b :: rest) = record :: after ∧
      LeadsToStart place afterReturn front before.length := by
  -- along the bytes; the invariant is that no record goes on behind a return outside quotes
  induction bytes generalizing place afterReturn field fields before with
  | nil =>
    rw [recordsFrom] at h
    split at h
    · simp at h
    · next hplace =>
      have hnil : before = [] := by
        cases before with
        | nil => rfl
        | cons r before => simp at h
      exact absurd (hstart hnil).1 hplace
  | cons b bytes ih =>
    cases stepKind place b with
    | endsRecord hend hloose hstep =>
      rw [recordsFrom, hstep] at h
      cases before with
      | nil =>
        obtain ⟨rfl, -⟩ := hstart rfl
        cases hloose
      | cons r before =>
        obtain ⟨-, h⟩ := List.cons.inj h
        obtain ⟨front, c, rest, rfl, hc, hrest, hleads⟩ :=
          @ih .recordStart (b == 13) [] [] before h (fun _ => ⟨rfl, rfl, rfl⟩) fun _ => rfl
        have hfirst : afterReturn = false := by
          rw [Bool.eq_false_iff]
          intro hafter
          rw [hreturn hafter] at hloose
          cases hloose
        refine ⟨b :: front, c, rest, rfl, hc, hrest, .cons ?_ ?_⟩
        · rwa [hstep]
        · simp [hend, hloose, hfirst]
    | blankLine hend hplace hstep =>
      subst hplace
      rw [recordsFrom, hstep] at h
      obtain ⟨front, c, rest, rfl, hc, hrest, hleads⟩ :=
        @ih .recordStart (b == 13) field fields before h hstart fun _ => rfl
      refine ⟨b :: front, c, rest, rfl, hc, hrest, .cons (k := 0) ?_ (by simp [isLoose])⟩
      rwa [hstep]
    | inside hend hstep =>
      by_cases hnil : before = []
      · -- the record begins here
        obtain ⟨rfl, rfl, rfl⟩ := hstart hnil
        subst hnil
        have hb : endsLine b = false := by
          rw [Bool.eq_false_iff]
          intro hline
          cases (hend hline).1
        exact ⟨[], b, bytes, rfl, hb, h, rfl, rfl⟩
      · obtain ⟨field', fields', hnext⟩ := exists_recordsFrom_cons hstep field fields bytes
        rw [hnext] at h
        have hquoted : (b == 13) = true → isLoose (step place b).2 = true := by
          intro hcr
          obtain rfl := eq_of_beq hcr
          rw [(hend rfl).2]
          rfl
        obtain ⟨front, c, rest, rfl, hc, hrest, hleads⟩ :=
          @ih _ (b == 13) field' fields' before h (fun h => absurd h hnil) hquoted
        refine ⟨b :: front, c, rest, rfl, hc, hrest, hleads.cons (k := 0) ?_⟩
        cases hline : endsLine b with
        | false => simp
        | true => simp [(hend hline).1, isLoose]

end Csv

/-! ## Faults -/

namespace CsvLedger

variable {names : Option (List String)} {user : String}

/-- A record that does not fit the columns is not reported with a number. -/
theorem row_ne_invalid {record : List Csv.Field} {number : Nat} {reason : String} :
    row names record ≠ .error (.invalidRecord number reason) := by
  unfold row
  split
  · simp
  · simp only
    split <;> simp

/-- A record is reported as a fault if it is one of the user that means nothing, and all before it
fit and mean something if they are the user's. Its number counts from that of the first record. -/
theorem entriesFrom_eq_invalid_iff {line number : Nat} {reason : String}
    {records : List (List Csv.Field)} :
    entriesFrom names user line records = .error (.invalidRecord number reason) ↔
      ∃ before record after r, records = before ++ record :: after ∧
        (∃ entries, entriesFrom names user line before = .ok entries) ∧
        row names record = .ok r ∧ r.isOf user = true ∧ r.entry = .error reason ∧
        number = line + before.length := by
  constructor
  · induction records generalizing line with
    | nil => simp [entriesFrom]
    | cons record records ih =>
      intro h
      -- what the first record does decides whether it is the one
      rcases record_cases names user record with ⟨fault, hrow⟩ | ⟨r, hrow, hother⟩
        | ⟨r, reason', hrow, hof, hentry⟩ | ⟨r, e, hrow, hof, hentry⟩
      · rw [entriesFrom_of_error hrow] at h
        cases h
        exact absurd hrow row_ne_invalid
      · rw [entriesFrom_of_other hrow hother] at h
        obtain ⟨before, bad, after, r', rfl, ⟨entries, hbefore⟩, hbad, hof, hentry, hnumber⟩ := ih h
        refine ⟨record :: before, bad, after, r', rfl, ⟨entries, ?_⟩, hbad, hof, hentry, ?_⟩
        · rw [entriesFrom_of_other hrow hother, hbefore]
        · rw [hnumber, List.length_cons]
          omega
      · rw [entriesFrom_of_invalid hrow hof hentry] at h
        cases h
        exact ⟨[], record, records, r, rfl, ⟨[], rfl⟩, hrow, hof, hentry, rfl⟩
      · rw [entriesFrom_of_entry hrow hof hentry] at h
        have hrest : entriesFrom names user (line + 1) records =
            .error (.invalidRecord number reason) := by
          cases hfrom : entriesFrom names user (line + 1) records with
          | ok entries => simp [hfrom, Except.map] at h
          | error fault => simpa [hfrom, Except.map] using h
        obtain ⟨before, bad, after, r', rfl, ⟨entries, hbefore⟩, hbad, hof', hentry', hnumber⟩ :=
          ih hrest
        refine ⟨record :: before, bad, after, r', rfl, ⟨e :: entries, ?_⟩, hbad, hof', hentry', ?_⟩
        · rw [entriesFrom_of_entry hrow hof hentry, hbefore]
          rfl
        · rw [hnumber, List.length_cons]
          omega
  · rintro ⟨before, record, after, r, rfl, ⟨entries, hbefore⟩, hrow, hof, hentry, rfl⟩
    rw [entriesFrom_append, hbefore, entriesFrom_of_invalid hrow hof hentry]
    rfl

/-! ## Files -/

/-- A fault that is reported is the first record of the user that means nothing, and all records
before it fit. The number that is reported with it counts the records, the first one of the file
included. The line of the file on which the record begins is that number and the number of blank
lines and of line ends between quotes in front of it, so it is the one that is reported exactly if
there are none. -/
theorem reported_line {bytes : List UInt8} {user reason : String} {line : Nat}
    (h : entriesOf user bytes = .error (.invalidRecord line reason)) :
    ∃ front b rest before record after r,
      Csv.withoutMark bytes = front ++ b :: rest ∧ Csv.endsLine b = false ∧
      Csv.placeAfter .recordStart front = .recordStart ∧
      Csv.recordsFrom .recordStart [] [] (b :: rest) = record :: after ∧
      recordsOf bytes = before ++ record :: after ∧
      (∀ earlier ∈ before, ∃ r, row (columnsOf bytes) earlier = .ok r ∧
        (r.isOf user = true → ∃ e, r.entry = .ok e)) ∧
      row (columnsOf bytes) record = .ok r ∧ r.isOf user = true ∧ r.entry = .error reason ∧
      line = before.length + 2 ∧
      1 + Csv.lineEnds false front = line + Csv.looseEnds .recordStart false front ∧
      (1 + Csv.lineEnds false front = line ↔ Csv.looseEnds .recordStart false front = 0) := by
  rw [entriesOf_eq, entriesFrom_eq_invalid_iff] at h
  obtain ⟨before, record, after, r, hrecords, hbefore, hrow, hof, hentry, rfl⟩ := h
  -- the header is a record too, which the number counts and the records behind it do not
  obtain ⟨header, hheader⟩ : ∃ header,
      Csv.records bytes = header :: (before ++ record :: after) := by
    rw [recordsOf] at hrecords
    cases hall : Csv.records bytes with
    | nil => simp [hall] at hrecords
    | cons header rest =>
      rw [hall, List.tail_cons] at hrecords
      exact ⟨header, by rw [hrecords]⟩
  obtain ⟨front, b, rest, hbytes, hb, hrest, hstart, hends⟩ :=
    @Csv.exists_front .recordStart false [] [] _ (header :: before) after record hheader
      (fun _ => ⟨rfl, rfl, rfl⟩) fun _ => rfl
  rw [List.length_cons] at hends
  exact ⟨front, b, rest, before, record, after, r, hbytes, hb, hstart, hrest, hrecords,
    exists_entriesFrom_iff.1 hbefore, hrow, hof, hentry, by omega, by omega, by omega⟩

/-- The usual columns, a blank line, and a record of another user on two lines. -/
def spacedFront : List UInt8 := Csv.bytesOf (
  "user,id,date,description,category,amount,type,is_recurring,recurring_interval,account_name," ++
  "account_type\n\nravi,t1,2025-01-05,\"Rent\nflat 4\",,1,EXPENSE,,,,\r\n")

/-- A record without a date behind these lines. -/
def spacedFile : List UInt8 := spacedFront ++ Csv.bytesOf "asha,t2,soon,,,1,EXPENSE,,,,\n"

/-- The record on line five is reported with number three. -/
theorem fault_on_line_five :
    entriesOf "asha" spacedFile = .error (.invalidRecord 3 "bad date 'soon'") ∧
      Csv.placeAfter .recordStart spacedFront = .recordStart ∧
      1 + Csv.lineEnds false spacedFront = 5 ∧ Csv.looseEnds .recordStart false spacedFront = 2 ∧
      ∃ front rest before record after, Csv.withoutMark spacedFile = front ++ rest ∧
        Csv.recordsFrom .recordStart [] [] rest = record :: after ∧
        recordsOf spacedFile = before ++ record :: after ∧ 3 = before.length + 2 ∧
        1 + Csv.lineEnds false front = 3 + Csv.looseEnds .recordStart false front := by
  let ravi : CsvRow :=
    ⟨"ravi", "t1", "2025-01-05", "Rent\nflat 4", "", "1", "EXPENSE", "", "", "", ""⟩
  let asha : CsvRow := ⟨"asha", "t2", "soon", "", "", "1", "EXPENSE", "", "", "", ""⟩
  have hcolumns : columnsOf spacedFile = some CsvRow.columns := by decide +kernel
  have hrecords : recordsOf spacedFile =
      [ravi.fields.map Csv.bytesOf, asha.fields.map Csv.bytesOf] := by
    decide +kernel
  have hdate : Moment.read? asha.date.toList = none := Option.isNone_iff_eq_none.1 (by decide)
  have hinvalid : asha.entry = .error "bad date 'soon'" := by
    rw [CsvRow.entry, hdate]
    rfl
  have h : entriesOf "asha" spacedFile = .error (.invalidRecord 3 "bad date 'soon'") := by
    rw [entriesOf_eq, hcolumns, hrecords, entriesFrom_of_other (row_fields ravi) (by decide),
      entriesFrom_of_invalid (row_fields asha) (by decide) hinvalid]
  obtain ⟨front, b, rest, before, record, after, -, hbytes, -, -, hrest, hbad, -, -, -, -,
    hnumber, hlines, -⟩ := reported_line h
  exact ⟨h, by decide +kernel, by decide +kernel, by decide +kernel, front, b :: rest, before,
    record, after, hbytes, hrest, hbad, hnumber, hlines⟩

end CsvLedger

end AskLedger
