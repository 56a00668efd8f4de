import AskLedger.Proofs.GivenRows
import AskLedger.Proofs.NearestNumbers
import AskLedger.Proofs.OuterBlanks

/-!
# What holds of every entry of a record

Whatever a file of comma separated values says, the texts of its entries are trimmed, what is blank
is left out, and only an entry that recurs has a frequency. An amount is a magnitude, so it is never
below zero. But the reader of decimal numbers knows the names of what is no finite number, and
digits may stand for more than double precision holds; so the amount is finite exactly if its field,
apart from blanks, commas and a sign, stands for a decimal number that is not too large.

* `Decimal.isFinite_iff_of_read?`, `Decimal.isNaN_iff_of_read?`: what is read as a finite number and
  what as none.
* `CsvRow.isTidy_of_entry`: the entry of a row is tidy.
* `CsvLedger.entries_are_tidy`: so are the entries of a user in a file.
-/

namespace AskLedger

/-! ## Decimal numbers as texts -/

namespace Decimal

open Amount (overflow sign?)

/-- A text of digits with an optional point and an optional exponent, and the number that it stands
for. -/
inductive StandsFor : List Char → Rat → Prop where
  /-- Without a point there has to be a digit. -/
  | whole {ds tail : List Char} {e : Int} (hdigits : ∀ c ∈ ds, c.isDigit = true) (hne : ds ≠ [])
      (htail : exponent? tail = some e) : StandsFor (ds ++ tail) (Layout.digitsValue ds * 10 ^ e)
  /-- With a point there has to be one before it or after it. -/
  | pointed {ds places tail : List Char} {e : Int} (hdigits : ∀ c ∈ ds ++ places, c.isDigit = true)
      (hne : ds ++ places ≠ []) (htail : exponent? tail = some e) :
      StandsFor (ds ++ '.' :: (places ++ tail))
        (Layout.digitsValue (ds ++ places) * 10 ^ (e - places.length))

variable {s : List Char} {q : Rat} {x : Float}

/-- An exponent starts with its mark, so it goes on neither digits nor a point. -/
theorem head_of_exponent? {e : Int} (h : exponent? s = some e) :
    ∀ c ∈ s.head?, c.isDigit = false ∧ c ≠ '.' := by
  cases s with
  | nil => simp
  | cons c s =>
    rw [exponent?_cons] at h
    split at h
    · next hmark =>
      rintro d ⟨⟩
      rcases hmark with rfl | rfl <;> decide
    · cases h

/-- A text that stands for a number is read as the nearest one of double precision. -/
theorem unsigned?_of_standsFor (h : StandsFor s q) :
    ∃ d e, unsigned? s = some (nearest d e) ∧ q = d * 10 ^ e := by
  cases h with
  | @whole ds tail e hdigits hne htail =>
    -- what follows the digits starts with neither a digit nor a point
    have hhead := head_of_exponent? htail
    have hfraction : fraction tail = ([], tail) := by
      unfold fraction
      split
      · exact absurd rfl (hhead _ rfl).2
      · rfl
    refine ⟨_, _, ?_, rfl⟩
    rw [unsigned?_eq, Text.takeWhile_run hdigits fun c hc => (hhead c hc).1,
      Text.dropWhile_run hdigits fun c hc => (hhead c hc).1, hfraction]
    simp [hne, htail]
  | @pointed ds places tail e hdigits hne htail =>
    obtain ⟨hds, hplaces⟩ := List.forall_mem_append.1 hdigits
    have hhead := head_of_exponent? htail
    have hpoint : ∀ c ∈ ('.' :: (places ++ tail)).head?, c.isDigit = false := by
      rintro c ⟨⟩
      rfl
    have hfraction : fraction ('.' :: (places ++ tail)) = (places, tail) :=
      Prod.ext (Text.takeWhile_run hplaces fun c hc => (hhead c hc).1)
        (Text.dropWhile_run hplaces fun c hc => (hhead c hc).1)
    refine ⟨_, _, ?_, rfl⟩
    rw [unsigned?_eq, Text.takeWhile_run hds hpoint, Text.dropWhile_run hds hpoint, hfraction]
    have hempty : (ds.isEmpty && places.isEmpty) = false := by
      rw [Bool.eq_false_iff]
      simpa using hne
    simp [hempty, htail]

/-- What is read as digits stands for a number. -/
theorem exists_standsFor (h : unsigned? s = some x) :
    ∃ d e, x = nearest d e ∧ StandsFor s (d * 10 ^ e) := by
  have hsplit := List.takeWhile_append_dropWhile (p := Char.isDigit) (l := s)
  have hds := List.all_eq_true.1 (List.all_takeWhile (p := Char.isDigit) (l := s))
  rw [unsigned?_eq] at h
  simp only at h
  generalize s.takeWhile Char.isDigit = ds at *
  generalize s.dropWhile Char.isDigit = rest at *
  subst hsplit
  split at h
  · cases h
  next hempty =>
  split at h
  · next e htail =>
    cases h
    unfold fraction at hempty htail ⊢
    -- with a point or without one
    split at htail
    · next rest =>
      have hplaces := List.all_eq_true.1 (List.all_takeWhile (p := Char.isDigit) (l := rest))
      have hrest := List.takeWhile_append_dropWhile (p := Char.isDigit) (l := rest)
      refine ⟨_, _, rfl, ?_⟩
      have hpointed := StandsFor.pointed (List.forall_mem_append.2 ⟨hds, hplaces⟩)
        (by simpa using hempty) htail
      rwa [hrest] at hpointed
    · refine ⟨_, _, rfl, ?_⟩
      have hwhole := StandsFor.whole hds (by simpa using hempty) htail
      simpa using hwhole
  · cases h

/-- Digits are no name. -/
theorem named?_of_standsFor (h : StandsFor s q) : named? s = none := by
  have hhead : ∃ c rest, s = c :: rest ∧ (c.isDigit = true ∨ c = '.') := by
    cases h with
    | @whole ds tail e hdigits hne htail =>
      obtain ⟨c, ds, rfl⟩ := List.exists_cons_of_ne_nil hne
      exact ⟨c, _, rfl, .inl (hdigits c List.mem_cons_self)⟩
    | @pointed ds places tail e hdigits hne htail =>
      cases ds with
      | nil => exact ⟨'.', _, rfl, .inr rfl⟩
      | cons c ds => exact ⟨c, _, rfl, .inl (hdigits c List.mem_cons_self)⟩
  obtain ⟨c, rest, rfl, hc⟩ := hhead
  -- all names start with one of these letters
  have hlower : c.toLower ≠ 'i' ∧ c.toLower ≠ 'n' := by
    have hdigit : c.toLower.isDigit = c.isDigit := Text.apply_toLower (by decide) c
    have hpoint : c.toLower = '.' ↔ c = '.' := Text.toLower_eq_iff (by decide)
    constructor
    · intro heq
      rw [heq] at hdigit hpoint
      rcases hc with hc | hc <;> simp_all
    · intro heq
      rw [heq] at hdigit hpoint
      rcases hc with hc | hc <;> simp_all
  simp [named?, String.ext_iff, hlower]

/-- Without its sign a number is named or given by digits, and that says whether it is a finite one
and whether it is one at all. -/
theorem exists_of_read? (h : read? s = some x) : ∃ y,
    (named? (signed s).2 = some y ∨
      named? (signed s).2 = none ∧ unsigned? (signed s).2 = some y) ∧
    x.isFinite = y.isFinite ∧ x.isNaN = y.isNaN := by
  rw [read?_eq] at h
  obtain ⟨y, hy, rfl⟩ := Option.map_eq_some_iff.1 h
  refine ⟨y, Option.or_eq_some_iff.1 hy, ?_⟩
  split
  · exact ⟨Amount.isFinite_neg, Amount.isNaN_neg⟩
  · exact ⟨rfl, rfl⟩

/-- A number is read as a finite one exactly if its digits stand for one that is not too large. -/
theorem isFinite_iff_of_read? (h : read? s = some x) :
    x.isFinite = true ↔ ∃ q, StandsFor (signed s).2 q ∧ q < overflow := by
  obtain ⟨y, hnamed | ⟨-, hunsigned⟩, hfinite, -⟩ := exists_of_read? h <;> rw [hfinite]
  · have hy : y.isFinite = false := by
      rcases named?_cases hnamed with ⟨-, rfl⟩ | ⟨-, rfl⟩ <;> rfl
    rw [hy]
    refine iff_of_false Bool.false_ne_true ?_
    rintro ⟨q, hq, -⟩
    rw [named?_of_standsFor hq] at hnamed
    cases hnamed
  · obtain ⟨d, e, rfl, hstands⟩ := exists_standsFor hunsigned
    constructor
    · exact fun hlt => ⟨_, hstands, (isFinite_nearest_iff d e).1 hlt⟩
    · rintro ⟨q, hq, hlt⟩
      -- no digits stand for two numbers that are read differently
      obtain ⟨d', e', heq, rfl⟩ := unsigned?_of_standsFor hq
      rw [Option.some.inj (hunsigned.symm.trans heq)]
      exact (isFinite_nearest_iff d' e').2 hlt

/-- What is read is no number exactly if it is named so. -/
theorem isNaN_iff_of_read? (h : read? s = some x) :
    x.isNaN = true ↔ String.ofList ((signed s).2.map Char.toLower) = "nan" := by
  obtain ⟨y, hnamed | ⟨hnot, hunsigned⟩, -, hnan⟩ := exists_of_read? h <;> rw [hnan]
  · rcases named?_cases hnamed with ⟨hname, rfl⟩ | ⟨hname, rfl⟩
    · refine iff_of_false Bool.false_ne_true fun hnan => ?_
      rw [hnan] at hname
      exact absurd hname (by decide)
    · exact iff_of_true rfl hname
  · obtain ⟨d, e, rfl, -⟩ := exists_standsFor hunsigned
    have hy : (nearest d e).isNaN = false := by
      rw [Bool.eq_false_iff, Ne, Amount.isNaN_iff, sign?_nearest]
      exact Option.some_ne_none _
    rw [hy]
    refine iff_of_false Bool.false_ne_true fun hname => ?_
    simp [named?, hname] at hnot

end Decimal

/-! ## Rows -/

/-- An entry whose texts have no outer blanks and are left out where nothing is in them, and which
has a frequency only if it recurs. -/
structure Entry.IsTidy (e : Entry) : Prop where
  /-- What identifies the entry has no outer blanks. -/
  id : Text.trimmed e.id = e.id
  /-- What it was for is left out or not blank. -/
  description : ∀ s ∈ e.description?, Text.IsTrimmed s
  /-- So is the label it is filed under. -/
  category : ∀ s ∈ e.category?, Text.IsTrimmed s
  /-- So is the account, whose sort may be blank. -/
  account : ∀ a ∈ e.account?, Text.IsTrimmed a.name ∧ Text.trimmed a.kind = a.kind
  /-- Only an entry that recurs has a frequency. -/
  frequency : e.frequency? ≠ none → e.isRecurring = true

namespace CsvRow

variable {r : CsvRow} {e : Entry}

/-- Trimming twice is trimming once. -/
theorem trimmed_trimmed (s : String) : Text.trimmed (Text.trimmed s) = Text.trimmed s := by
  rw [Text.trimmed, Text.trimmed, String.toList_ofList, Text.trim_trim]

/-- What is left of a field that is not blank has no outer blanks. -/
theorem isTrimmed_of_nonBlank? {field : String} : ∀ s ∈ nonBlank? field, Text.IsTrimmed s := by
  intro s hs
  unfold nonBlank? at hs
  simp only at hs
  split at hs
  · cases hs
  · next hempty =>
    obtain rfl : Text.trimmed field = s := Option.some.inj hs
    refine ⟨trimmed_trimmed field, fun hnil => hempty ?_⟩
    rw [hnil]
    rfl

/-- The account of a row has no outer blanks. -/
theorem isTrimmed_of_account? {name kind : String} :
    ∀ a ∈ account? name kind, Text.IsTrimmed a.name ∧ Text.trimmed a.kind = a.kind := by
  intro a ha
  obtain ⟨n, hn, rfl⟩ := Option.map_eq_some_iff.1 ha
  exact ⟨isTrimmed_of_nonBlank? n hn, trimmed_trimmed kind⟩

/-- A value that is there is taken. -/
theorem orReason_eq_ok_iff {α : Type} {value : Option α} {name field : String} {a : α} :
    orReason value name field = .ok a ↔ value = some a := by
  cases value <;> simp [orReason]

/-- Where the parts of an entry come from that are not words of a list. -/
theorem parts_of_entry (h : r.entry = .ok e) :
    e.id = Text.trimmed r.id ∧ e.description? = nonBlank? r.description ∧
      e.category? = nonBlank? r.category ∧ amount? r.amount = some e.amount ∧
      e.account? = account? r.accountName r.accountKind := by
  simp only [entry, bind_eq_ok_iff, orReason_eq_ok_iff] at h
  obtain ⟨date, -, amount, hamount, direction, -, recurs, -, frequency, -, hentry⟩ := h
  rw [← Except.ok.inj hentry]
  simp only [hamount, and_self]

/-- The entry of a row is tidy. -/
theorem isTidy_of_entry (h : r.entry = .ok e) : e.IsTidy := by
  obtain ⟨hid, hdescription, hcategory, -, haccount⟩ := parts_of_entry h
  refine ⟨?_, ?_, ?_, ?_, isRecurring_of_frequency h⟩
  · rw [hid]
    exact trimmed_trimmed r.id
  · rw [hdescription]
    exact isTrimmed_of_nonBlank?
  · rw [hcategory]
    exact isTrimmed_of_nonBlank?
  · rw [haccount]
    exact isTrimmed_of_account?

/-- The field of the amount without blanks around it, commas and a sign. -/
def magnitude (r : CsvRow) : List Char :=
  (Decimal.signed (Text.without ',' (Text.trim r.amount.toList))).2

/-- The amount of an entry is not below zero unless it is no number, and it is finite exactly if its
field stands for a decimal number that is not too large. -/
theorem amount_of_entry (h : r.entry = .ok e) :
    (0 ≤ e.amount ↔ String.ofList (r.magnitude.map Char.toLower) ≠ "nan") ∧
    (e.amount.isFinite = true ↔
      ∃ q, Decimal.StandsFor r.magnitude q ∧ q < Amount.overflow) := by
  obtain ⟨-, -, -, hamount, -⟩ := parts_of_entry h
  obtain ⟨x, hread, habs⟩ := Option.map_eq_some_iff.1 hamount
  constructor
  · rw [← habs, Amount.nonneg_abs_iff, Bool.eq_false_iff, Ne, Decimal.isNaN_iff_of_read? hread]
    exact Iff.rfl
  · rw [← habs, Amount.isFinite_abs]
    exact Decimal.isFinite_iff_of_read? hread

end CsvRow

/-! ## Files -/

namespace CsvLedger

/-- The entries of a user come from that user's records, one from each and in order, and each of
them is tidy. Its amount is not below zero unless the record names what is no number, and it is
finite exactly if the record says a decimal number below the least one that is rounded to
infinity. -/
theorem entries_are_tidy {bytes : List UInt8} {user : String} {entries : List Entry}
    (h : entriesOf user bytes = .ok entries) : ∃ rows,
      List.Forall₂ (fun record r => row (columnsOf bytes) record = .ok r) (recordsOf bytes) rows ∧
      List.Forall₂ (fun r e => r.entry = .ok e ∧ e.IsTidy ∧
          (0 ≤ e.amount ↔ String.ofList (r.magnitude.map Char.toLower) ≠ "nan") ∧
          (e.amount.isFinite = true ↔
            ∃ q, Decimal.StandsFor r.magnitude q ∧ q < Amount.overflow))
        (rows.filter (·.isOf user)) entries := by
  rw [entriesOf_eq, entriesFrom_eq_ok_iff] at h
  obtain ⟨rows, hrows, hentries⟩ := h
  refine ⟨rows, hrows, hentries.imp fun r e he => ?_⟩
  exact ⟨he, CsvRow.isTidy_of_entry he, CsvRow.amount_of_entry he⟩

/-- A record with blanks around its texts, a sign and a comma in its amount, and a frequency that
does not count. -/
def roughRow : CsvRow :=
  ⟨"Asha", " t1 ", "2025-01-05", " Rent ", " ", "-1,250.50", "expense", "no", "monthly", " Bank ",
    ""⟩

/-- A record whose amount is no number. -/
def numberlessRow : CsvRow :=
  ⟨"asha", "t2", "2025-01-06", "", "", "NaN", "INCOME", "", "", "", "cash"⟩

/-- A row with outer blanks and a negative amount. -/
theorem roughRow_is_tidy :
    let bytes := table [roughRow.fields, numberlessRow.fields]
    let rent : Entry :=
      { id := "t1", date := .startOf ⟨2025, 1, 5, by decide⟩, description? := some "Rent"
        amount := 1250.5, direction := .expense, account? := some ⟨"Bank", ""⟩ }
    let empty : Entry :=
      { id := "t2", date := .startOf ⟨2025, 1, 6, by decide⟩, amount := 0.0 / 0.0
        direction := .income }
    entriesOf "asha" bytes = .ok [rent, empty] ∧
      rent.IsTidy ∧ empty.IsTidy ∧ 0 ≤ rent.amount ∧ rent.amount.isFinite = true ∧
      ¬ 0 ≤ empty.amount ∧ ¬ empty.amount.isFinite = true := by
  intro bytes rent empty
  have hne : ∀ r ∈ [roughRow.fields, numberlessRow.fields], r ≠ [] := by decide
  have hrent : roughRow.entry = .ok rent := rfl
  have hempty : numberlessRow.entry = .ok empty := rfl
  have h : entriesOf "asha" bytes = .ok [rent, empty] := by
    rw [entriesOf_eq, columnsOf_table hne, recordsOf_table hne, List.map_cons, List.map_singleton,
      entriesFrom_of_entry (row_fields roughRow) (by decide) hrent,
      entriesFrom_of_entry (row_fields numberlessRow) (by decide) hempty]
    rfl
  obtain ⟨rows, hrows, hentries⟩ := entries_are_tidy h
  rw [columnsOf_table hne, recordsOf_table hne] at hrows
  simp only [List.map_cons, List.map_nil, List.forall₂_cons_left_iff, List.forall₂_nil_left_iff,
    row_fields, Except.ok.injEq] at hrows
  obtain ⟨_, _, rfl, ⟨_, _, rfl, rfl, rfl⟩, rfl⟩ := hrows
  have hof : [roughRow, numberlessRow].filter (·.isOf "asha") = [roughRow, numberlessRow] := by
    decide
  rw [hof] at hentries
  simp only [List.forall₂_cons, List.forall₂_nil_right_iff, and_true] at hentries
  obtain ⟨⟨-, htidy, hnonneg, hfinite⟩, -, htidy', hnot, -⟩ := hentries
  have hnan : String.ofList (numberlessRow.magnitude.map Char.toLower) = "nan" := by decide
  -- 125050 hundredths, since the comma is left out
  have hmagnitude : roughRow.magnitude = "1250.50".toList := by decide
  have hstands := @Decimal.StandsFor.pointed "1250".toList "50".toList [] 0
    (Text.forall_of_all (by decide)) (by decide) rfl
  have hsmall : ((Layout.digitsValue ("1250".toList ++ "50".toList) : Nat) : Rat) *
      10 ^ ((0 : Int) - ("50".toList.length : Nat)) < Amount.overflow := by
    have hdigits : Layout.digitsValue ("1250".toList ++ "50".toList) = 125050 := by decide
    have hplaces : "50".toList.length = 2 := by decide
    rw [hdigits, hplaces]
    calc ((125050 : Nat) : Rat) * 10 ^ ((0 : Int) - (2 : Nat)) ≤ ((1251 : Nat) : Rat) := by norm_num
      _ < Amount.overflow := Amount.lt_overflow (by decide)
  refine ⟨h, htidy, htidy', hnonneg.2 (by decide), hfinite.2 ⟨_, ?_, hsmall⟩,
    fun hle => hnot.1 hle hnan, by decide⟩
  rw [hmagnitude]
  exact hstands

end CsvLedger

end AskLedger
