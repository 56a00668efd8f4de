import AskLedger.Calendar.Layout
import AskLedger.Calendar.Written
import AskLedger.Proofs.Numerals

/-!
# Written moments

A moment as it is written, to the second, is read back as that moment without its fraction of a
second; a leap second stays one. This holds in all years, those before the year 0 and those of more
than four digits included.

* `Layout.leadingYear?_writtenYear`: a written year is read back.
* `Layout.read?_written`: so are all the fields of a written moment.
* `Moment.read?_written`: so is the moment.
-/

namespace AskLedger

open Decimal (numeral length_numeral_le)

/-- Nothing is dropped from a text whose first character stays. -/
theorem Text.dropWhile_of_head? {p : Char → Bool} {s : List Char}
    (h : ∀ c ∈ s.head?, p c = false) : s.dropWhile p = s := by
  cases s with
  | nil => rfl
  | cons c s => simp [h c rfl]

theorem Text.dropWhile_eq_self {p : Char → Bool} {s : List Char} (h : ∀ c ∈ s, p c = false) :
    s.dropWhile p = s :=
  dropWhile_of_head? fun c hc => h c (List.mem_of_mem_head? hc)

/-- Nothing is trimmed from a text that has no blanks at its ends. -/
theorem Text.trim_of_ends {s : List Char} (hfirst : ∀ c ∈ s.head?, isBlank c = false)
    (hlast : ∀ c ∈ s.getLast?, isBlank c = false) : trim s = s := by
  -- the end is the start of the reversed text
  rw [trim, trimStart, dropWhile_of_head? hfirst, trimEnd,
    dropWhile_of_head? (by rwa [List.head?_reverse]), List.reverse_reverse]

/-- A text without blanks stays as it is. -/
theorem Text.trim_eq_self {s : List Char} (h : ∀ c ∈ s, isBlank c = false) : trim s = s :=
  trim_of_ends (fun c hc => h c (List.mem_of_mem_head? hc))
    fun c hc => h c (List.mem_of_getLast? hc)

theorem Text.isBlank_of_isDigit {c : Char} (h : c.isDigit = true) : isBlank c = false := by
  have hall : ∀ d ∈ Decimal.digits, isBlank d = false := forall_of_all (by decide)
  exact hall c (Decimal.mem_digits_of_isDigit h)

/-! ## Padded numbers -/

section
variable {width n : Nat}

/-- A padded number is its numeral with zeros in front. -/
theorem toList_padded :
    (padded width n).toList = List.replicate (width - (numeral n).length) '0' ++ numeral n := by
  have hlength : (toString n).length = (numeral n).length := by
    rw [Decimal.numeral_eq_toString, String.length_toList]
  simp only [padded, String.toList_append, String.toList_ofList, hlength,
    Decimal.numeral_eq_toString]

/-- A number that fits is padded to the width. -/
theorem length_padded (h : (numeral n).length ≤ width) :
    (padded width n).toList.length = width := by
  rw [toList_padded, List.length_append, List.length_replicate]
  omega

theorem padded_ne_nil : (padded width n).toList ≠ [] := by
  rw [toList_padded]
  exact List.append_ne_nil_of_right_ne_nil _ (Decimal.numeral_ne_nil n)

theorem isDigit_of_mem_padded : ∀ c ∈ (padded width n).toList, c.isDigit = true := by
  rw [toList_padded]
  exact List.forall_mem_append.2
    ⟨Decimal.isDigit_of_mem_replicate, fun c hc => Decimal.isDigit_of_mem_numeral hc⟩

/-- Zeros in front do not change a number. -/
theorem digitsValue_padded : Layout.digitsValue (padded width n).toList = n := by
  have hzeros : ∀ k, Layout.digitsValue (List.replicate k '0' ++ numeral n) = n := by
    intro k
    induction k with
    | zero => exact Decimal.digitsValue_numeral n
    | succ k ih => exact ih
  rw [toList_padded, hzeros]

end

/-- A year has four digits, or a sign and at least four. -/
theorem toList_writtenYear (year : Int) :
    (writtenYear year).toList =
      if 0 ≤ year ∧ year ≤ 9999 then (padded 4 year.natAbs).toList
      else (if year < 0 then '-' else '+') :: (padded 4 year.natAbs).toList := by
  unfold writtenYear
  split
  · rfl
  · split <;> simp

/-- A year is written with digits and a sign. -/
theorem of_mem_writtenYear {year : Int} {c : Char} (h : c ∈ (writtenYear year).toList) :
    c.isDigit = true ∨ c ∈ ['-', '+'] := by
  rw [toList_writtenYear] at h
  split at h
  · exact .inl (isDigit_of_mem_padded c h)
  · rcases List.mem_cons.1 h with rfl | h
    · right
      split <;> simp
    · exact .inl (isDigit_of_mem_padded c h)

theorem isBlank_of_mem_writtenYear {year : Int} {c : Char} (h : c ∈ (writtenYear year).toList) :
    Text.isBlank c = false := by
  have hsigns : ∀ d ∈ ['-', '+'], Text.isBlank d = false := Text.forall_of_all (by decide)
  exact (of_mem_writtenYear h).elim Text.isBlank_of_isDigit (hsigns c)

theorem writtenYear_ne_nil (year : Int) : (writtenYear year).toList ≠ [] := by
  rw [toList_writtenYear]
  split
  · exact padded_ne_nil
  · exact List.cons_ne_nil _ _

/-! ## Reading written fields -/

namespace Layout

variable {rest : List Char} (hrest : ∀ c ∈ rest.head?, c.isDigit = false)

/-- What starts with a digit is no signed year. -/
theorem leadingYear?_of_isDigit {c : Char} (hc : c.isDigit = true) (s : List Char) :
    leadingYear? (c :: s) =
      (leadingNumber? (some 4) (c :: s)).map fun (n, rest) => ((n : Int), rest) := by
  have hsign : c ≠ '-' ∧ c ≠ '+' := by
    constructor <;> (rintro rfl; exact absurd hc (by decide))
  simp [leadingYear?, hsign]

include hrest

/-- Digits that no digit follows are read as their number, unless there are too many of them. -/
theorem leadingNumber?_append {ds : List Char} (hne : ds ≠ []) (hds : ∀ c ∈ ds, c.isDigit = true)
    {limit : Option Nat} (hlimit : ∀ n ∈ limit, ds.length ≤ n) :
    leadingNumber? limit (ds ++ rest) = some (digitsValue ds, rest) := by
  have hrun : (ds ++ rest).takeWhile Char.isDigit = ds := Text.takeWhile_run hds hrest
  cases limit with
  | none => simp [leadingNumber?, hrun, hne]
  | some n => simp [leadingNumber?, hrun, hne, List.take_of_length_le (hlimit n rfl)]

/-- A padded number is read with its value, up to what follows. -/
theorem leadingNumber?_padded {width n : Nat} {limit : Option Nat}
    (hlimit : ∀ k ∈ limit, (padded width n).toList.length ≤ k) :
    leadingNumber? limit ((padded width n).toList ++ rest) = some (n, rest) := by
  rw [leadingNumber?_append hrest padded_ne_nil isDigit_of_mem_padded hlimit, digitsValue_padded]

/-- A written year is read back. -/
theorem leadingYear?_writtenYear (year : Int) :
    leadingYear? ((writtenYear year).toList ++ rest) = some (year, rest) := by
  have hall : leadingNumber? none ((padded 4 year.natAbs).toList ++ rest) =
      some (year.natAbs, rest) := leadingNumber?_padded hrest (by simp)
  rw [toList_writtenYear]
  split
  · next hfour =>
    -- four digits are as many as are read without a sign
    have hlength : (padded 4 year.natAbs).toList.length = 4 :=
      length_padded (length_numeral_le (by decide) (by omega))
    have hyear : leadingNumber? (some 4) ((padded 4 year.natAbs).toList ++ rest) =
        some (year.natAbs, rest) := leadingNumber?_padded hrest (by simp [hlength])
    obtain ⟨c, s, hs⟩ : ∃ c s, (padded 4 year.natAbs).toList = c :: s :=
      List.exists_cons_of_ne_nil padded_ne_nil
    have hc : c.isDigit = true := isDigit_of_mem_padded c (by rw [hs]; exact List.mem_cons_self)
    rw [hs, List.cons_append] at hyear ⊢
    rw [leadingYear?_of_isDigit hc, hyear]
    simp [Int.natAbs_of_nonneg hfour.1]
  · split
    · rw [List.cons_append, leadingYear?, hall]
      simp only [Option.map_some, Option.some.injEq, Prod.mk.injEq, and_true]
      omega
    · rw [List.cons_append, leadingYear?, hall]
      simp only [Option.map_some, Option.some.injEq, Prod.mk.injEq, and_true]
      omega

end Layout

/-- Nothing is trimmed in front of a text that starts with no blank. -/
theorem Text.trimStart_append {s : List Char} (hne : s ≠ []) (h : ∀ c ∈ s, isBlank c = false)
    (rest : List Char) : trimStart (s ++ rest) = s ++ rest := by
  obtain ⟨c, s, rfl⟩ := List.exists_cons_of_ne_nil hne
  exact trimStart_cons_of_not_blank (h c List.mem_cons_self)

namespace Layout

section

variable {r r' : Reading} {parts : List LayoutPart} {s rest : List Char}

theorem read?_cons {part : LayoutPart} (h : readPart? part r s = some (r', rest)) :
    read? (part :: parts) r s = read? parts r' rest := by
  rw [read?, h]

theorem read?_mark (c : Char) : read? (.mark c :: parts) r (c :: rest) = read? parts r rest :=
  read?_cons (by simp [readPart?])

/-- A written year is read back. -/
theorem read?_year (hrest : ∀ c ∈ rest.head?, c.isDigit = false) (year : Int) :
    read? (.field .year :: parts) r ((writtenYear year).toList ++ rest) =
      read? parts { r with year } rest := by
  apply read?_cons
  rw [readPart?, Text.trimStart_append (writtenYear_ne_nil year)
    (fun _ hc => isBlank_of_mem_writtenYear hc), leadingYear?_writtenYear hrest]
  rfl

/-- A written field other than the year is read back. -/
theorem read?_field (hrest : ∀ c ∈ rest.head?, c.isDigit = false) {f : Field} (hf : f ≠ .year)
    {n : Nat} (hn : n < 100) :
    read? (.field f :: parts) r ((padded 2 n).toList ++ rest) = read? parts (put r n f) rest := by
  have hlength : (padded 2 n).toList.length = 2 :=
    length_padded (length_numeral_le (by decide) hn)
  have hnumber : leadingNumber? (some 2) ((padded 2 n).toList ++ rest) = some (n, rest) :=
    leadingNumber?_padded hrest (by simp [hlength])
  apply read?_cons
  have hpart : readPart? (.field f) r ((padded 2 n).toList ++ rest) =
      (leadingNumber? (some 2) (Text.trimStart ((padded 2 n).toList ++ rest))).map
        fun (n, rest) => (put r n f, rest) := by
    cases f with
    | year => exact absurd rfl hf
    | month | day | hour | minute | second => rfl
  rw [hpart, Text.trimStart_append padded_ne_nil
    fun c hc => Text.isBlank_of_isDigit (isDigit_of_mem_padded c hc), hnumber]
  rfl

/-- A written date is read back. -/
theorem read?_date (hrest : ∀ c ∈ rest.head?, c.isDigit = false) (d : Date) :
    read? (date ++ parts) r (d.written.toList ++ rest) =
      read? parts { r with year := d.year, month := d.month, day := d.day } rest := by
  have hcivil := d.isCivil
  have hdays := Date.daysIn_le d.year d.month
  have hmark : ∀ s : List Char, ∀ c ∈ ('-' :: s).head?, c.isDigit = false := by simp
  have htext : d.written.toList ++ rest = (writtenYear d.year).toList ++ '-' ::
      ((padded 2 d.month).toList ++ '-' :: ((padded 2 d.day).toList ++ rest)) := by
    simp [Date.written]
  simp only [htext, date, List.cons_append, List.nil_append]
  rw [read?_year (hmark _), read?_mark, read?_field (hmark _) (by decide) (by omega), read?_mark,
    read?_field hrest (by decide) (by omega)]
  rfl

/-- So is the time to the minute. -/
theorem read?_hourMinute (hrest : ∀ c ∈ rest.head?, c.isDigit = false) (m : Moment) :
    read? (hourMinute ++ parts) r
        ((padded 2 m.hour).toList ++ ':' :: ((padded 2 m.minute).toList ++ rest)) =
      read? parts { r with hour := m.hour, minute := m.minute } rest := by
  have htime := m.isTime
  have hhour : m.hour < 100 := by
    unfold Moment.hour
    omega
  have hminute : m.minute < 100 := by
    unfold Moment.minute
    omega
  simp only [hourMinute, List.cons_append, List.nil_append]
  rw [read?_field (by simp) (by decide) hhour, read?_mark, read?_field hrest (by decide) hminute]
  rfl

end

end Layout

theorem Moment.shownSecond_lt (m : Moment) : m.shownSecond < 100 := by
  have htime := m.isTime
  unfold shownSecond
  omega

/-- A written moment: its date and its time, part by part. -/
theorem Moment.toList_written (m : Moment) :
    m.written.toList = (writtenYear m.date.year).toList ++ '-' ::
      ((padded 2 m.date.month).toList ++ '-' :: ((padded 2 m.date.day).toList ++ 'T' ::
      ((padded 2 m.hour).toList ++ ':' :: ((padded 2 m.minute).toList ++ ':' ::
      ((padded 2 m.shownSecond).toList ++ []))))) := by
  simp [written, Date.written, clock]

namespace Layout

/-- What is read of a written moment. -/
def written (m : Moment) : Reading where
  year := m.year
  month := m.month
  day := m.date.day
  hour := m.hour
  minute := m.minute
  second := m.shownSecond

/-- A written moment is read field by field. -/
theorem read?_written (m : Moment) :
    read? (date ++ .mark 'T' :: anySecond) {} m.written.toList = some (written m) := by
  have htext : m.written.toList = m.date.written.toList ++ 'T' ::
      ((padded 2 m.hour).toList ++ ':' :: ((padded 2 m.minute).toList ++ ':' ::
        ((padded 2 m.shownSecond).toList ++ []))) := by
    simp [Moment.written, Moment.clock]
  have hlayout : anySecond = hourMinute ++ [.mark ':', .field .second, .fraction] := rfl
  rw [htext, read?_date (by simp), read?_mark, hlayout, read?_hourMinute (by simp), read?_mark,
    read?_field (by simp) (by decide) m.shownSecond_lt]
  rfl

end Layout

/-! ## Reading written moments -/

namespace Moment

/-- The fields of a moment, with its fraction of a second, stand for the moment. -/
theorem moment?_inFull (m : Moment) :
    ({ Layout.written m with nano := m.shownNano } : Reading).moment? = some m := by
  have htime := m.isTime
  have hread : ({ Layout.written m with nano := m.shownNano } : Reading).moment? =
      at? m.date m.hour m.minute m.shownSecond m.shownNano := by
    simp [Reading.moment?, Layout.written, year, month]
  have hvalid : m.hour < 24 ∧ m.minute < 60 ∧ m.shownSecond ≤ 60 ∧ m.shownNano < 1000000000 := by
    simp only [hour, minute, shownSecond, shownNano]
    omega
  -- a moment is its day, second and nanosecond, so these are all there is to compare
  have hext : ∀ {second nano : Nat} {h}, second = m.second → nano = m.nano →
      some (⟨m.date, second, nano, h⟩ : Moment) = some m := by
    rintro _ _ _ rfl rfl
    rfl
  rw [hread, at?, dif_pos hvalid]
  by_cases hleap : 1000000000 ≤ m.nano
  · -- a leap second is shown as second 60 and kept as the second before it
    have hsecond : m.shownSecond = 60 := by
      unfold shownSecond
      omega
    rw [dif_pos hsecond]
    apply hext <;> simp only [hour, minute, shownNano] <;> omega
  · have hsecond : m.shownSecond = m.second % 60 := by
      unfold shownSecond
      omega
    have hshort : m.shownSecond ≠ 60 := by omega
    rw [dif_neg hshort]
    apply hext <;> simp only [hour, minute, hsecond, shownNano] <;> omega

/-- The moment that is read is the one that was written, but for its fraction of a second. -/
theorem moment?_written (m : Moment) : (Layout.written m).moment? = some m.wholeSecond := by
  -- without a fraction both are written alike
  have hsecond : m.wholeSecond.shownSecond = m.shownSecond := by
    simp only [wholeSecond, shownSecond]
    omega
  have hnano : m.wholeSecond.shownNano = 0 := by
    simp only [wholeSecond, shownNano]
    omega
  have hfields : Layout.written m =
      { Layout.written m.wholeSecond with nano := m.wholeSecond.shownNano } := by
    rw [hnano, Layout.written, Layout.written, hsecond]
    rfl
  rw [hfields, moment?_inFull]

/-- A moment is written with digits and few marks. -/
theorem of_mem_written {m : Moment} {c : Char} (h : c ∈ m.written.toList) :
    c.isDigit = true ∨ c ∈ ['-', '+', 'T', ':'] := by
  have hpadded : ∀ {n}, c ∈ (padded 2 n).toList → c.isDigit = true := isDigit_of_mem_padded c
  have hyear : c ∈ (writtenYear m.date.year).toList → c.isDigit = true ∨ c ∈ ['-', '+'] :=
    of_mem_writtenYear
  simp only [toList_written, List.mem_append, List.mem_cons, List.not_mem_nil, or_false]
    at h hyear ⊢
  grind

/-- A written moment is read back without its fraction of a second. -/
theorem read?_written (m : Moment) : read? m.written.toList = some m.wholeSecond := by
  have hmarks : ∀ c ∈ ['-', '+', 'T', ':'], Text.isBlank c = false ∧ (c == 'Z') = false :=
    Text.forall_of_all (by decide)
  have hdigits : ∀ c ∈ Decimal.digits, (c == 'Z') = false := Text.forall_of_all (by decide)
  have hblank : ∀ c ∈ m.written.toList, Text.isBlank c = false := fun c hc =>
    (of_mem_written hc).elim Text.isBlank_of_isDigit fun hmark => (hmarks c hmark).1
  have hzone : ∀ c ∈ m.written.toList.reverse, (c == 'Z') = false := fun c hc =>
    (of_mem_written (List.mem_reverse.1 hc)).elim
      (fun hdigit => hdigits c (Decimal.mem_digits_of_isDigit hdigit))
      fun hmark => (hmarks c hmark).2
  have hbody : ((Text.trim m.written.toList).reverse.dropWhile (· == 'Z')).reverse =
      m.written.toList := by
    rw [Text.trim_eq_self hblank, Text.dropWhile_eq_self hzone, List.reverse_reverse]
  have hread : readAs? (Layout.date ++ .mark 'T' :: Layout.anySecond) m.written.toList =
      some m.wholeSecond := by
    rw [readAs?, Layout.read?_written]
    exact moment?_written m
  -- the first layout that is tried is the one that is written
  rw [read?, hbody, layouts, List.findSome?_cons, hread]

end Moment

end AskLedger
