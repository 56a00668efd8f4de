import AskLedger.Proofs.Totals

/-!
# Months of a year

A year is broken down in one pass: every row is counted in the bucket of its month, and the buckets
that are not empty are listed. There is a bucket for every row. What is listed is what a reader of
the rows would put together month by month: the months that occur, in the order of the calendar,
each with the number of its rows and the sum of their amounts, added in the order of the rows. So it
does not matter how rows of different months are mixed.

* `YearSummary.IsByMonth`: what a reader of the rows would list.
* `YearSummary.mem_monthTotals_iff`: which months are listed.
* `YearSummary.rollup_isByMonth`: the breakdown lists them.
-/

namespace AskLedger

namespace YearSummary

/-- `months` lists the months in which some rows are. -/
structure IsByMonth (rows : List Entry) (months : List MonthTotal) : Prop where
  /-- The months stand in the order of the calendar, none of them twice. -/
  ascending : months.Pairwise fun s t => s.month < t.month
  /-- They are called by their names. -/
  named : ∀ t ∈ months, 1 ≤ t.month ∧ monthNames[t.month - 1]? = some t.name
  /-- They are the months in which there is a row. -/
  listed : ∀ month, (∃ t ∈ months, t.month = month) ↔ ∃ e ∈ rows, e.date.month = month
  /-- Each has the number of its rows. -/
  counted : ∀ t ∈ months, t.count = (inMonth rows t.month).length
  /-- Each has the sum of their amounts, from left to right. -/
  summed : ∀ t ∈ months, t.total = ((inMonth rows t.month).map (·.amount)).foldl (· + ·) 0.0

variable {rows : List Entry} {first month : Nat} {name : String} {names : List String}
  {t : MonthTotal}

/-- The entries of a month. -/
theorem mem_inMonth {e : Entry} : e ∈ inMonth rows month ↔ e ∈ rows ∧ e.date.month = month := by
  rw [inMonth, List.mem_filter, beq_iff_eq]

/-- What is listed of a month. -/
def listing (rows : List Entry) (month : Nat) (name : String) : MonthTotal :=
  ⟨month, name, (inMonth rows month).length, Bucket.totalOf ((inMonth rows month).map (·.amount))⟩

/-- A month is listed if it has entries, with their number and their total. -/
theorem monthTotal?_eq_some_iff :
    monthTotal? rows month name = some t ↔
      inMonth rows month ≠ [] ∧ t = listing rows month name := by
  rw [monthTotal?, ← inMonth, ← listing, @eq_comm _ t]
  by_cases h : inMonth rows month = [] <;> simp [h]

/-- Every month from `first` on that has a row is listed. -/
theorem mem_monthTotals_iff :
    t ∈ monthTotals rows first names ↔ ∃ i name, names[i]? = some name ∧
      inMonth rows (first + i) ≠ [] ∧ t = listing rows (first + i) name := by
  simp only [← monthTotal?_eq_some_iff]
  induction names generalizing first with
  | nil => simp [monthTotals]
  | cons name names ih =>
    rw [monthTotals, List.mem_append, Option.mem_toList, ih]
    constructor
    · rintro (hfirst | ⟨i, name', hname, hlater⟩)
      · exact ⟨0, name, rfl, hfirst⟩
      · exact ⟨i + 1, name', hname, by rwa [Nat.add_assoc, Nat.add_comm 1] at hlater⟩
    · rintro ⟨i, name', hname, ht⟩
      cases i with
      | zero =>
        obtain rfl : name = name' := by simpa using hname
        exact .inl ht
      | succ i =>
        exact .inr ⟨i, name', by simpa using hname, by rwa [Nat.add_assoc, Nat.add_comm 1]⟩

/-- Later months have larger numbers. -/
theorem pairwise_monthTotals (rows : List Entry) (first : Nat) (names : List String) :
    (monthTotals rows first names).Pairwise fun s t => s.month < t.month := by
  induction names generalizing first with
  | nil => exact .nil
  | cons name names ih =>
    rw [monthTotals]
    refine List.pairwise_append.2 ⟨by cases monthTotal? rows first name <;> simp, ih _, ?_⟩
    intro s hs t ht
    -- the month in front is `first`, those behind it start one later
    obtain ⟨-, rfl⟩ := monthTotal?_eq_some_iff.1 (Option.mem_toList.1 hs)
    obtain ⟨i, name', -, -, rfl⟩ := mem_monthTotals_iff.1 ht
    show first < first + 1 + i
    omega

/-- What is listed depends on the rows of each month only. -/
theorem monthTotals_congr {rows' : List Entry}
    (h : ∀ month, inMonth rows month = inMonth rows' month) (first : Nat) (names : List String) :
    monthTotals rows first names = monthTotals rows' first names := by
  induction names generalizing first with
  | nil => rfl
  | cons name names ih =>
    have hfirst : monthTotal? rows first name = monthTotal? rows' first name := by
      rw [monthTotal?, monthTotal?, ← inMonth, ← inMonth, h]
    rw [monthTotals, monthTotals, hfirst, ih]

/-- The months that are listed are those that have entries, in order. -/
theorem isByMonth_monthTotals (rows : List Entry) :
    IsByMonth rows (monthTotals rows 1 monthNames) where
  ascending := pairwise_monthTotals rows 1 monthNames
  named t ht := by
    obtain ⟨i, name, hname, -, rfl⟩ := mem_monthTotals_iff.1 ht
    exact ⟨Nat.le_add_right 1 i, by simpa [listing] using hname⟩
  listed month := by
    constructor
    · rintro ⟨t, ht, rfl⟩
      obtain ⟨i, name, -, hne, rfl⟩ := mem_monthTotals_iff.1 ht
      obtain ⟨e, he⟩ := List.exists_mem_of_ne_nil _ hne
      exact ⟨e, mem_inMonth.1 he⟩
    · rintro ⟨e, he, rfl⟩
      -- every date has one of the twelve months, so its month has a name
      have hcivil := e.date.date.isCivil
      have hslot : e.date.month - 1 < monthNames.length := by
        show e.date.month - 1 < 12
        unfold Moment.month
        omega
      have hmonth : 1 + (e.date.month - 1) = e.date.month := by
        unfold Moment.month
        omega
      have hne : inMonth rows e.date.month ≠ [] :=
        List.ne_nil_of_mem (mem_inMonth.2 ⟨he, rfl⟩)
      refine ⟨_, mem_monthTotals_iff.2 ⟨e.date.month - 1, _, List.getElem?_eq_getElem hslot, ?_,
        rfl⟩, hmonth⟩
      rwa [hmonth]
  counted t ht := by
    obtain ⟨i, name, -, -, rfl⟩ := mem_monthTotals_iff.1 ht
    rfl
  summed t ht := by
    obtain ⟨i, name, -, -, rfl⟩ := mem_monthTotals_iff.1 ht
    rfl

/-- A year is broken down by counting every row in one of twelve buckets, which never fails, and
listing the buckets that are not empty. What is listed are the months in which there are rows, and
they have as many rows in all as the year. Other rows that have the same ones in the same order in
each month, however the months are mixed, are broken down alike. -/
theorem rollup_isByMonth (y : YearSummary) :
    (∃ counted, buckets? y.rows = some counted ∧ y.rollup.months = monthsOf counted) ∧
      y.rollup.year = y.year ∧
      IsByMonth y.rows y.rollup.months ∧
      y.rollup.count = y.rows.length ∧
      ∀ rows, (∀ month, inMonth rows month = inMonth y.rows month) →
        rollup ⟨y.year, rows⟩ = y.rollup := by
  refine ⟨⟨buckets y.rows, (Option.some_get _).symm, rfl⟩, rfl, ?_, count_rollup y, ?_⟩
  · rw [rollup_eq]
    exact isByMonth_monthTotals y.rows
  · intro rows hrows
    rw [rollup_eq, rollup_eq, monthTotals_congr hrows]

/-- The entries in `cents`, those of February around the one of January. -/
def mixedCents : List Entry :=
  [Question.cents[1], Question.cents[0], Question.cents[2]]

/-- January stands first although a row of February does. -/
theorem mixedCents_by_month :
    (∀ month, inMonth mixedCents month = inMonth Question.cents month) ∧
      rollup ⟨2024, mixedCents⟩ = rollup ⟨2024, Question.cents⟩ ∧
      (rollup ⟨2024, mixedCents⟩).months.map (fun t => (t.name, t.count)) =
        [("January", 1), ("February", 2)] := by
  have hmonths : ∀ month, inMonth mixedCents month = inMonth Question.cents month := by
    intro month
    by_cases h : month = 1
    · subst h
      rfl
    · -- without the row of January both have the rows of February in one order
      have hjanuary : (Question.cents[0].date.month == month) = false :=
        beq_eq_false_iff_ne.2 (Ne.symm h)
      show List.filter _ [Question.cents[1], Question.cents[0], Question.cents[2]] =
        List.filter _ [Question.cents[0], Question.cents[1], Question.cents[2]]
      simp only [List.filter_cons, hjanuary]
      rfl
  obtain ⟨-, -, -, -, hmixed⟩ := rollup_isByMonth ⟨2024, Question.cents⟩
  exact ⟨hmonths, hmixed _ hmonths, by decide +kernel⟩

end YearSummary

end AskLedger
