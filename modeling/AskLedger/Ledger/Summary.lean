import AskLedger.Ledger.Entry

/-!
# Summing up

What is said about a list of entries as a whole: how many they are, their total, and the stretch of
time they span. Amounts are added from left to right. A total starts at minus zero, which changes no
amount that is added to it, and a month at zero. What is found is either shown in detail, with the
first rows and the totals over all of them, or as a year, which can be broken down by month: one
pass over the rows counts each of them in the bucket of its month.

* `YearSummary.rollup_eq`: counting all rows in one pass comes to the same as taking the months one
  by one.
* `YearSummary.count_rollup`: the breakdown by month counts every row.
-/

namespace AskLedger

/-- The sum of amounts, from left to right. -/
def totalOf (amounts : List Float) : Float :=
  amounts.foldl (· + ·) (-0.0)

/-- The earlier of two moments. -/
def Moment.earlier (a b : Moment) : Moment := if b < a then b else a

/-- The later of two moments. -/
def Moment.later (a b : Moment) : Moment := if a < b then b else a

/-- Count, total and span of a list of entries. -/
structure Summary where
  /-- How many entries there are. -/
  count : Nat
  /-- The sum of their amounts. -/
  total : Float
  /-- When the earliest of them happened. -/
  first? : Option Moment
  /-- When the latest of them happened. -/
  last? : Option Moment

namespace Summary

/-- The first and the last of a list of moments. -/
def span : List Moment → Option (Moment × Moment)
  | [] => none
  | m :: rest => some (rest.foldl Moment.earlier m, rest.foldl Moment.later m)

/-- The summary of a list of entries. -/
def of (entries : List Entry) : Summary :=
  let moments := entries.map (·.date)
  { count := entries.length
    total := totalOf (entries.map (·.amount))
    first? := (span moments).map (·.1)
    last? := (span moments).map (·.2) }

end Summary

/-- The first rows of what was found, with totals over all of it. -/
structure Detail where
  /-- The rows that are shown. -/
  rows : List Entry
  /-- The sum of all amounts. -/
  total : Float
  /-- How many rows there are in all. -/
  count : Nat

/-- All rows of a year. -/
structure YearSummary where
  /-- The year. -/
  year : Int
  /-- Its rows. -/
  rows : List Entry

/-- What was found, ready to be shown. -/
inductive Payload where
  /-- A whole year. -/
  | year (summary : YearSummary)
  /-- Rows in detail. -/
  | detail (detail : Detail)

namespace Payload

/-- How many rows were found. -/
def count : Payload → Nat
  | year y => y.rows.length
  | detail d => d.count

/-- What is shown of a list of entries: a whole year if one is asked for, and otherwise the first
`shown` rows. -/
def shape (entries : List Entry) (year? : Option Int) (shown : Nat) : Payload :=
  match year? with
  | some y => .year ⟨y, entries⟩
  | none =>
    let s := Summary.of entries
    .detail ⟨entries.take shown, s.total, s.count⟩

end Payload

/-! ## By month -/

/-- The names of the months, January first. -/
def monthNames : List String :=
  ["January", "February", "March", "April", "May", "June", "July", "August", "September",
   "October", "November", "December"]

/-- What one month amounts to. -/
structure MonthTotal where
  /-- The month, 1 to 12. -/
  month : Nat
  /-- The name of the month. -/
  name : String
  /-- How many rows it has. -/
  count : Nat
  /-- The sum of their amounts. -/
  total : Float

/-- How many rows several months have in all. -/
def MonthTotal.countAll : List MonthTotal → Nat
  | [] => 0
  | t :: rest => t.count + countAll rest

theorem MonthTotal.countAll_append (a b : List MonthTotal) :
    countAll (a ++ b) = countAll a + countAll b := by
  induction a with
  | nil => simp [countAll]
  | cons t rest ih => simp [countAll, ih, Nat.add_assoc]

/-- A year broken down by month. -/
structure Rollup where
  /-- The year. -/
  year : Int
  /-- The months that have rows, in the order of the calendar. -/
  months : List MonthTotal
  /-- How many rows there are in all. -/
  count : Nat
  /-- The sum of the months' totals. -/
  total : Float

/-- What has been counted of a month. -/
structure Bucket where
  /-- How many rows. -/
  count : Nat := 0
  /-- The sum of their amounts, in the order in which they were counted. -/
  total : Float := 0.0

namespace Bucket

/-- The bucket with one more row. -/
def add (b : Bucket) (e : Entry) : Bucket := ⟨b.count + 1, b.total + e.amount⟩

/-- The sum of the amounts in a bucket, from left to right. -/
def totalOf (amounts : List Float) : Float :=
  amounts.foldl (· + ·) 0.0

/-- What the bucket says about the month with this number and name; none if it is empty. -/
def monthTotal? (b : Bucket) (month : Nat) (name : String) : Option MonthTotal :=
  if b.count = 0 then none else some ⟨month, name, b.count, b.total⟩

/-- Entries that are added to a bucket are counted, and their amounts are added in order. -/
theorem foldl_add (b : Bucket) (rows : List Entry) :
    rows.foldl add b = ⟨b.count + rows.length, (rows.map (·.amount)).foldl (· + ·) b.total⟩ := by
  induction rows generalizing b with
  | nil => rfl
  | cons e rows ih =>
    simp only [List.foldl_cons, ih, add, List.length_cons, List.map_cons, Bucket.mk.injEq, and_true]
    omega

end Bucket

namespace YearSummary

/-- The buckets of the twelve months with one more row counted; none if there is no bucket for its
month. -/
def count? (buckets : Vector Bucket 12) (e : Entry) : Option (Vector Bucket 12) :=
  if h : e.date.month - 1 < 12 then
    some (buckets.set (e.date.month - 1) (buckets[e.date.month - 1].add e))
  else none

/-- The buckets of the twelve months, January first, when all rows have been counted one after the
other. -/
def buckets? (rows : List Entry) : Option (Vector Bucket 12) :=
  rows.foldlM count? (Vector.replicate 12 {})

/-- There is a bucket for every row, and counting the row changes this one only. -/
theorem exists_count? (buckets : Vector Bucket 12) (e : Entry) :
    ∃ counted, count? buckets e = some counted ∧ ∀ i (hi : i < 12),
      counted[i] = if e.date.month = i + 1 then buckets[i].add e else buckets[i] := by
  have hcivil := e.date.date.isCivil
  have hslot : e.date.month - 1 < 12 := by
    unfold Moment.month
    omega
  refine ⟨_, dif_pos hslot, fun i hi => ?_⟩
  rw [Vector.getElem_set]
  have hsame : e.date.month - 1 = i ↔ e.date.month = i + 1 := by
    unfold Moment.month
    omega
  by_cases h : e.date.month - 1 = i
  · subst h
    rw [if_pos rfl, if_pos (hsame.1 rfl)]
  · rw [if_neg h, if_neg (mt hsame.2 h)]

/-- Counting rows puts the rows of each month into its bucket, in their order. -/
theorem exists_foldlM_count? (buckets : Vector Bucket 12) (rows : List Entry) :
    ∃ counted, rows.foldlM count? buckets = some counted ∧ ∀ i (hi : i < 12),
      counted[i] = (rows.filter fun e => e.date.month == i + 1).foldl Bucket.add buckets[i] := by
  induction rows generalizing buckets with
  | nil => exact ⟨buckets, rfl, fun _ _ => rfl⟩
  | cons e rows ih =>
    obtain ⟨next, hnext, hbucket⟩ := exists_count? buckets e
    obtain ⟨counted, hcounted, hbuckets⟩ := ih next
    refine ⟨counted, by rw [List.foldlM_cons, hnext]; exact hcounted, fun i hi => ?_⟩
    rw [hbuckets i hi, hbucket i hi]
    by_cases h : e.date.month = i + 1 <;> simp [h]

/-- Every entry has a month, so it finds its bucket. -/
theorem isSome_buckets? (rows : List Entry) : (buckets? rows).isSome = true := by
  obtain ⟨counted, hcounted, -⟩ := exists_foldlM_count? (.replicate 12 {}) rows
  rw [buckets?, hcounted]
  rfl

/-- The buckets of the twelve months. -/
def buckets (rows : List Entry) : Vector Bucket 12 :=
  (buckets? rows).get (isSome_buckets? rows)

/-- The months whose buckets are not empty, in the order of the calendar. -/
def monthsOf (buckets : Vector Bucket 12) : List MonthTotal :=
  ((buckets.toList.zip monthNames).zipIdx 1).filterMap fun ((bucket, name), month) =>
    bucket.monthTotal? month name

/-- The year broken down by month. -/
def rollup (y : YearSummary) : Rollup :=
  let months := monthsOf (buckets y.rows)
  { year := y.year
    months
    count := MonthTotal.countAll months
    total := totalOf (months.map (·.total)) }

/-! ### One month at a time -/

/-- What the month with this number and name amounts to; none if it has no rows. -/
def monthTotal? (rows : List Entry) (month : Nat) (name : String) : Option MonthTotal :=
  let inMonth := rows.filter fun e => e.date.month == month
  if inMonth.isEmpty then none
  else some ⟨month, name, inMonth.length, Bucket.totalOf (inMonth.map (·.amount))⟩

/-- The months that have rows, counting from month `first` on. -/
def monthTotals (rows : List Entry) (first : Nat) : List String → List MonthTotal
  | [] => []
  | name :: names =>
    (monthTotal? rows first name).toList ++ monthTotals rows (first + 1) names

/-- A bucket with the rows of one month. -/
def bucketOf (rows : List Entry) (month : Nat) : Bucket :=
  (rows.filter fun e => e.date.month == month).foldl Bucket.add {}

/-- The bucket of a month gives the total that the entries of the month have. -/
theorem monthTotal?_bucketOf (rows : List Entry) (month : Nat) (name : String) :
    (bucketOf rows month).monthTotal? month name = monthTotal? rows month name := by
  simp only [bucketOf, Bucket.foldl_add, Bucket.monthTotal?, monthTotal?, Bucket.totalOf, Nat.zero_add,
    List.length_eq_zero_iff, List.isEmpty_iff]

/-- There is one bucket for each month of the year, in order. -/
theorem toList_buckets (rows : List Entry) :
    (buckets rows).toList = (List.range' 1 12).map (bucketOf rows) := by
  obtain ⟨counted, hcounted, hbuckets⟩ := exists_foldlM_count? (.replicate 12 {}) rows
  have hsame : buckets rows = counted := by
    rw [← buckets?] at hcounted
    simp only [buckets, hcounted, Option.get_some]
  rw [hsame]
  refine List.ext_getElem (by simp) fun i hi hi' => ?_
  have hslot : i < 12 := by simpa using hi
  simp [hbuckets i hslot, bucketOf, Nat.add_comm]

/-- The buckets that are not empty are the totals of the months that have entries. -/
theorem filterMap_bucketOf_eq (rows : List Entry) (first : Nat) (names : List String) :
    ((((List.range' first names.length).map (bucketOf rows)).zip names).zipIdx first).filterMap
        (fun ((bucket, name), month) => bucket.monthTotal? month name) =
      monthTotals rows first names := by
  induction names generalizing first with
  | nil => rfl
  | cons name names ih =>
    rw [List.length_cons, List.range'_succ, List.map_cons, List.zip_cons_cons, List.zipIdx_cons,
      List.filterMap_cons, ih (first + 1), monthTotals]
    simp only [monthTotal?_bucketOf]
    cases monthTotal? rows first name <;> rfl

/-- The breakdown is the same as if the months were taken one by one. -/
theorem rollup_eq (y : YearSummary) :
    y.rollup =
      { year := y.year
        months := monthTotals y.rows 1 monthNames
        count := MonthTotal.countAll (monthTotals y.rows 1 monthNames)
        total := totalOf ((monthTotals y.rows 1 monthNames).map (·.total)) } := by
  have hmonths : monthsOf (buckets y.rows) = monthTotals y.rows 1 monthNames := by
    rw [monthsOf, toList_buckets]
    exact filterMap_bucketOf_eq y.rows 1 monthNames
  rw [rollup, hmonths]

/-! ### Every row is counted -/

theorem count_monthTotal? (rows : List Entry) (month : Nat) (name : String) :
    MonthTotal.countAll (monthTotal? rows month name).toList =
      rows.countP fun e => e.date.month == month := by
  rw [monthTotal?]
  split
  · rename_i h
    simp [MonthTotal.countAll, List.countP_eq_length_filter, List.isEmpty_iff.1 h]
  · simp [MonthTotal.countAll, List.countP_eq_length_filter]

/-- What has exactly one of two properties is counted under the one or the other. -/
theorem countP_add_of_disjoint {p q r : Entry → Bool} {rows : List Entry}
    (h : ∀ e ∈ rows, r e = (p e || q e)) (hd : ∀ e ∈ rows, ¬(p e = true ∧ q e = true)) :
    rows.countP r = rows.countP p + rows.countP q := by
  induction rows with
  | nil => rfl
  | cons e rest ih =>
    have hr := h e List.mem_cons_self
    have hpq := hd e List.mem_cons_self
    have ih := ih (fun e he => h e (List.mem_cons_of_mem _ he))
      (fun e he => hd e (List.mem_cons_of_mem _ he))
    simp only [List.countP_cons, ih, hr]
    cases hp : p e <;> cases hq : q e <;> simp_all <;> omega

/-- The months count the entries that fall into them, each once. -/
theorem count_monthTotals (rows : List Entry) (first : Nat) (names : List String) :
    MonthTotal.countAll (monthTotals rows first names) =
      rows.countP fun e =>
        decide (first ≤ e.date.month) && decide (e.date.month < first + names.length) := by
  induction names generalizing first with
  | nil =>
    rw [monthTotals, MonthTotal.countAll, eq_comm, List.countP_eq_zero]
    intro e _
    simp
  | cons name names ih =>
    rw [monthTotals, MonthTotal.countAll_append, count_monthTotal?, ih (first + 1)]
    rw [eq_comm]
    -- the first month and the later ones share no entry
    apply countP_add_of_disjoint
    · intro e _
      rw [Bool.eq_iff_iff]
      simp only [List.length_cons, Bool.and_eq_true, Bool.or_eq_true, decide_eq_true_eq, beq_iff_eq]
      omega
    · intro e _
      simp only [Bool.and_eq_true, decide_eq_true_eq, beq_iff_eq]
      omega

/-- The breakdown by month counts every row. -/
theorem count_rollup (y : YearSummary) : y.rollup.count = y.rows.length := by
  rw [rollup_eq, count_monthTotals, List.countP_eq_length]
  intro e _
  have := e.date.date.isCivil
  have hnames : monthNames.length = 12 := rfl
  simp only [Bool.and_eq_true, hnames, Moment.month]
  exact ⟨decide_eq_true (by omega), decide_eq_true (by omega)⟩

end YearSummary

end AskLedger
