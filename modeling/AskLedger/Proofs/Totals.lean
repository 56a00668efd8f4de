import Mathlib.Data.List.Basic
import Mathlib.Data.Option.NAry
import Mathlib.Data.Rat.Defs
import Mathlib.Algebra.Order.Ring.Rat
import AskLedger.Proofs.YearSummary

/-!
# Totals over what is found

What is found is summed up three times: in the summary, in the details that are shown of it, and,
for a year, month by month. All three are about every entry that is found, however few rows are
shown. Adding doubles rounds, so the months of a year need not add up to the total of its rows to
the last digit; added without rounding, they do.

Ways of adding amounts that differ in what an amount is worth are instances of one structure,
`Adding`: `Adding.rounded` is the one with doubles, and `Adding.exact` has rational numbers instead.

* `Summary.span_bounds`: a summary spans its entries.
* `YearSummary.flatten_byMonth_perm`: the rows of the months, put together, are
  the rows of the year.
* `Adding.ofMonths_eq_ofRows`: without rounding, the months add up to the total.
* `Question.answer_totals`: the three agree.
-/

namespace AskLedger

/-! ## The span of a summary -/

/-- Choosing between two again and again, by a rule that always prefers, leaves one that
is preferred to all. -/
theorem foldl_preferred {α : Type} {choose : α → α → α} {R : α → α → Prop}
    (hchoose : ∀ a b, choose a b = a ∨ choose a b = b) (hleft : ∀ a b, R (choose a b) a)
    (hright : ∀ a b, R (choose a b) b) (htrans : ∀ {a b c}, R a b → R b c → R a c)
    (hrefl : ∀ a, R a a) (m : α) (rest : List α) :
    rest.foldl choose m ∈ m :: rest ∧ ∀ x ∈ m :: rest, R (rest.foldl choose m) x := by
  induction rest generalizing m with
  | nil => simpa using hrefl m
  | cons a rest ih =>
    obtain ⟨hmem, hall⟩ := ih (choose m a)
    rw [List.foldl_cons]
    constructor
    · rcases List.mem_cons.1 hmem with heq | hrest
      · rw [heq]
        rcases hchoose m a with h | h <;> simp [h]
      · simp [hrest]
    · have hchosen := hall _ List.mem_cons_self
      simp only [List.forall_mem_cons]
      exact ⟨htrans hchosen (hleft m a), htrans hchosen (hright m a),
        fun x hx => hall x (List.mem_cons_of_mem _ hx)⟩

namespace Summary

/-- The first and the last of some moments are among them, and the others lie between. -/
theorem span_bounds {moments : List Moment} (h : moments ≠ []) :
    ∃ first last, span moments = some (first, last) ∧ first ∈ moments ∧ last ∈ moments ∧
      ∀ m ∈ moments, first ≤ m ∧ m ≤ last := by
  obtain ⟨m, rest, rfl⟩ := List.exists_cons_of_ne_nil h
  -- both folds choose one of two moments, the one the earlier and the other the later
  obtain ⟨hfirst, hle⟩ := @foldl_preferred _ Moment.earlier (· ≤ ·)
    (by grind [Moment.earlier]) (by grind [Moment.earlier, Moment.le_def, Moment.lt_def])
    (by grind [Moment.earlier, Moment.le_def, Moment.lt_def]) (by grind [Moment.le_def])
    (by grind [Moment.le_def]) m rest
  obtain ⟨hlast, hge⟩ := @foldl_preferred _ Moment.later (fun a b => b ≤ a)
    (by grind [Moment.later]) (by grind [Moment.later, Moment.le_def, Moment.lt_def])
    (by grind [Moment.later, Moment.le_def, Moment.lt_def]) (by grind [Moment.le_def])
    (by grind [Moment.le_def]) m rest
  exact ⟨_, _, rfl, hfirst, hlast, fun x hx => ⟨hle x hx, hge x hx⟩⟩

/-- The summary of some entries spans from the date of one to the date of another, and has all
others in between. -/
theorem span_of {entries : List Entry} (h : entries ≠ []) :
    ∃ first ∈ entries, ∃ last ∈ entries, (of entries).first? = some first.date ∧
      (of entries).last? = some last.date ∧
      ∀ e ∈ entries, first.date ≤ e.date ∧ e.date ≤ last.date := by
  obtain ⟨first, last, hspan, hfirst, hlast, hall⟩ :=
    span_bounds (mt List.map_eq_nil_iff.1 h : entries.map (·.date) ≠ [])
  obtain ⟨e, he, rfl⟩ := List.mem_map.1 hfirst
  obtain ⟨e', he', rfl⟩ := List.mem_map.1 hlast
  refine ⟨e, he, e', he', by simp [of, hspan], by simp [of, hspan], fun x hx => ?_⟩
  exact hall _ (List.mem_map_of_mem hx)

end Summary

/-! ## The months of a year -/

namespace YearSummary

/-- The rows of one month. -/
def inMonth (rows : List Entry) (month : Nat) : List Entry :=
  rows.filter fun e => e.date.month == month

/-- The rows of each of `n` months from `first` on, without the months that have none. -/
def monthsFrom (rows : List Entry) (first n : Nat) : List (List Entry) :=
  ((List.range' first n).map (inMonth rows)).filter fun month => !month.isEmpty

/-- The rows of each month that has some. -/
def byMonth (rows : List Entry) : List (List Entry) := monthsFrom rows 1 12

/-- The entries of the first month and then those of the others. -/
theorem monthsFrom_succ (rows : List Entry) (first n : Nat) :
    monthsFrom rows first (n + 1) =
      ([inMonth rows first].filter fun month => !month.isEmpty) ++ monthsFrom rows (first + 1) n := by
  rw [monthsFrom, List.range'_succ, List.map_cons, ← List.singleton_append, List.filter_append]
  rfl

/-- The totals of the months are those of their rows. -/
theorem totals_monthTotals (rows : List Entry) (first : Nat) (names : List String) :
    (monthTotals rows first names).map (·.total) =
      (monthsFrom rows first names.length).map fun month => Bucket.totalOf (month.map (·.amount)) := by
  induction names generalizing first with
  | nil => rfl
  | cons name names ih =>
    rw [monthTotals, List.length_cons, monthsFrom_succ, List.map_append, List.map_append, ih]
    congr 1
    rw [monthTotal?, ← inMonth]
    cases hempty : (inMonth rows first).isEmpty <;> simp [hempty]

/-- The months have the entries that fall into them, each once. -/
theorem flatten_monthsFrom_perm (rows : List Entry) (first n : Nat) :
    (monthsFrom rows first n).flatten.Perm
      (rows.filter fun e => decide (first ≤ e.date.month ∧ e.date.month < first + n)) := by
  induction n generalizing first with
  | zero =>
    have hnone : (rows.filter fun e => decide (first ≤ e.date.month ∧ e.date.month < first + 0)) =
        [] := by
      rw [List.filter_eq_nil_iff]
      simp
    rw [hnone]
    exact .refl _
  | succ n ih =>
    rw [monthsFrom_succ, List.flatten_append, List.flatten_filter_not_isEmpty,
      List.flatten_singleton]
    refine ((ih (first + 1)).append_left _).trans ?_
    -- of the rows in all these months, those of the first come first and then the others
    have hsplit := List.filter_append_perm (fun e : Entry => e.date.month == first)
      (rows.filter fun e => decide (first ≤ e.date.month ∧ e.date.month < first + (n + 1)))
    rw [List.filter_filter, List.filter_filter] at hsplit
    convert hsplit using 2
    · refine List.filter_congr fun e _ => ?_
      rw [Bool.eq_iff_iff]
      simp only [Bool.and_eq_true, decide_eq_true_eq, beq_iff_eq]
      omega
    · refine List.filter_congr fun e _ => ?_
      rw [Bool.eq_iff_iff]
      simp only [Bool.and_eq_true, Bool.not_eq_true', decide_eq_true_eq, beq_eq_false_iff_ne]
      omega

/-- The rows of the months, put together, are the rows of the year. -/
theorem flatten_byMonth_perm (rows : List Entry) : (byMonth rows).flatten.Perm rows := by
  have hall : (rows.filter fun e => decide (1 ≤ e.date.month ∧ e.date.month < 1 + 12)) = rows := by
    rw [List.filter_eq_self]
    intro e _
    have := e.date.date.isCivil
    rw [decide_eq_true_eq, Moment.month]
    omega
  have hperm := flatten_monthsFrom_perm rows 1 12
  rwa [hall] at hperm

end YearSummary

/-! ## Adding up -/

namespace Amount

open Float.Model (UnpackedFloat)

/-- The rational number that a finite number of double precision is. -/
def valueOf? : UnpackedFloat → Option Rat
  | .zero _ => some 0
  | .finite .positive m e _ => some (m * 2 ^ e)
  | .finite .negative m e _ => some (-(m * 2 ^ e))
  | .infinity _ | .notANumber => none

/-- The rational number that an amount is, if it is finite. -/
def rational? (x : Float) : Option Rat := valueOf? x.toModel.unpack

/-- The finite numbers are rational. -/
theorem isSome_rational? (x : Float) : (rational? x).isSome = x.isFinite := by
  change (valueOf? x.toModel.unpack).isSome = x.toModel.unpack.isFinite
  cases x.toModel.unpack with
  | zero | infinity | notANumber => rfl
  | finite s => cases s <;> rfl

example : rational? 1.5 = some (3 / 2) := by decide +kernel

end Amount

/-- A way of adding amounts up. -/
structure Adding (α : Type) where
  /-- What an amount is worth. -/
  worth : Float → α
  /-- What nothing is worth. -/
  zero : α
  /-- What a month is worth before any of its rows. -/
  monthZero : α
  /-- The sum of two worths. -/
  plus : α → α → α

namespace Adding

/-- The sum from left to right. -/
def sum {α : Type} (a : Adding α) (xs : List α) : α := xs.foldl a.plus a.zero

/-- The total of rows. -/
def ofRows {α : Type} (a : Adding α) (rows : List Entry) : α :=
  a.sum (rows.map fun e => a.worth e.amount)

/-- The total of the rows of a month. -/
def ofMonth {α : Type} (a : Adding α) (rows : List Entry) : α :=
  (rows.map fun e => a.worth e.amount).foldl a.plus a.monthZero

/-- The total of the totals of the months. -/
def ofMonths {α : Type} (a : Adding α) (rows : List Entry) : α :=
  a.sum ((YearSummary.byMonth rows).map a.ofMonth)

/-- Adding with doubles, rounded after each step. -/
def rounded : Adding Float := ⟨id, -0.0, 0.0, (· + ·)⟩

/-- Adding with rational numbers; with an infinite amount or one that is no
number there is no sum. -/
def exact : Adding (Option Rat) := ⟨Amount.rational?, some 0, some 0, Option.map₂ (· + ·)⟩

/-- Rounded after each step, the amounts add up to the total that is said. -/
theorem ofRows_rounded (rows : List Entry) : rounded.ofRows rows = (Summary.of rows).total := rfl

/-- Rounded after each step, the months add up to the total that is said. -/
theorem ofMonths_rounded (y : YearSummary) : rounded.ofMonths y.rows = y.rollup.total := by
  have htotals := YearSummary.totals_monthTotals y.rows 1 monthNames
  rw [YearSummary.rollup_eq]
  exact (congrArg totalOf htotals).symm

/-- Sums that do not depend on how they are put together. -/
structure Lawful {α : Type} (a : Adding α) : Prop where
  /-- Nothing adds nothing. -/
  zero_plus : ∀ x, a.plus a.zero x = x
  /-- A month starts with nothing. -/
  monthZero_eq : a.monthZero = a.zero
  /-- The order of addition does not matter. -/
  assoc : ∀ x y z, a.plus (a.plus x y) z = a.plus x (a.plus y z)
  /-- Nor does the order of the summands. -/
  comm : ∀ x y, a.plus x y = a.plus y x

section Lawful

variable {α : Type} {a : Adding α} (h : a.Lawful)

include h

/-- A sum may start anywhere. -/
theorem foldl_plus (x : α) (xs : List α) : xs.foldl a.plus x = a.plus x (a.sum xs) := by
  have : Std.Associative a.plus := ⟨h.assoc⟩
  calc xs.foldl a.plus x = xs.foldl a.plus (a.plus x a.zero) := by rw [h.comm, h.zero_plus]
    _ = a.plus x (a.sum xs) := List.foldl_assoc

theorem sum_cons (x : α) (xs : List α) : a.sum (x :: xs) = a.plus x (a.sum xs) := by
  rw [sum, List.foldl_cons, h.zero_plus, foldl_plus h]

theorem sum_append (xs ys : List α) : a.sum (xs ++ ys) = a.plus (a.sum xs) (a.sum ys) := by
  rw [← foldl_plus h, sum, List.foldl_append, ← sum]

/-- Adding up in groups first makes no difference. -/
theorem sum_flatten (groups : List (List α)) : a.sum (groups.map a.sum) = a.sum groups.flatten := by
  induction groups with
  | nil => rfl
  | cons group groups ih =>
    rw [List.map_cons, List.flatten_cons, sum_cons h, sum_append h, ih]

/-- A sum does not depend on the order. -/
theorem sum_perm {xs ys : List α} (hperm : xs.Perm ys) : a.sum xs = a.sum ys := by
  -- adding one summand and then another comes to the same in either order
  refine hperm.foldl_eq' (fun x _ y _ z => ?_) _
  rw [h.assoc, h.comm x y, ← h.assoc]

/-- Without rounding, the months of a year add up to the total of its rows. -/
theorem ofMonths_eq_ofRows (rows : List Entry) : a.ofMonths rows = a.ofRows rows := by
  have hgroups := sum_flatten h
    ((YearSummary.byMonth rows).map fun month => month.map fun e => a.worth e.amount)
  rw [List.map_map, ← List.map_flatten] at hgroups
  have hmonth : a.ofMonth = a.sum ∘ fun month => month.map fun e => a.worth e.amount := by
    funext month
    rw [ofMonth, h.monthZero_eq, Function.comp_apply, sum]
  rw [ofMonths, hmonth]
  exact hgroups.trans (sum_perm h ((YearSummary.flatten_byMonth_perm rows).map _))

end Lawful

theorem lawful_exact : exact.Lawful where
  zero_plus := Option.map₂_left_identity zero_add
  monthZero_eq := rfl
  assoc _ _ _ := Option.map₂_assoc add_assoc
  comm _ _ := Option.map₂_comm add_comm

/-- Finite amounts have an exact sum. -/
theorem ofRows_exact {rows : List Entry} (h : ∀ e ∈ rows, e.amount.isFinite = true) :
    ∃ total, exact.ofRows rows = some total := by
  induction rows with
  | nil => exact ⟨0, rfl⟩
  | cons e rows ih =>
    obtain ⟨hfirst, hrest⟩ := List.forall_mem_cons.1 h
    obtain ⟨total, htotal⟩ := ih hrest
    rw [← Amount.isSome_rational?] at hfirst
    obtain ⟨amount, hamount⟩ := Option.isSome_iff_exists.1 hfirst
    rw [ofRows] at htotal
    refine ⟨amount + total, ?_⟩
    rw [ofRows, List.map_cons, sum_cons lawful_exact, htotal]
    simp [exact, hamount]

end Adding

namespace Question

/-- What is found is everything that was picked, and something was. -/
theorem found_iff {q : Question} {payload : Payload} {summary : Summary}
    (h : q.answer = .found payload summary) :
    q.shortlist.entries ≠ [] ∧ summary = Summary.of q.shortlist.entries ∧
      ∃ year?, payload = Payload.shape q.shortlist.entries year? q.options.shownRows := by
  simp only [answer, report] at h
  split at h
  · split at h
    · cases h
    · next hne =>
      cases h
      exact ⟨by simpa using hne, rfl, _, rfl⟩
  · cases h

/-- Whatever is found is summed up over all entries that were picked: their number, their total from
left to right, and the stretch of time from the date of one of them to the date of another in which
all of them lie. Details have the same number and total, and as rows the first of them, as many as
are shown; a year has all of them as rows, and its months the same number of rows and, where the
amounts are finite and are added without rounding, the same total. -/
theorem answer_totals {q : Question} {payload : Payload} {summary : Summary}
    (h : q.answer = .found payload summary) :
    let picked := q.shortlist.entries
    summary.count = picked.length ∧
    summary.total = (picked.map (·.amount)).foldl (· + ·) (-0.0) ∧
    (∃ first ∈ picked, ∃ last ∈ picked, summary.first? = some first.date ∧
      summary.last? = some last.date ∧
      ∀ e ∈ picked, first.date ≤ e.date ∧ e.date ≤ last.date) ∧
    (∀ d, payload = .detail d → d.count = summary.count ∧ d.total = summary.total ∧
      d.rows = picked.take (min q.options.shownRows summary.count)) ∧
    (∀ y, payload = .year y → y.rows = picked ∧ y.rollup.count = summary.count ∧
      summary.total = Adding.rounded.ofRows picked ∧
      y.rollup.total = Adding.rounded.ofMonths picked ∧
      ((∀ e ∈ picked, e.amount.isFinite = true) → ∃ total : Rat,
        Adding.exact.ofRows picked = some total ∧
        Adding.exact.ofMonths picked = some total)) := by
  obtain ⟨hne, rfl, year?, rfl⟩ := found_iff h
  refine ⟨rfl, rfl, Summary.span_of hne, fun d hd => ?_, fun y hy => ?_⟩
  · cases year? with
    | some y => cases hd
    | none =>
      cases hd
      exact ⟨rfl, rfl, by simp [Summary.of]⟩
  · -- a year is told by months, whose sums are added up in another order than the rows
    obtain ⟨-, hrows⟩ := Payload.shape_eq_year_iff.1 hy
    refine ⟨hrows, ?_, (Adding.ofRows_rounded _).symm, ?_, fun hfinite => ?_⟩
    · rw [YearSummary.count_rollup, hrows]
      rfl
    · rw [← hrows, Adding.ofMonths_rounded]
    · obtain ⟨total, htotal⟩ := Adding.ofRows_exact hfinite
      exact ⟨total, htotal, by rw [Adding.ofMonths_eq_ofRows Adding.lawful_exact, htotal]⟩

/-- Three small entries of 2024, the last two of one month. -/
def cents : List Entry :=
  [{ rent with id := "pen", date := .startOf ⟨2024, 1, 5, by decide⟩, amount := 0.1 },
   { rent with id := "ink", date := .startOf ⟨2024, 2, 9, by decide⟩, amount := 0.2 },
   { rent with id := "pad", date := .startOf ⟨2024, 2, 1, by decide⟩, amount := 0.3 }]

/-- A question about 2024 to a ledger that has an entry of another year. -/
def aboutCents : Question where
  text := "transactions in 2024".toList
  ledger := rent :: cents
  now := rent.date

/-- The months of a year that add up to its total only without rounding. -/
theorem cents_add_up :
    aboutCents.answer = .found (.year ⟨2024, cents⟩) (Summary.of cents) ∧
      (YearSummary.rollup ⟨2024, cents⟩).count = 3 ∧
      ((YearSummary.rollup ⟨2024, cents⟩).total == (Summary.of cents).total) = false ∧
      Adding.exact.ofMonths cents = Adding.exact.ofRows cents := by
  have hcents : aboutCents.narrowed = cents := rfl
  have hanswer : aboutCents.answer = .found (.year ⟨2024, cents⟩) (Summary.of cents) := by
    rw [answer_eq_year_iff, hcents]
    exact ⟨by decide +kernel, by decide +kernel, by decide +kernel, by decide +kernel, rfl, rfl⟩
  have hpicked : aboutCents.shortlist.entries = cents := by
    rw [entries_of_yearOnly (by decide +kernel), hcents]
  obtain ⟨-, -, -, -, hyear⟩ := answer_totals hanswer
  rw [hpicked] at hyear
  obtain ⟨-, hcount, -, -, hexact⟩ := hyear _ rfl
  obtain ⟨total, hrows, hmonths⟩ := hexact (by decide +kernel)
  exact ⟨hanswer, hcount, by decide +kernel, hmonths.trans hrows.symm⟩

end Question

end AskLedger
