import AskLedger.Proofs.Narrowing

/-!
# Summaries of a year

A message that asks for a year and for nothing more is answered with all rows that are left, under
the heading of that year. The base condition of such a message lets only entries of the year
through, but the base condition does not count any more once a filter has started over from the
whole ledger.

* `Question.answer_eq_year_iff`: when a message is answered with a year, and what the rows are.
* `Question.rows_in_year_iff`: when all of these rows are of that year.
-/

namespace AskLedger

/-- A moment in the window of a year is of that year. -/
theorem Window.year_of_holds {y : Int} {w : Window} {m : Moment} (hw : Window.year? y = some w)
    (hm : w.holds m = true) : m.year = y := by
  unfold Window.year? at hw
  split at hw
  · next first last hfirst hlast =>
    cases hw
    obtain ⟨hge, hle⟩ := Window.days_holds_of hm
    obtain ⟨hfy, hfm, hfd⟩ := Date.eq_of_ofCivil? hfirst
    obtain ⟨hly, hlm, hld⟩ := Date.eq_of_ofCivil? hlast
    simp only [Date.le_def, Date.serial, hfy, hfm, hfd, hly, hlm, hld] at hge hle
    have := m.date.isCivil
    have := Date.daysIn_le m.date.year m.date.month
    simp only [Moment.year]
    omega
  · cases hw

/-- Entries are shown as a year exactly if that year is asked for; all of them are its rows. -/
theorem Payload.shape_eq_year_iff {entries : List Entry} {year? : Option Int} {shown : Nat}
    {s : YearSummary} :
    Payload.shape entries year? shown = .year s ↔ year? = some s.year ∧ s.rows = entries := by
  cases year? with
  | none => simp [shape]
  | some y =>
    cases s
    simp [shape, eq_comm]

namespace DatePhrase

/-- A phrase for a year stands for entries of that year only. -/
theorem year_of_covers {y : Int} {e : Entry} (h : (DatePhrase.year y).covers e = true) :
    e.date.year = y := by
  simp only [covers, holds, window?, Option.any_eq_true] at h
  obtain ⟨w, hw, hm⟩ := h
  exact Window.year_of_holds hw hm

/-- A message is about a year only if it contains that year outside of numeric dates. -/
theorem bareYear?_of_find? {text : List Char} {now : Moment} {y : Int}
    (h : find? text now = some (.year y)) : bareYear? text = some y := by
  simp only [find?, Option.or_eq_some_iff] at h
  rcases h with (((hrange | ⟨-, hday⟩) | ⟨-, hmonth⟩) | ⟨-, hyear⟩) | ⟨-, hrelative⟩
  · simp [findRange?] at hrange
  · simp [findDay?] at hday
  · unfold findMonth? at hmonth
    split at hmonth
    · obtain ⟨mo, -, hphrase⟩ := Option.map_eq_some_iff.1 hmonth
      split at hphrase <;> cases hphrase
    · cases hmonth
  · simpa [findYear?] using hyear
  · unfold findRelative? at hrelative
    split at hrelative
    · obtain ⟨w, -, hphrase⟩ := Option.map_eq_some_iff.1 hrelative
      cases hphrase
    · cases hrelative

end DatePhrase

namespace Question

variable {q : Question} {s : YearSummary} {summary : Summary}

/-- A message that asks for nothing but a year is about that year. -/
theorem dates?_of_yearOnly (h : q.yearOnly = true) : ∃ y, q.dates? = some (.year y) := by
  simp only [yearOnly, Bool.and_eq_true] at h
  obtain ⟨⟨⟨hdates, -⟩, -⟩, -⟩ := h
  split at hdates
  · next y hy => exact ⟨y, hy⟩
  · cases hdates

/-- Where a message asks for nothing but a year, neither the newest entries nor a ranking replace
what the filters leave. -/
theorem entries_of_yearOnly (h : q.yearOnly = true) : q.shortlist.entries = q.narrowed := by
  simp only [yearOnly, Bool.and_eq_true, Bool.not_eq_true', Option.isNone_iff_eq_none] at h
  obtain ⟨⟨-, hfalls⟩, hranking⟩ := h
  simp [shortlist, hranking, unranked, hfalls]

/-- In a message that asks for nothing but a year, the year in question is the bare year. -/
theorem bareYear?_of_yearOnly (h : q.yearOnly = true) (y : Int) :
    DatePhrase.bareYear? q.text = some y ↔ q.dates? = some (.year y) := by
  obtain ⟨z, hz⟩ := dates?_of_yearOnly h
  rw [hz, DatePhrase.bareYear?_of_find? hz]
  simp

/-- A message is answered with a year exactly if it concerns the ledger, asks for that year and
for nothing more, and some entries are left; these are the rows of the answer. -/
theorem answer_eq_year_iff :
    q.answer = .found (.year s) summary ↔
      Gate.admits q.text = true ∧ q.yearOnly = true ∧ q.dates? = some (.year s.year) ∧
        q.narrowed ≠ [] ∧ s.rows = q.narrowed ∧ summary = Summary.of q.narrowed := by
  have hyear : q.shortlist.yearOnly = q.yearOnly := rfl
  -- the gate, the year flag and the rows are asked in this order, and each can end it
  cases hgate : Gate.admits q.text with
  | false => simp [answer, hgate]
  | true =>
    cases honly : q.yearOnly with
    | false =>
      simp only [answer, hgate, if_true, report, hyear, honly]
      split
      · simp
      · simp [Payload.shape]
    | true =>
      simp only [answer, hgate, if_true, report, hyear, honly, entries_of_yearOnly honly]
      rw [← bareYear?_of_yearOnly honly]
      cases hnil : q.narrowed.isEmpty with
      | true => simp [List.isEmpty_iff.1 hnil]
      | false =>
        have hne : q.narrowed ≠ [] := by simpa using hnil
        simp [hne, Payload.shape_eq_year_iff, and_assoc, eq_comm (a := summary)]

/-- Without a test that starts over, the rows of a year satisfy the base condition. -/
theorem base_of_mem_narrowed (h : q.forgotten = 0) {e : Entry} (he : e ∈ q.narrowed) :
    q.base e = true := by
  rw [narrowed_eq_filter, h, List.mem_filter] at he
  simp only [conditions, List.drop_zero, List.all_cons, Bool.and_eq_true] at he
  exact he.2.1

/-- The rows of an answer with a year are all of that year exactly if no test started over from the
whole ledger, or only entries of that year pass the tests from the last one that did. In particular
they are if filters start from nothing where nothing is left. -/
theorem rows_in_year_iff (h : q.answer = .found (.year s) summary) :
    ((∀ e ∈ s.rows, e.date.year = s.year) ↔
      (∀ i < q.tests.length, q.startsOver i = false) ∨
        ∀ e ∈ q.ledger, ((q.tests.drop (q.forgotten - 1)).all fun test => test e) = true →
          e.date.year = s.year) ∧
    (q.options.rescue = .none → ∀ e ∈ s.rows, e.date.year = s.year) := by
  obtain ⟨-, -, hdates, -, hrows, -⟩ := answer_eq_year_iff.1 h
  -- as long as nothing is forgotten, the year is one of the conditions
  have hbase : q.forgotten = 0 → ∀ e ∈ s.rows, e.date.year = s.year := by
    intro hzero e he
    have hcovers := base_of_mem_narrowed hzero (hrows ▸ he)
    simp only [base, hdates] at hcovers
    exact DatePhrase.year_of_covers hcovers
  refine ⟨?_, fun hrescue => hbase (q.forgotten_without_rescue hrescue)⟩
  rw [← q.forgotten_eq_zero_iff]
  by_cases hzero : q.forgotten = 0
  · exact ⟨fun _ => .inl hzero, fun _ => hbase hzero⟩
  · constructor
    · intro hall
      refine .inr fun e he hpass => hall e ?_
      rw [hrows, q.mem_narrowed_of_forgotten hzero]
      exact ⟨he, hpass⟩
    · rintro (hcontra | hpass) e he
      · exact absurd hcontra hzero
      · rw [hrows, q.mem_narrowed_of_forgotten hzero] at he
        exact hpass e he.1 he.2

/-- A question about what was spent in a year of which the ledger has no entry. -/
def aboutSpendingIn2024 : Question where
  text := "spent 2024".toList
  ledger := [rent]
  now := rent.date

/-- An answer with a year whose only row is of another year: the filter for expenses starts over. -/
theorem row_of_other_year :
    aboutSpendingIn2024.answer = .found (.year ⟨2024, aboutSpendingIn2024.narrowed⟩)
        (Summary.of aboutSpendingIn2024.narrowed) ∧
      ¬ ∀ e ∈ aboutSpendingIn2024.narrowed, e.date.year = 2024 := by
  have hanswer : aboutSpendingIn2024.answer =
      .found (.year ⟨2024, aboutSpendingIn2024.narrowed⟩)
        (Summary.of aboutSpendingIn2024.narrowed) := by
    rw [answer_eq_year_iff]
    exact ⟨by decide +kernel, by decide +kernel, by decide +kernel, by decide +kernel, rfl, rfl⟩
  refine ⟨hanswer, ?_⟩
  rw [(rows_in_year_iff hanswer).1]
  decide +kernel

end Question

end AskLedger
