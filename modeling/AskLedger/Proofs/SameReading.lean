import Mathlib.Data.List.Basic
import AskLedger.Proofs.Narrowing

/-!
# What an answer depends on

Of a message and the present, an answer depends on what is read out of them: the dates, the
keywords, the tests of the filters, the ranking and a few words. Two questions to the same ledger in
which the same is read get the same answer.

The present is read in two places, as the day from which relative periods are seen and as the month
whose days a filter for dates may name. Both look at the day only.

* `Question.SameReading.answer_eq`: where the same is read, the answer is the same.
* `Question.answer_seen_from`: when the present does not matter.
-/

namespace AskLedger

namespace Question

/-- Two questions to the same ledger, with the same options, in which the same is read. -/
structure SameReading (a b : Question) : Prop where
  /-- The ledger is the same. -/
  ledger : a.ledger = b.ledger
  /-- The answers are cut in the same way. -/
  options : a.options = b.options
  /-- Both messages concern the ledger or neither does. -/
  admits : Gate.admits a.text = Gate.admits b.text
  /-- They are about the same dates. -/
  dates : a.dates? = b.dates?
  /-- They have the same keywords. -/
  keywords : Keyword.ofMessage a.text = Keyword.ofMessage b.text
  /-- They test entries in the same way. -/
  tests : a.tests = b.tests
  /-- Both ask for the newest entries where nothing is left, or neither does. -/
  shows : showWord.isIn a.text = showWord.isIn b.text
  /-- Both mention a category or neither does. -/
  category : Category.anyIn a.text = Category.anyIn b.text
  /-- They ask for the same ranking. -/
  ranking : a.ranking? = b.ranking?
  /-- They have the same year apart from numeric dates. -/
  bareYear : DatePhrase.bareYear? a.text = DatePhrase.bareYear? b.text

namespace SameReading

variable {a b : Question} (h : SameReading a b)

include h

theorem base_eq : a.base = b.base := by
  simp only [base, h.dates, h.keywords]

/-- Both questions are left with the same entries behind the stages. -/
theorem narrowed_eq : a.narrowed = b.narrowed := by
  have htests : Filter.tests a.text a.now = Filter.tests b.text b.now := h.tests
  simp only [Filter.tests] at htests
  rw [narrowed, narrowed, Filter.narrowBy_eq_narrow, Filter.narrowBy_eq_narrow, htests, candidates,
    candidates, h.base_eq, h.ledger, h.options]

/-- Both questions fall back or neither does. -/
theorem fallsBack_eq : a.fallsBack = b.fallsBack := by
  rw [fallsBack, fallsBack, h.narrowed_eq, h.shows]

theorem unranked_eq : a.unranked = b.unranked := by
  rw [unranked, unranked, h.fallsBack_eq, h.narrowed_eq, h.options, h.ledger]

theorem yearOnly_eq : a.yearOnly = b.yearOnly := by
  simp only [yearOnly, h.dates, h.category, h.fallsBack_eq, h.ranking]

theorem pool_eq : a.pool = b.pool := by
  rw [pool, pool, h.options, h.ledger, h.unranked_eq]

/-- Where the same is read, the same is picked. -/
theorem shortlist_eq : a.shortlist = b.shortlist := by
  simp only [shortlist, h.ranking, h.pool_eq, h.unranked_eq, h.yearOnly_eq, h.dates, h.keywords]

/-- Where the same is read, the answer is the same. -/
theorem answer_eq : a.answer = b.answer := by
  simp only [answer, report, h.admits, h.shortlist_eq, h.bareYear, h.options]

/-- Both rankings come to an end or neither does. -/
theorem isRanked_eq : a.isRanked = b.isRanked := by
  unfold isRanked
  rw [h.ranking, h.pool_eq]

/-- Where the same is read, there is an answer to both or to none. -/
theorem answer?_eq : a.answer? = b.answer? := by
  rw [Question.answer?_eq, Question.answer?_eq, h.admits, h.isRanked_eq, h.answer_eq]

end SameReading

end Question

/-! ## The present -/

namespace DatePhrase

variable {text : List Char} {now later : Moment}

/-- The dates of a message are seen from a day. -/
theorem find?_of_same_day (h : now.date = later.date) : find? text now = find? text later := by
  have hperiod : ∀ p : Period, p.window? now = p.window? later := Period.window?_congr h
  simp only [find?, findRelative?, hperiod]

/-- So are the days of a month that a filter for dates names. -/
theorem rangeWindow?_of_same_day (h : now.date = later.date) :
    rangeWindow? text now = rangeWindow? text later := by
  simp only [rangeWindow?, h]

/-- Dates that are no relative period are found from everywhere. -/
theorem find?_of_absolute {p : DatePhrase} (hfind : find? text now = some p)
    (hp : ∀ period w, p ≠ relative period w) (later : Moment) : find? text later = some p := by
  simp only [find?, Option.or_eq_some_iff, Option.or_eq_none_iff] at hfind ⊢
  rcases hfind with hfound | ⟨-, hrelative⟩
  · exact .inl hfound
  · unfold findRelative? at hrelative
    split at hrelative
    · next period _ =>
      obtain ⟨w, -, rfl⟩ := Option.map_eq_some_iff.1 hrelative
      exact absurd rfl (hp period w)
    · cases hrelative

/-- Without days of a month between which something lies, a filter for dates does not look at the
present. -/
theorem rangeWindow?_of_no_days
    (h : (AmountPhrase.between? text).bind AmountPhrase.Between.days? = none) (later : Moment) :
    rangeWindow? text now = rangeWindow? text later := by
  simp only [rangeWindow?, h]

end DatePhrase

/-- Only the filter for dates looks at the present. -/
theorem Filter.tests_of_rangeWindow? {text : List Char} {now later : Moment}
    (h : DatePhrase.rangeWindow? text now = DatePhrase.rangeWindow? text later) :
    Filter.tests text now = Filter.tests text later := by
  have hdates : dateRange.test? text now = dateRange.test? text later := by
    simp only [dateRange, h]
  have hall : ∀ f ∈ all, f.test? text now = f.test? text later := by
    simp only [all, List.forall_mem_cons, List.not_mem_nil, false_imp_iff, implies_true, and_true]
    exact ⟨rfl, rfl, hdates, rfl, rfl, rfl, rfl⟩
  exact List.filterMap_congr hall

namespace Question

/-- The same question at another time. -/
def seenFrom (q : Question) (later : Moment) : Question := { q with now := later }

/-- Where the dates and the range of dates are the same from another time, the same is read. -/
theorem sameReading_seenFrom {q : Question} {later : Moment}
    (hdates : DatePhrase.find? q.text q.now = DatePhrase.find? q.text later)
    (hrange : DatePhrase.rangeWindow? q.text q.now = DatePhrase.rangeWindow? q.text later) :
    SameReading q (q.seenFrom later) where
  ledger := rfl
  options := rfl
  admits := rfl
  dates := hdates
  keywords := rfl
  tests := Filter.tests_of_rangeWindow? hrange
  shows := rfl
  category := rfl
  ranking := rfl
  bareYear := rfl

/-- A question gets the same answer, or none, at all times of a day. If its message is about dates
other than a relative period, and names no days of a month between which something lies, so it does
at all times. -/
theorem answer_seen_from (q : Question) (later : Moment) :
    (q.now.date = later.date →
      (q.seenFrom later).answer = q.answer ∧ (q.seenFrom later).shortlist = q.shortlist ∧
        (q.seenFrom later).answer? = q.answer?) ∧
    ((∃ p, q.dates? = some p ∧ ∀ period w, p ≠ .relative period w) →
      (AmountPhrase.between? q.text).bind AmountPhrase.Between.days? = none →
        (q.seenFrom later).answer = q.answer ∧ (q.seenFrom later).shortlist = q.shortlist ∧
          (q.seenFrom later).answer? = q.answer?) := by
  constructor
  · intro hday
    have hsame := @sameReading_seenFrom q later (DatePhrase.find?_of_same_day hday)
      (DatePhrase.rangeWindow?_of_same_day hday)
    exact ⟨hsame.answer_eq.symm, hsame.shortlist_eq.symm, hsame.answer?_eq.symm⟩
  · rintro ⟨p, hdates, hp⟩ hdays
    have hfind : DatePhrase.find? q.text q.now = some p := hdates
    have hsame := @sameReading_seenFrom q later
      (hfind.trans (DatePhrase.find?_of_absolute hfind hp later).symm)
      (DatePhrase.rangeWindow?_of_no_days hdays later)
    exact ⟨hsame.answer_eq.symm, hsame.shortlist_eq.symm, hsame.answer?_eq.symm⟩

/-- A question at noon in the middle of June 2025. -/
def askedInJune (text : String) : Question where
  text := text.toList
  ledger := [rent]
  now := ⟨⟨2025, 6, 18, by decide⟩, 43200, 0, by decide⟩

/-- The last moment of the calendar that can be written, a leap second. -/
def endOfCalendar : Moment := ⟨⟨262142, 12, 31, by decide⟩, 86399, 1999999999, by decide⟩

/-- The expenses of this month are the same in the leap second at the end of the day, and those of a
June that is named with its year are the same at the end of the calendar. -/
theorem expenses_seen_from :
    ((askedInJune "expenses this month").seenFrom
        ⟨(askedInJune "").now.date, 86399, 1000000000, by decide⟩).answer =
      (askedInJune "expenses this month").answer ∧
    (askedInJune "expenses in june 2025").dates? = some (.monthOfYear 2025 6) ∧
    (AmountPhrase.between? (askedInJune "expenses in june 2025").text).bind
      AmountPhrase.Between.days? = none ∧
    ((askedInJune "expenses in june 2025").seenFrom endOfCalendar).answer =
      (askedInJune "expenses in june 2025").answer ∧
    ((askedInJune "expenses in june 2025").seenFrom endOfCalendar).shortlist.entries.map (·.id) =
      ["rent"] := by
  have hdates : (askedInJune "expenses in june 2025").dates? = some (.monthOfYear 2025 6) := by
    decide +kernel
  have hdays : (AmountPhrase.between? (askedInJune "expenses in june 2025").text).bind
      AmountPhrase.Between.days? = none := by
    decide +kernel
  obtain ⟨hanswer, hshortlist, -⟩ := (answer_seen_from (askedInJune "expenses in june 2025")
    endOfCalendar).2 ⟨_, hdates, by simp⟩ hdays
  refine ⟨((answer_seen_from (askedInJune "expenses this month") _).1 rfl).1, hdates, hdays,
    hanswer, ?_⟩
  rw [hshortlist]
  decide +kernel

end Question

end AskLedger
