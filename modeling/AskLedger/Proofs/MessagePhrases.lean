import AskLedger.Proofs.Narrowing
import AskLedger.Proofs.PatternReading

/-!
# Phrases that a message lacks

Most messages contain few of the phrases that are looked for. Where the phrases for dates are
absent, a message is about a year at most; where those of the filters are absent, the only tests are
those of a range of amounts and of words for expenses.

* `DatePhrase.find?_of_no_days`: the dates of a message without ranges, days and months.
* `DatePhrase.find?_of_absent`: the dates of a message without phrases for dates.
* `Filter.tests_of_absent`: the tests of a message without phrases of filters.
-/

namespace AskLedger

open Pattern (IsAbsent)

namespace DatePhrase

/-- The phrases for dates, apart from a year on its own. -/
def phrases : List Pattern :=
  fromTo :: numericDate :: isoDate :: monthAndYear :: lastDaysPhrase :: periodPhrases.map (·.2)

/-- The phrases for ranges, days and months. -/
def dayPhrases : List Pattern := [fromTo, numericDate, isoDate, monthAndYear]

section
variable {text : List Char} (h : ∀ p ∈ dayPhrases, p.IsAbsent text)

include h

/-- A message without numeric dates keeps all its text when they are taken out. -/
theorem withoutDates_of_absent : withoutDates text = text := by
  rw [withoutDates, IsAbsent.replaceAll (h numericDate (by simp [dayPhrases])),
    IsAbsent.replaceAll (h isoDate (by simp [dayPhrases]))]

/-- A message without ranges, days and months is about a year or, without one, about a relative
period. -/
theorem find?_of_no_days (now : Moment) :
    find? text now =
      ((((yearWord.find? text).map (·.group 1)).bind number?).map fun y : Nat => year y).or
        (findRelative? text now) := by
  -- ranges, days and months need a phrase that is not there; the year word and periods are left
  have hrange : findRange? text = none := by
    have hfind : fromTo.find? text = none := IsAbsent.find? (h _ (by simp [dayPhrases]))
    simp [findRange?, endpoints?, hfind]
  have hday : findDay? text = none := by
    have hnumeric : numericDate.all text = [] := IsAbsent.all (h _ (by simp [dayPhrases]))
    have hiso : isoDate.all text = [] := IsAbsent.all (h _ (by simp [dayPhrases]))
    simp [findDay?, hnumeric, hiso]
  have hmonth : findMonth? text = none := by
    have hfind : monthAndYear.find? text = none := IsAbsent.find? (h _ (by simp [dayPhrases]))
    simp [findMonth?, hfind]
  have hyear : findYear? text =
      (((yearWord.find? text).map (·.group 1)).bind number?).map fun y : Nat => year y := by
    rw [findYear?, bareYear?, withoutDates_of_absent h]
    cases yearWord.find? text with
    | none => rfl
    | some m => cases hy : number? (m.group 1) <;> simp [hy]
  simp [find?, hrange, hday, hmonth, hyear]

end

variable {text : List Char} (h : ∀ p ∈ phrases, p.IsAbsent text)

include h

/-- A message without the phrases of ranges has no range. -/
theorem endpoints?_of_absent : endpoints? text = none := by
  have hrange : fromTo.find? text = none := IsAbsent.find? (h _ (by simp [phrases]))
  simp [endpoints?, hrange]

theorem period?_of_absent : period? text = none := by
  have hnone : (periodPhrases.find? fun p => p.2.isIn text) = none := by
    rw [List.find?_eq_none]
    intro p hp
    have habsent : p.2.IsAbsent text := h p.2 (by
      simp only [phrases, List.mem_cons]
      exact .inr (.inr (.inr (.inr (.inr (List.mem_map_of_mem hp))))))
    simp [habsent.isIn]
  have hdays : lastDaysPhrase.find? text = none := IsAbsent.find? (h _ (by simp [phrases]))
  simp [period?, hnone, hdays]

/-- A message without phrases for dates is about a year at most. -/
theorem find?_of_absent (now : Moment) :
    find? text now =
      (((yearWord.find? text).map (·.group 1)).bind number?).map fun y : Nat => year y := by
  have hdays : ∀ p ∈ dayPhrases, p.IsAbsent text :=
    fun p hp => h p (List.mem_append_left (lastDaysPhrase :: periodPhrases.map Prod.snd) hp)
  simp [find?_of_no_days hdays, findRelative?, period?_of_absent h]

end DatePhrase

namespace Filter

/-- The phrases of the filters, apart from those for ranges and for expenses. -/
def phrases : List Pattern :=
  AmountPhrase.bound :: Direction.incomeWord :: Recurrence.onceWord :: Recurrence.againWord ::
    Account.phrase :: Category.all.map Category.mention

variable {text : List Char} (h : ∀ p ∈ phrases, p.IsAbsent text)

include h

theorem anyIn_of_absent : Category.anyIn text = false := by
  rw [Category.anyIn, List.any_eq_false]
  intro c hc
  have habsent : c.mention.IsAbsent text := h _ (by
    simp only [phrases, List.mem_cons]
    exact .inr (.inr (.inr (.inr (.inr (List.mem_map_of_mem hc))))))
  simp [Category.isIn, habsent.isIn]

/-- A message without phrases of filters is tested at most for a range of amounts and for
expenses. -/
theorem tests_of_absent (now : Moment) (hdates : DatePhrase.rangeWindow? text now = none) :
    tests text now =
      ((AmountPhrase.range? text).map fun b e => b.allows e.amount).toList ++
      (if Direction.expenseWord.isIn text then [fun e => e.direction == .expense] else []) := by
  have hbound : AmountPhrase.bound.find? text = none := IsAbsent.find? (h _ (by simp [phrases]))
  have hincome : Direction.incomeWord.isIn text = false := IsAbsent.isIn (h _ (by simp [phrases]))
  have honce : Recurrence.onceWord.isIn text = false := IsAbsent.isIn (h _ (by simp [phrases]))
  have hagain : Recurrence.againWord.isIn text = false := IsAbsent.isIn (h _ (by simp [phrases]))
  have haccount : Account.phrase.find? text = none := IsAbsent.find? (h _ (by simp [phrases]))
  have hcategory : Category.ofText? text = none := by
    have hany := Category.anyIn_eq_isSome text
    rwa [anyIn_of_absent h, eq_comm, Option.isSome_eq_false_iff,
      Option.isNone_iff_eq_none] at hany
  -- all tests but the two that these cases are about are missing from the list
  cases hrange : AmountPhrase.range? text <;> cases hexpense : Direction.expenseWord.isIn text <;>
    simp [tests, all, amountBound, amountRange, dateRange, direction, recurrence, account, category,
      AmountPhrase.bound?, hbound, hdates, Direction.asked?, hincome, hexpense,
      Recurrence.asked?, honce, hagain, Account.asked?, haccount, hcategory, hrange]

end Filter

end AskLedger
