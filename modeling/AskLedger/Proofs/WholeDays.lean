import AskLedger.Question.DatePhrase

/-!
# Windows of whole days

A window of whole days ends one nanosecond before the midnight that ends its last day. A leap second
there lies behind the end, although it belongs to that day. Apart from it, a window of whole days
holds a moment exactly if it holds its date, and so does every date phrase that a message contains.

The month of every year has no window and looks at the date alone, so it stands for the leap second
at the end of the month as well, unlike the same month of a given year.

* `Window.days_holds_iff`: which moments a window of whole days holds.
* `DatePhrase.holds_by_day`: which moments such phrases stand for, in terms of their dates.
-/

namespace AskLedger

/-! ## The end of a day -/

namespace Moment

/-- Whether a moment lies in a leap second at the end of its day, 23:59:60. -/
def closesDay (m : Moment) : Bool := m.second == 86399 && decide (1000000000 ≤ m.nano)

/-- The start of a day is not its end. -/
@[simp] theorem closesDay_startOf (d : Date) : (startOf d).closesDay = false := rfl

/-- The last ordinary moment of a day lies behind all moments of that day and of earlier ones, but
for a leap second at the end of that very day. -/
theorem le_endOf_iff {m : Moment} {d : Date} :
    m ≤ endOf d ↔ m.date ≤ d ∧ ¬(m.date = d ∧ m.closesDay = true) := by
  have htime := m.isTime
  simp only [le_def, serial, endOf, Date.le_def, ← Date.serial_inj, closesDay, Bool.and_eq_true,
    beq_iff_eq, decide_eq_true_eq]
  omega

end Moment

namespace Window

/-- A window of whole days holds a moment exactly if it holds its date, unless the moment lies in a
leap second at the end of the last day. -/
theorem days_holds_iff {first last : Date} {m : Moment} :
    (days first last).holds m = true ↔
      (first ≤ m.date ∧ m.date ≤ last) ∧ ¬(m.date = last ∧ m.closesDay = true) := by
  rw [holds_iff, and_assoc]
  exact and_congr Moment.startOf_le Moment.le_endOf_iff

/-- Whether a window consists of whole days. -/
def IsOfDays (w : Window) : Prop := ∃ first last, w = days first last

/-- The window of a month is one of whole days. -/
theorem isOfDays_month? {y : Int} {m : Nat} {w : Window} (h : month? y m = some w) :
    w.IsOfDays := by
  unfold month? at h
  split at h
  · exact ⟨_, _, (Option.some.inj h).symm⟩
  · cases h

theorem isOfDays_year? {y : Int} {w : Window} (h : year? y = some w) : w.IsOfDays := by
  unfold year? at h
  split at h
  · exact ⟨_, _, (Option.some.inj h).symm⟩
  · cases h

end Window

/-- A window between two numbers of days ago is one of whole days. -/
theorem Period.isOfDays_daysAgo? {first last : Nat} {today : Date} {w : Window}
    (h : daysAgo? first last today = some w) : w.IsOfDays := by
  unfold daysAgo? at h
  split at h
  · exact ⟨_, _, (Option.some.inj h).symm⟩
  · cases h

/-- The window of every period consists of whole days. -/
theorem Period.isOfDays_window? {p : Period} {now : Moment} {w : Window}
    (h : p.window? now = some w) : w.IsOfDays := by
  cases p with
  | today => exact ⟨_, _, (Option.some.inj h).symm⟩
  | yesterday | thisWeek | lastWeek => exact isOfDays_daysAgo? h
  | thisMonth | lastMonth => exact Window.isOfDays_month? h
  | thisYear | lastYear => exact Window.isOfDays_year? h
  | lastDays n =>
    cases n with
    | zero => cases h
    | succ n => exact isOfDays_daysAgo? h

namespace DatePhrase

/-- Whether the window of a phrase, if it has one, consists of whole days. -/
def IsOfDays (p : DatePhrase) : Prop := ∀ w, p.window? = some w → w.IsOfDays

/-- The window of a phrase consists of whole days, provided that a relative period comes with its
own window. -/
theorem isOfDays_of_period {p : DatePhrase}
    (h : ∀ period w, p = relative period w → ∃ now, period.window? now = some w) :
    p.IsOfDays := by
  intro w hw
  cases p with
  | range first last => exact ⟨first, last, (Option.some.inj hw).symm⟩
  | day d => exact ⟨d, d, (Option.some.inj hw).symm⟩
  | monthOfYear y m => exact Window.isOfDays_month? hw
  | month m => cases hw
  | year y => exact Window.isOfDays_year? hw
  | relative period w' =>
    obtain ⟨now, hnow⟩ := h period w' rfl
    cases hw
    exact Period.isOfDays_window? hnow

/-- The relative periods of a message come with their own windows. -/
theorem window?_of_find?_relative {text : List Char} {now : Moment} {period : Period} {w : Window}
    (h : find? text now = some (relative period w)) : period.window? now = some w := by
  simp only [find?, Option.or_eq_some_iff] at h
  rcases h with (((hrange | ⟨-, hday⟩) | ⟨-, hmonth⟩) | ⟨-, hyear⟩) | ⟨-, hrelative⟩
  · simp [findRange?] at hrange
  · simp [findDay?] at hday
  · unfold findMonth? at hmonth
    split at hmonth
    · obtain ⟨mo, -, hphrase⟩ := Option.map_eq_some_iff.1 hmonth
      split at hphrase <;> cases hphrase
    · cases hmonth
  · simp [findYear?] at hyear
  · unfold findRelative? at hrelative
    split at hrelative
    · obtain ⟨w', hw, hphrase⟩ := Option.map_eq_some_iff.1 hrelative
      cases hphrase
      exact hw
    · cases hrelative

/-! ## Phrases by day -/

variable {p : DatePhrase} {m : Moment}

/-- A phrase with a window stands for the moments that its window holds. -/
theorem holds_of_window {w : Window} (h : p.window? = some w) : p.holds m = w.holds m := by
  cases p with
  | month mo => cases h
  | range | day | monthOfYear | year | relative => simp [holds, h]

/-- A phrase without a window stands for all moments of a day or for none. -/
theorem holds_startOf_of_no_window (h : p.window? = none) :
    p.holds (.startOf m.date) = p.holds m := by
  cases p with
  | month mo => rfl
  | range | day | monthOfYear | year | relative => simp [holds, h]

/-- A phrase whose window consists of whole days stands for a moment exactly if it stands for the
start of its day, unless the moment lies in a leap second at the end of the last day. -/
theorem holds_iff_startOf (hp : p.IsOfDays) :
    p.holds m = true ↔ p.holds (.startOf m.date) = true ∧
      ¬(m.closesDay = true ∧ ∃ first, p.window? = some (.days first m.date)) := by
  cases hw : p.window? with
  | none => simp [holds_startOf_of_no_window hw]
  | some w =>
    obtain ⟨first, last, rfl⟩ := hp w hw
    have hlast : (∃ f, Window.days first last = Window.days f m.date) ↔ m.date = last := by
      constructor
      · rintro ⟨f, hf⟩
        exact (congrArg (·.last.date) hf).symm
      · rintro rfl
        exact ⟨first, rfl⟩
    rw [holds_of_window hw, holds_of_window hw, Window.days_holds_iff, Window.days_holds_iff]
    simp only [Option.some.injEq, hlast, Moment.closesDay_startOf]
    simp [Moment.startOf, and_comm]

end DatePhrase

/-! ## Months -/

theorem daysIn_pos {year : Int} {month : Nat} (h : 1 ≤ month ∧ month ≤ 12) :
    1 ≤ daysIn year month := by
  unfold daysIn
  split <;> grind

/-- The month before the month after a month is that month. -/
theorem previousMonth_nextMonth {year : Int} {month : Nat} (h : 1 ≤ month ∧ month ≤ 12) :
    previousMonth (nextMonth year month).1 (nextMonth year month).2 = (year, month) := by
  unfold nextMonth previousMonth
  split
  · simp_all
  · simp only [Nat.add_sub_cancel]
    rw [if_neg (by omega)]

namespace Date

variable {year : Int} {month : Nat}

/-- A year, a month and a day of the calendar make a date. -/
theorem ofCivil?_eq_some {day : Nat}
    (h : (-262143 ≤ year ∧ year ≤ 262142) ∧ (1 ≤ month ∧ month ≤ 12) ∧
      (1 ≤ day ∧ day ≤ daysIn year month)) : ofCivil? year month day = some ⟨year, month, day, h⟩ :=
  dif_pos h

/-- The last day of a month is found, unless it is the last month of the calendar. -/
theorem lastOfMonth?_eq (hyear : -262143 ≤ year ∧ year ≤ 262142)
    (hmonth : 1 ≤ month ∧ month ≤ 12) (hlast : ¬(year = maxYear ∧ month = 12)) :
    lastOfMonth? year month = ofCivil? year month (daysIn year month) := by
  have hnext : ∃ e, ofCivil? (nextMonth year month).1 (nextMonth year month).2 1 = some e := by
    unfold nextMonth
    simp only [maxYear] at hlast
    split
    · exact ⟨_, ofCivil?_eq_some ⟨by omega, by omega, by simp [daysIn]⟩⟩
    · have hdays := @daysIn_pos year (month + 1) (by omega)
      exact ⟨_, ofCivil?_eq_some ⟨by omega, by omega, Nat.le_refl 1, hdays⟩⟩
  obtain ⟨e, he⟩ := hnext
  simp only [lastOfMonth?, he, previousMonth_nextMonth hmonth]

end Date

/-- A month has a window, unless it is the last month of the calendar. Its days are those of the
month, and it ends with the last of them. -/
theorem Window.month?_eq_some {y : Int} {mo : Nat} (hyear : -262143 ≤ y ∧ y ≤ 262142)
    (hmonth : 1 ≤ mo ∧ mo ≤ 12) (hlast : ¬(y = Date.maxYear ∧ mo = 12)) :
    ∃ first last, month? y mo = some (days first last) ∧
      (∀ d : Date, first ≤ d ∧ d ≤ last ↔ d.year = y ∧ d.month = mo) ∧
      (∀ d : Date, d.year = y ∧ d.month = mo → (d = last ↔ d.day = daysIn y mo)) := by
  refine ⟨⟨y, mo, 1, hyear, hmonth, Nat.le_refl 1, daysIn_pos hmonth⟩,
    ⟨y, mo, daysIn y mo, hyear, hmonth, daysIn_pos hmonth, Nat.le_refl _⟩, ?_, ?_, ?_⟩
  · simp only [month?, Date.lastOfMonth?_eq hyear hmonth hlast]
    rw [Date.ofCivil?_eq_some, Date.ofCivil?_eq_some]
  · intro d
    have hcivil := d.isCivil
    -- months are at most 31 days long, so that the serial numbers keep them apart
    have hdays := Date.daysIn_le d.year d.month
    have hdays' := Date.daysIn_le y mo
    simp only [Date.le_def, Date.serial]
    constructor
    · rintro ⟨hge, hle⟩
      have hy : d.year = y := by omega
      exact ⟨hy, by omega⟩
    · rintro ⟨hy, hm⟩
      rw [hy, hm] at hcivil ⊢
      omega
  · rintro d ⟨hy, hm⟩
    refine ⟨fun h => congrArg Date.day h, fun h => ?_⟩
    rw [← Date.serial_inj, Date.serial, Date.serial, hy, hm, h]

namespace DatePhrase

/-- A month of a year stands for the moments of that month, but for a leap second at its end. The
last month of the calendar stands for none, since no day follows it. -/
theorem monthOfYear_holds_iff {y : Int} {mo : Nat} {m : Moment} :
    (monthOfYear y mo).holds m = true ↔
      (m.year = y ∧ m.month = mo) ∧ ¬(y = Date.maxYear ∧ mo = 12) ∧
        ¬(m.date.day = daysIn y mo ∧ m.closesDay = true) := by
  by_cases hmonth : (-262143 ≤ y ∧ y ≤ 262142) ∧ (1 ≤ mo ∧ mo ≤ 12)
  · by_cases hlast : y = Date.maxYear ∧ mo = 12
    · -- the last month of the calendar has no month behind it to end at
      obtain ⟨rfl, rfl⟩ := hlast
      have hnone : (monthOfYear Date.maxYear 12).window? = none := rfl
      simp [holds, hnone]
    · obtain ⟨first, last, hwindow, hbetween, hend⟩ :=
        Window.month?_eq_some hmonth.1 hmonth.2 hlast
      rw [holds_of_window (p := monthOfYear y mo) hwindow, Window.days_holds_iff, hbetween]
      refine and_congr_right fun hsame => ?_
      rw [hend m.date hsame]
      exact (and_iff_right hlast).symm
  · have hnone : (monthOfYear y mo).window? = none := by
      have hfirst : Date.ofCivil? y mo 1 = none := dif_neg fun h => hmonth ⟨h.1, h.2.1⟩
      simp [window?, Window.month?, hfirst]
    simp only [holds, hnone, Option.any_none, Bool.false_eq_true, false_iff]
    rintro ⟨⟨rfl, rfl⟩, -⟩
    exact hmonth ⟨m.date.isCivil.1, m.date.isCivil.2.1⟩

/-- A window of whole days holds the moments of its days, but for a leap second at the end of the
last one. All date phrases have such windows, if they have any and if a relative period comes with
its own, as it does in a message. So a phrase stands for a moment exactly if it stands for the start
of its day, again but for such a leap second. A month of every year, which has no window, stands for
more than that month in the year of the moment: for the leap second at its end, and for the last
month of the calendar. -/
theorem holds_by_day (m : Moment) :
    (∀ first last, (Window.days first last).holds m = true ↔
      (first ≤ m.date ∧ m.date ≤ last) ∧ ¬(m.date = last ∧ m.closesDay = true)) ∧
    (∀ p : DatePhrase,
      (∀ period w, p = relative period w → ∃ now, period.window? now = some w) → p.IsOfDays) ∧
    (∀ text now period w, find? text now = some (relative period w) →
      period.window? now = some w) ∧
    (∀ p : DatePhrase, p.IsOfDays → (p.holds m = true ↔
      p.holds (.startOf m.date) = true ∧
        ¬(m.closesDay = true ∧ ∃ first, p.window? = some (.days first m.date)))) ∧
    (∀ mo, (monthOfYear m.year mo).holds m = true ↔
      (month mo).holds m = true ∧ ¬(m.year = Date.maxYear ∧ mo = 12) ∧
        ¬(m.date.day = daysIn m.year mo ∧ m.closesDay = true)) := by
  refine ⟨fun _ _ => Window.days_holds_iff, fun _ => isOfDays_of_period,
    fun _ _ _ _ => window?_of_find?_relative, fun _ hp => holds_iff_startOf hp, fun mo => ?_⟩
  rw [monthOfYear_holds_iff]
  simp [holds]

/-- The leap second at the end of 2016. -/
def endOf2016 : Moment := ⟨⟨2016, 12, 31, by decide⟩, 86399, 1000000000, by decide⟩

/-- The leap second at the end of 2016 can be written as a timestamp. It belongs to a December, but
neither to the December of 2016 nor to its own day. -/
theorem leap_second_of_no_day :
    Moment.read? "2016-12-31T23:59:60".toList = some endOf2016 ∧
      (month 12).holds endOf2016 = true ∧
      find? "december 2016".toList endOf2016 = some (monthOfYear 2016 12) ∧
      (monthOfYear 2016 12).holds endOf2016 = false ∧
      (monthOfYear 2016 12).holds (.startOf endOf2016.date) = true ∧
      (Window.days endOf2016.date endOf2016.date).holds endOf2016 = false := by
  obtain ⟨hdays, hwhole, -, hphrase, -⟩ := holds_by_day endOf2016
  have hdecember : (monthOfYear 2016 12).holds endOf2016 = false := by
    rw [Bool.eq_false_iff, Ne, hphrase _ (hwhole _ (by simp))]
    exact fun h => h.2 ⟨rfl, ⟨2016, 12, 1, by decide⟩, by decide⟩
  refine ⟨by decide, rfl, by decide, hdecember, by decide, ?_⟩
  rw [Bool.eq_false_iff, Ne, hdays]
  exact fun h => h.2 ⟨rfl, rfl⟩

end DatePhrase

end AskLedger
