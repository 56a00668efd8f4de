import AskLedger.Proofs.DayNumbers

/-!
# The windows of relative periods

A relative period is a span of day numbers, counted from the number of the present day. Its window
consists of the days with these numbers. It is missing only for zero days, or where a day that has
to be looked up lies outside the calendar; for a month this includes the first day behind it.

Years, months and counts of days are kept in machine words. `Period.windowInWords?` takes the same
steps in words and gives up where a step leaves its word, which never happens.

* `Period.windowFrom?_eq_some_iff`, `Period.windowFrom?_eq_none_iff`: the window of a period.
* `Period.includes_iff`: which days a period consists of.
* `Period.windowInWords?_eq`: no step leaves its word.
* `Period.windows_by_day`: all of this for the windows seen from a moment.
-/

namespace AskLedger

/-! ## Windows by day numbers -/

/-- Whether a number is that of a day of the calendar. -/
def Date.IsDayNumber (k : Int) : Prop := ∃ d : Date, d.dayNumber = k

/-- Whether a window consists of the days numbered from `i` through `j`. -/
def Window.HasDays (w : Window) (i j : Int) : Prop :=
  ∃ a b : Date, w = .days a b ∧ a.dayNumber = i ∧ b.dayNumber = j

variable {w : Window} {i j : Int}

/-- There is a window between any two days of the calendar. -/
theorem Window.exists_hasDays_iff :
    (∃ w : Window, w.HasDays i j) ↔ Date.IsDayNumber i ∧ Date.IsDayNumber j := by
  constructor
  · rintro ⟨w, a, b, -, ha, hb⟩
    exact ⟨⟨a, ha⟩, ⟨b, hb⟩⟩
  · rintro ⟨⟨a, ha⟩, ⟨b, hb⟩⟩
    exact ⟨_, a, b, rfl, ha, hb⟩

/-- A window determines its days. -/
theorem Window.days_inj {a b c d : Date} : days a b = days c d ↔ a = c ∧ b = d := by
  constructor
  · intro h
    exact ⟨congrArg (·.first.date) h, congrArg (·.last.date) h⟩
  · rintro ⟨rfl, rfl⟩
    rfl

/-- The day numbers of a window are those of its days. -/
theorem Window.hasDays_days {a b : Date} :
    (days a b).HasDays i j ↔ a.dayNumber = i ∧ b.dayNumber = j := by
  constructor
  · rintro ⟨c, d, h, hc, hd⟩
    obtain ⟨rfl, rfl⟩ := days_inj.1 h
    exact ⟨hc, hd⟩
  · rintro ⟨ha, hb⟩
    exact ⟨a, b, rfl, ha, hb⟩

section
variable {y : Int} {mo day : Nat}

/-- The year of a day is determined by its number. -/
theorem Date.year_eq {d : Date} (h : daysBeforeYear y < d.dayNumber)
    (h' : d.dayNumber ≤ daysBeforeYear (y + 1)) : d.year = y := by
  obtain ⟨hbefore, hbehind⟩ := d.dayNumber_bounds
  -- the days of another year are all before this one or all behind it
  rcases lt_trichotomy d.year y with hlt | heq | hgt
  · have hmono : daysBeforeYear (d.year + 1) ≤ daysBeforeYear y := daysBeforeYear_mono hlt
    omega
  · exact heq
  · have hmono : daysBeforeYear (y + 1) ≤ daysBeforeYear d.year := daysBeforeYear_mono hgt
    omega

/-- A day of a month is found by its number. -/
theorem Date.ofCivil?_eq_some_iff (hmonth : 1 ≤ mo ∧ mo ≤ 12)
    (hday : 1 ≤ day ∧ day ≤ daysIn y mo) {d : Date} :
    ofCivil? y mo day = some d ↔ d.dayNumber = monthStart y mo + day - 1 := by
  constructor
  · intro h
    obtain ⟨hy, hm, hd⟩ := eq_of_ofCivil? h
    rw [dayNumber_eq, hy, hm, hd]
  · intro h
    have hend : daysBeforeMonth y (mo + 1) ≤ daysBeforeMonth y 13 :=
      daysBeforeMonth_mono y (by omega)
    rw [daysBeforeMonth] at hend
    -- a number within the month lies within its year, which is therefore one of the calendar
    have hyear : d.year = y := by
      apply year_eq
      · rw [h, monthStart]
        omega
      · rw [h, monthStart, daysBeforeYear_succ]
        omega
    have hcivil : (-262143 ≤ y ∧ y ≤ 262142) ∧ (1 ≤ mo ∧ mo ≤ 12) ∧
        (1 ≤ day ∧ day ≤ daysIn y mo) := ⟨hyear ▸ d.isCivil.1, hmonth, hday⟩
    have hfound := ofCivil?_eq_some hcivil
    rw [hfound, Option.some.injEq, ← dayNumber_inj, h, dayNumber_eq]

/-- The first day of a month is found by the number at which the month starts. -/
theorem Date.ofCivil?_one_eq_some_iff (hmonth : 1 ≤ mo ∧ mo ≤ 12) {d : Date} :
    ofCivil? y mo 1 = some d ↔ d.dayNumber = monthStart y mo := by
  rw [ofCivil?_eq_some_iff hmonth ⟨Nat.le_refl 1, daysIn_pos hmonth⟩]
  simp

/-- The first day behind a month. -/
theorem Date.ofCivil?_nextMonth_eq_some_iff (hmonth : 1 ≤ mo ∧ mo ≤ 12) {d : Date} :
    ofCivil? (nextMonth y mo).1 (nextMonth y mo).2 1 = some d ↔
      d.dayNumber = monthStart y mo + daysIn y mo := by
  rw [ofCivil?_one_eq_some_iff (nextMonth_bounds hmonth), monthStart_nextMonth hmonth]

/-- The last day of a month is found if the day behind it is. -/
theorem Date.lastOfMonth?_eq_some_iff (hmonth : 1 ≤ mo ∧ mo ≤ 12) {d : Date} :
    lastOfMonth? y mo = some d ↔
      IsDayNumber (monthStart y mo + daysIn y mo) ∧
        d.dayNumber = monthStart y mo + daysIn y mo - 1 := by
  have hlast := @ofCivil?_eq_some_iff y mo (daysIn y mo) hmonth ⟨daysIn_pos hmonth, Nat.le_refl _⟩
  simp only [lastOfMonth?, previousMonth_nextMonth hmonth]
  constructor
  · intro h
    split at h
    · next e he => exact ⟨⟨e, (ofCivil?_nextMonth_eq_some_iff hmonth).1 he⟩, hlast.1 h⟩
    · cases h
  · rintro ⟨⟨e, he⟩, hd⟩
    rw [(ofCivil?_nextMonth_eq_some_iff hmonth).2 he]
    exact hlast.2 hd

/-- The window of a month exists if the first day behind the month does, too. -/
theorem Window.month?_eq_some_iff (hmonth : 1 ≤ mo ∧ mo ≤ 12) :
    month? y mo = some w ↔
      Date.IsDayNumber (monthStart y mo + daysIn y mo) ∧
        w.HasDays (monthStart y mo) (monthStart y mo + daysIn y mo - 1) := by
  have hfirst := @Date.ofCivil?_one_eq_some_iff y mo hmonth
  have hlast := @Date.lastOfMonth?_eq_some_iff y mo hmonth
  constructor
  · intro h
    unfold month? at h
    split at h
    · next first last hf hl =>
      obtain ⟨hbehind, hend⟩ := hlast.1 hl
      exact ⟨hbehind, first, last, (Option.some.inj h).symm, hfirst.1 hf, hend⟩
    · cases h
  · rintro ⟨hbehind, a, b, rfl, ha, hb⟩
    simp only [month?, hfirst.2 ha, hlast.2 ⟨hbehind, hb⟩]

/-- The window of a year runs from its first day through its last. -/
theorem Window.year?_eq_some_iff :
    year? y = some w ↔ w.HasDays (daysBeforeYear y + 1) (daysBeforeYear (y + 1)) := by
  have hfirst : ∀ {d}, Date.ofCivil? y 1 1 = some d ↔ d.dayNumber = daysBeforeYear y + 1 := by
    intro d
    rw [Date.ofCivil?_one_eq_some_iff (by decide)]
    simp [monthStart, daysBeforeMonth, daysIn]
  have hlast : ∀ {d}, Date.ofCivil? y 12 31 = some d ↔ d.dayNumber = daysBeforeYear (y + 1) := by
    intro d
    have hdays : daysBeforeMonth y 13 = daysBeforeMonth y 12 + 31 := rfl
    rw [Date.ofCivil?_eq_some_iff (by decide) ⟨by decide, Nat.le_refl 31⟩, daysBeforeYear_succ,
      monthStart, hdays]
    omega
  constructor
  · intro h
    unfold year? at h
    split at h
    · next first last hf hl =>
      exact ⟨first, last, (Option.some.inj h).symm, hfirst.1 hf, hlast.1 hl⟩
    · cases h
  · rintro ⟨a, b, rfl, ha, hb⟩
    simp only [year?, hfirst.2 ha, hlast.2 hb]

end

namespace Period

variable {today x : Date} {p : Period}

/-- A window between two numbers of days ago. -/
theorem daysAgo?_eq_some_iff {m n : Nat} :
    daysAgo? m n today = some w ↔ w.HasDays (today.dayNumber - m) (today.dayNumber - n) := by
  constructor
  · intro h
    unfold daysAgo? at h
    split at h
    · next a b ha hb =>
      have ha' := Date.dayNumber_of_back? ha
      have hb' := Date.dayNumber_of_back? hb
      exact ⟨a, b, (Option.some.inj h).symm, by omega, by omega⟩
    · cases h
  · rintro ⟨a, b, rfl, ha, hb⟩
    have ha' : today.back? m = some a := Date.back?_eq_some_iff.2 (by omega)
    have hb' : today.back? n = some b := Date.back?_eq_some_iff.2 (by omega)
    simp only [daysAgo?, ha', hb']

/-! ## Periods by day numbers -/

/-- The numbers of the first and the last day of a period. -/
def span (today : Date) : Period → Int × Int
  | .today => (today.dayNumber, today.dayNumber)
  | .yesterday => (today.dayNumber - 1, today.dayNumber - 1)
  | .thisMonth =>
    let (year, month) := nextMonth today.year today.month
    (monthStart today.year today.month, monthStart year month - 1)
  | .lastMonth =>
    let (year, month) := previousMonth today.year today.month
    (monthStart year month, monthStart today.year today.month - 1)
  | .thisWeek => (today.dayNumber - 6, today.dayNumber)
  | .lastWeek => (today.dayNumber - 13, today.dayNumber - 7)
  | .thisYear => (daysBeforeYear today.year + 1, daysBeforeYear (today.year + 1))
  | .lastYear => (daysBeforeYear (today.year - 1) + 1, daysBeforeYear today.year)
  | .lastDays n => (today.dayNumber - n + 1, today.dayNumber)

/-- This month runs from its first day through its last. -/
theorem span_thisMonth : span today .thisMonth = (monthStart today.year today.month,
    monthStart today.year today.month + daysIn today.year today.month - 1) := by
  simp only [span, monthStart_nextMonth today.isCivil.2.1]

theorem span_lastMonth : span today .lastMonth =
    (monthStart (previousMonth today.year today.month).1 (previousMonth today.year today.month).2,
      monthStart (previousMonth today.year today.month).1 (previousMonth today.year today.month).2 +
        daysIn (previousMonth today.year today.month).1 (previousMonth today.year today.month).2 -
        1) := by
  have hmonth := today.isCivil.2.1
  simp only [span]
  rw [← monthStart_nextMonth (previousMonth_bounds hmonth), nextMonth_previousMonth hmonth]

theorem span_lastYear : span today .lastYear =
    (daysBeforeYear (today.year - 1) + 1, daysBeforeYear (today.year - 1 + 1)) := by
  rw [span, Int.sub_add_cancel]

/-- The numbers of the days that are looked up for a period. The end of a month is found from the
first day behind it, and nothing is looked up for zero days. -/
def lookedUp (today : Date) (p : Period) : List Int :=
  match p with
  | .lastDays 0 => []
  | .thisMonth | .lastMonth => [(p.span today).1, (p.span today).2, (p.span today).2 + 1]
  | _ => [(p.span today).1, (p.span today).2]

/-- The window of a period exists if the days that are looked up do, and consists of the days
between the first and the last. -/
theorem windowFrom?_eq_some_iff :
    p.windowFrom? today = some w ↔
      p ≠ .lastDays 0 ∧ (∀ k ∈ p.lookedUp today, Date.IsDayNumber k) ∧
        w.HasDays (p.span today).1 (p.span today).2 := by
  have hmonth := today.isCivil.2.1
  have hplain : ∀ {i j}, w.HasDays i j ↔
      (∀ k ∈ [i, j], Date.IsDayNumber k) ∧ w.HasDays i j := by
    intro i j
    simpa using fun h => Window.exists_hasDays_iff.1 ⟨w, h⟩
  -- for months there is one more day to look up
  have hbehind : ∀ {i j k}, Date.IsDayNumber k ∧ w.HasDays i j ↔
      (∀ l ∈ [i, j, k], Date.IsDayNumber l) ∧ w.HasDays i j := by
    intro i j k
    simp only [List.forall_mem_cons, List.not_mem_nil, false_imp_iff, implies_true, and_true]
    refine ⟨fun ⟨hk, h⟩ => ?_, fun ⟨⟨_, _, hk⟩, h⟩ => ⟨hk, h⟩⟩
    obtain ⟨hi, hj⟩ := Window.exists_hasDays_iff.1 ⟨w, h⟩
    exact ⟨⟨hi, hj, hk⟩, h⟩
  cases p with
  | today =>
    have hday : Window.day today = w ↔ w.HasDays today.dayNumber today.dayNumber := by
      constructor
      · rintro rfl
        exact ⟨today, today, rfl, rfl, rfl⟩
      · rintro ⟨a, b, rfl, ha, hb⟩
        rw [Date.dayNumber_inj.1 ha, Date.dayNumber_inj.1 hb, Window.day]
    simp only [windowFrom?, Option.some.injEq, hday, lookedUp, span, ← hplain]
    simp
  | yesterday =>
    simp only [windowFrom?, daysAgo?_eq_some_iff, lookedUp, span, ← hplain]
    simp
  | thisMonth =>
    simp only [windowFrom?, Window.month?_eq_some_iff hmonth, lookedUp, span_thisMonth,
      Int.sub_add_cancel, ← hbehind]
    simp
  | lastMonth =>
    simp only [windowFrom?, Window.month?_eq_some_iff (previousMonth_bounds hmonth), lookedUp,
      span_lastMonth, Int.sub_add_cancel, ← hbehind]
    simp
  | thisWeek | lastWeek =>
    simp only [windowFrom?, daysAgo?_eq_some_iff, lookedUp, span, ← hplain]
    simp
  | thisYear =>
    simp only [windowFrom?, Window.year?_eq_some_iff, lookedUp, span, ← hplain]
    simp
  | lastYear =>
    simp only [windowFrom?, Window.year?_eq_some_iff, lookedUp, span_lastYear, ← hplain]
    simp
  | lastDays n =>
    cases n with
    | zero => simp [windowFrom?]
    | succ n =>
      have hfirst : today.dayNumber - (n + 1 : Nat) + 1 = today.dayNumber - n := by omega
      simp only [windowFrom?, daysAgo?_eq_some_iff, lookedUp, span, hfirst, ← hplain]
      simp

/-- A window is missing only for zero days or where a day is looked up outside the calendar. -/
theorem windowFrom?_eq_none_iff :
    p.windowFrom? today = none ↔
      p = .lastDays 0 ∨ ∃ k ∈ p.lookedUp today, ¬Date.IsDayNumber k := by
  constructor
  · intro h
    by_contra hnot
    obtain ⟨hzero, hdays⟩ := not_or.1 hnot
    have hall : ∀ k ∈ p.lookedUp today, Date.IsDayNumber k := by
      intro k hk
      by_contra hout
      exact hdays ⟨k, hk, hout⟩
    -- the ends of the span are always among the days that are looked up
    have hends : Date.IsDayNumber (p.span today).1 ∧ Date.IsDayNumber (p.span today).2 := by
      unfold lookedUp at hall
      split at hall
      · exact absurd rfl hzero
      all_goals exact ⟨hall _ (by simp), hall _ (by simp)⟩
    obtain ⟨w, hw⟩ := Window.exists_hasDays_iff.2 hends
    rw [windowFrom?_eq_some_iff.2 ⟨hzero, hall, hw⟩] at h
    cases h
  · intro h
    rw [Option.eq_none_iff_forall_ne_some]
    intro w hw
    obtain ⟨hzero, hall, -⟩ := windowFrom?_eq_some_iff.1 hw
    rcases h with h | ⟨k, hk, hout⟩
    · exact hzero h
    · exact hout (hall k hk)

/-! ## The days of a period -/

/-- Whether a day is one of a period. -/
def Includes (today x : Date) : Period → Prop
  | .today => x = today
  | .yesterday => x.dayNumber + 1 = today.dayNumber
  | .thisMonth => x.year = today.year ∧ x.month = today.month
  | .lastMonth => (x.year, x.month) = previousMonth today.year today.month
  | .thisWeek => today.dayNumber < x.dayNumber + 7 ∧ x ≤ today
  | .lastWeek => today.dayNumber < x.dayNumber + 14 ∧ x.dayNumber + 7 ≤ today.dayNumber
  | .thisYear => x.year = today.year
  | .lastYear => x.year + 1 = today.year
  | .lastDays n => today.dayNumber < x.dayNumber + n ∧ x ≤ today

/-- A day belongs to a month exactly if it is numbered between the first day of the month and the
first day behind it. -/
theorem month_iff {y : Int} {mo : Nat} (hmonth : 1 ≤ mo ∧ mo ≤ 12) :
    monthStart y mo ≤ x.dayNumber ∧ x.dayNumber < monthStart y mo + daysIn y mo ↔
      x.year = y ∧ x.month = mo := by
  constructor
  · rintro ⟨hfirst, hlast⟩
    have hend : daysBeforeMonth y (mo + 1) ≤ daysBeforeMonth y 13 :=
      daysBeforeMonth_mono y (by omega)
    have hcivil := x.isCivil
    rw [daysBeforeMonth] at hend
    rw [monthStart] at hfirst hlast
    obtain rfl : x.year = y :=
      Date.year_eq (by omega) (by rw [daysBeforeYear_succ]; omega)
    refine ⟨rfl, ?_⟩
    rw [Date.dayNumber] at hfirst hlast
    -- in another month the day would come before or behind
    rcases lt_trichotomy x.month mo with hlt | heq | hgt
    · have hmono : daysBeforeMonth x.year (x.month + 1) ≤ daysBeforeMonth x.year mo :=
        daysBeforeMonth_mono x.year hlt
      rw [daysBeforeMonth] at hmono
      omega
    · exact heq
    · have hmono : daysBeforeMonth x.year (mo + 1) ≤ daysBeforeMonth x.year x.month :=
        daysBeforeMonth_mono x.year hgt
      rw [daysBeforeMonth] at hmono
      omega
  · rintro ⟨rfl, rfl⟩
    have hcivil := x.isCivil
    rw [Date.dayNumber_eq]
    omega

/-- A day belongs to a year exactly if it is numbered between the ends of the year. -/
theorem year_iff {y : Int} :
    daysBeforeYear y + 1 ≤ x.dayNumber ∧ x.dayNumber ≤ daysBeforeYear (y + 1) ↔ x.year = y := by
  constructor
  · rintro ⟨hfirst, hlast⟩
    exact Date.year_eq hfirst hlast
  · rintro rfl
    exact x.dayNumber_bounds

/-- The span of a period is made of the numbers of its days. -/
theorem includes_iff :
    p.Includes today x ↔ (p.span today).1 ≤ x.dayNumber ∧ x.dayNumber ≤ (p.span today).2 := by
  have hmonth := today.isCivil.2.1
  cases p with
  | today =>
    rw [Includes, ← Date.dayNumber_inj]
    simp only [span]
    omega
  | yesterday =>
    simp only [Includes, span]
    omega
  | thisMonth =>
    rw [Includes, ← month_iff hmonth, span_thisMonth]
    omega
  | lastMonth =>
    rw [Includes, Prod.ext_iff, ← month_iff (previousMonth_bounds hmonth), span_lastMonth]
    omega
  | thisWeek | lastDays =>
    rw [Includes, Date.le_iff_dayNumber]
    simp only [span]
    omega
  | lastWeek =>
    simp only [Includes, span]
    omega
  | thisYear => exact year_iff.symm
  | lastYear =>
    rw [Includes, span_lastYear, year_iff]
    omega

/-- Only zero days are none at all. -/
theorem span_le (h : p ≠ .lastDays 0) : (p.span today).1 ≤ (p.span today).2 := by
  have hmonth := today.isCivil.2.1
  have hyear : ∀ y, daysBeforeYear y + 1 ≤ daysBeforeYear (y + 1) := by
    intro y
    have hdays : daysBeforeMonth y 13 = daysBeforeMonth y 12 + 31 := rfl
    rw [daysBeforeYear_succ]
    omega
  cases p with
  | today | yesterday | thisWeek | lastWeek =>
    simp only [span]
    omega
  | thisMonth =>
    have hpos := @daysIn_pos today.year today.month hmonth
    rw [span_thisMonth]
    omega
  | lastMonth =>
    have hpos := @daysIn_pos (previousMonth today.year today.month).1
      (previousMonth today.year today.month).2 (previousMonth_bounds hmonth)
    rw [span_lastMonth]
    omega
  | thisYear => exact hyear today.year
  | lastYear =>
    rw [span_lastYear]
    exact hyear _
  | lastDays n =>
    -- the last no days are the only period without a day
    have hpos : n ≠ 0 := fun hzero => h (congrArg lastDays hzero)
    simp only [span]
    omega

/-- The days of a window are those of its period, of which there is at least one. -/
theorem days_of_windowFrom? (h : p.windowFrom? today = some w) :
    ∃ a b : Date, w = .days a b ∧ a ≤ b ∧ ∀ x, a ≤ x ∧ x ≤ b ↔ p.Includes today x := by
  obtain ⟨hzero, -, a, b, rfl, ha, hb⟩ := windowFrom?_eq_some_iff.1 h
  refine ⟨a, b, rfl, ?_, fun x => ?_⟩
  · rw [Date.le_iff_dayNumber, ha, hb]
    exact span_le hzero
  · rw [includes_iff, Date.le_iff_dayNumber, Date.le_iff_dayNumber, ha, hb]

end Period

/-! ## Machine words -/

namespace Word

/-- A number that fits into a signed word of 32 bits. -/
def signed? (n : Int) : Option Int := if -2 ^ 31 ≤ n ∧ n < 2 ^ 31 then some n else none

/-- A number that fits into an unsigned word of so many bits. -/
def unsigned? (bits : Nat) (n : Int) : Option Nat :=
  if 0 ≤ n ∧ n < 2 ^ bits then some n.toNat else none

/-- Numbers of 32 bits stay as they are. -/
theorem signed?_eq_some {n : Int} (h : -2 ^ 31 ≤ n ∧ n < 2 ^ 31) : signed? n = some n := if_pos h

theorem unsigned?_eq_some {bits : Nat} {n : Int} (h : 0 ≤ n ∧ n < 2 ^ bits) :
    unsigned? bits n = some n.toNat := if_pos h

end Word

/-- The month before a month, unless a step leaves its word. -/
def previousMonthInWords? (year : Int) (month : Nat) : Option (Int × Nat) :=
  if month = 1 then (Word.signed? (year - 1)).map (·, 12)
  else (Word.unsigned? 32 (month - 1)).map (year, ·)

/-- The month after a month, unless a step leaves its word. -/
def nextMonthInWords? (year : Int) (month : Nat) : Option (Int × Nat) :=
  if month = 12 then (Word.signed? (year + 1)).map (·, 1)
  else (Word.unsigned? 32 (month + 1)).map (year, ·)

/-- The window of a month, unless a step leaves its word: from its first day, if there is one,
through the day before the first day of the next month. -/
def Window.monthInWords? (year : Int) (month : Nat) : Option (Option Window) :=
  match Date.ofCivil? year month 1 with
  | some first => (nextMonthInWords? year month).map fun (nextYear, next) =>
    ((Date.ofCivil? nextYear next 1).bind (Date.back? 1)).map (days first)
  | none => some none

/-- The window of a period, unless a step leaves its word. Days are counted in words of 64 bits. -/
def Period.windowInWords? (today : Date) : Period → Option (Option Window)
  | .today => some (some (.day today))
  | .yesterday => some (daysAgo? 1 1 today)
  | .thisMonth => Window.monthInWords? today.year today.month
  | .lastMonth => (previousMonthInWords? today.year today.month).bind fun (year, month) =>
    Window.monthInWords? year month
  | .thisWeek => some (daysAgo? 6 0 today)
  | .lastWeek => some (daysAgo? 13 7 today)
  | .thisYear => some (Window.year? today.year)
  | .lastYear => (Word.signed? (today.year - 1)).map Window.year?
  | .lastDays n =>
    if n = 0 then some none else (Word.unsigned? 64 (n - 1)).map fun k => daysAgo? k 0 today

section
variable {y : Int} {mo : Nat}

/-- Within the calendar the month before is found in machine words. -/
theorem previousMonthInWords?_eq (hyear : -262143 ≤ y ∧ y ≤ 262142)
    (hmonth : 1 ≤ mo ∧ mo ≤ 12) : previousMonthInWords? y mo = some (previousMonth y mo) := by
  unfold previousMonthInWords? previousMonth
  split
  · rw [Word.signed?_eq_some (by omega), Option.map_some]
  · rw [Word.unsigned?_eq_some (by omega), Option.map_some]
    have hless : ((mo : Int) - 1).toNat = mo - 1 := by omega
    rw [hless]

theorem nextMonthInWords?_eq (hyear : -262143 ≤ y ∧ y ≤ 262142)
    (hmonth : 1 ≤ mo ∧ mo ≤ 12) : nextMonthInWords? y mo = some (nextMonth y mo) := by
  unfold nextMonthInWords? nextMonth
  split
  · rw [Word.signed?_eq_some (by omega), Option.map_some]
  · rw [Word.unsigned?_eq_some (by omega), Option.map_some]
    have hmore : ((mo : Int) + 1).toNat = mo + 1 := by omega
    rw [hmore]

/-- The day before the first day of the next month is the last day of a month. -/
theorem Window.monthInWords?_eq (hmonth : 1 ≤ mo ∧ mo ≤ 12) :
    monthInWords? y mo = some (month? y mo) := by
  have hlast : (Date.ofCivil? (nextMonth y mo).1 (nextMonth y mo).2 1).bind (Date.back? 1) =
      Date.lastOfMonth? y mo := by
    ext d
    rw [Date.lastOfMonth?_eq_some_iff hmonth, Option.bind_eq_some_iff]
    simp only [Date.ofCivil?_nextMonth_eq_some_iff hmonth, Date.back?_eq_some_iff]
    constructor
    · rintro ⟨e, he, hd⟩
      exact ⟨⟨e, he⟩, by omega⟩
    · rintro ⟨⟨e, he⟩, hd⟩
      exact ⟨e, he, by omega⟩
  unfold monthInWords? month?
  cases hfirst : Date.ofCivil? y mo 1 with
  | none => rfl
  | some first =>
    -- the month has a first day, so its year is one of the calendar and the next year fits a word
    have hyear := first.isCivil.1
    rw [(Date.eq_of_ofCivil? hfirst).1] at hyear
    simp only [nextMonthInWords?_eq hyear hmonth, Option.map_some, hlast]
    cases Date.lastOfMonth? y mo with
    | none => rfl
    | some last => rfl

end

/-- The window of a period is found without a step that leaves its word. -/
theorem Period.windowInWords?_eq {today : Date} {p : Period}
    (h : ∀ n, p = .lastDays n → n < 2 ^ 32) :
    p.windowInWords? today = some (p.windowFrom? today) := by
  have hcivil := today.isCivil
  cases p with
  | today | yesterday | thisWeek | lastWeek | thisYear => rfl
  | thisMonth => exact Window.monthInWords?_eq hcivil.2.1
  | lastMonth =>
    rw [windowInWords?, previousMonthInWords?_eq hcivil.1 hcivil.2.1, Option.bind_some]
    exact Window.monthInWords?_eq (previousMonth_bounds hcivil.2.1)
  | lastYear =>
    rw [windowInWords?, Word.signed?_eq_some (by omega), Option.map_some]
    rfl
  | lastDays n =>
    cases n with
    | zero => rfl
    | succ n =>
      have hn := h (n + 1) rfl
      have hcount : ((n + 1 : Nat) : Int) - 1 = n := by omega
      -- the count is taken down by one before it is made a word
      rw [windowInWords?, if_neg (Nat.succ_ne_zero n), hcount, Word.unsigned?_eq_some (by omega)]
      rfl

/-! ## Windows seen from a moment -/

namespace Period

variable {today a b c d : Date} {p q : Period}

/-- The window of a period has the days that the period spans. -/
theorem hasDays_of_windowFrom? (h : p.windowFrom? today = some (.days a b)) :
    a.dayNumber = (p.span today).1 ∧ b.dayNumber = (p.span today).2 :=
  Window.hasDays_days.1 (windowFrom?_eq_some_iff.1 h).2.2

/-- The window of a month goes from its first civil day through its last. -/
theorem ends_of_month? {y : Int} {mo : Nat} (h : Window.month? y mo = some (.days a b)) :
    a.day = 1 ∧ b.day = daysIn b.year b.month := by
  unfold Window.month? at h
  split at h
  · next first last hf hl =>
    obtain ⟨rfl, rfl⟩ := Window.days_inj.1 (Option.some.inj h)
    refine ⟨(Date.eq_of_ofCivil? hf).2.2, ?_⟩
    simp only [Date.lastOfMonth?] at hl
    split at hl
    · obtain ⟨hy, hm, hd⟩ := Date.eq_of_ofCivil? hl
      rw [hy, hm, hd]
    · cases hl
  · cases h

/-- The window of a year goes from the first of January through the end of December. -/
theorem ends_of_year? {y : Int} (h : Window.year? y = some (.days a b)) :
    (a.month = 1 ∧ a.day = 1) ∧ (b.month = 12 ∧ b.day = 31) := by
  unfold Window.year? at h
  split at h
  · next first last hf hl =>
    obtain ⟨rfl, rfl⟩ := Window.days_inj.1 (Option.some.inj h)
    exact ⟨(Date.eq_of_ofCivil? hf).2, (Date.eq_of_ofCivil? hl).2⟩
  · cases h

/-- Where one span ends in front of another, so does the one window in front of the other. -/
theorem back?_of_span (hspan : (p.span today).2 + 1 = (q.span today).1)
    (hp : p.windowFrom? today = some (.days a b)) (hq : q.windowFrom? today = some (.days c d)) :
    c.back? 1 = some b := by
  have hb := (hasDays_of_windowFrom? hp).2
  have hc := (hasDays_of_windowFrom? hq).1
  rw [Date.back?_eq_some_iff, hb, hc, ← hspan]
  rfl

/-- The days of a window are as many as its span has numbers. -/
theorem ncard_of_windowFrom? (h : p.windowFrom? today = some (.days a b)) :
    {x : Date | a ≤ x ∧ x ≤ b}.ncard = ((p.span today).2 + 1 - (p.span today).1).toNat := by
  obtain ⟨ha, hb⟩ := hasDays_of_windowFrom? h
  rw [Date.ncard_through, ha, hb]

/-- With more days the window of the last days grows. -/
theorem exists_window_of_fewer {m n : Nat} {w : Window} (hm : 0 < m) (hmn : m ≤ n)
    (h : (lastDays n).windowFrom? today = some w) :
    ∃ v, (lastDays m).windowFrom? today = some v ∧ ∀ t, v.holds t = true → w.holds t = true := by
  obtain ⟨n, rfl⟩ := Nat.exists_eq_add_of_lt (Nat.lt_of_lt_of_le hm hmn)
  obtain ⟨m, rfl⟩ := Nat.exists_eq_add_of_lt hm
  simp only [Nat.zero_add] at h hm hmn ⊢
  obtain ⟨a, b, rfl, ha, hb⟩ := daysAgo?_eq_some_iff.1 h
  -- the first day of the shorter window lies between that of the longer one and the present
  have hfirst := Date.le_iff_dayNumber.1 (Date.first_le a)
  have hlast := Date.le_iff_dayNumber.1 (Date.le_last b)
  obtain ⟨e, he⟩ := Date.exists_dayNumber_iff.2
    (⟨by omega, by omega⟩ : Date.first.dayNumber ≤ today.dayNumber - m ∧
      today.dayNumber - m ≤ Date.last.dayNumber)
  refine ⟨.days e b, daysAgo?_eq_some_iff.2 (Window.hasDays_days.2 ⟨he, hb⟩), fun t ht => ?_⟩
  obtain ⟨hstart, hend⟩ := Window.holds_iff.1 ht
  have hae : a ≤ e := Date.le_iff_dayNumber.2 (by omega)
  refine Window.holds_iff.2 ⟨Moment.startOf_le.2 ?_, hend⟩
  exact Int.le_trans (Date.le_def.1 hae) (Date.le_def.1 (Moment.startOf_le.1 hstart))

/-- The windows of relative periods, seen from a moment. A window consists of the days of its
period, of which there is at least one. It is missing only for zero days, or where a day that has to
be looked up is none of the calendar. Windows of months and years go from their first civil day
through their last. The day, the week, the month and the year before end the day before the present
ones start. Weeks have seven days, and the present one is the last seven days. The last `n` days are
`n` days and end today, and with more of them the window grows. No step leaves its machine word. -/
theorem windows_by_day (now : Moment) :
    (∀ (p : Period) (w : Window), p.window? now = some w →
      ∃ a b : Date, w = .days a b ∧ a ≤ b ∧ ∀ x, a ≤ x ∧ x ≤ b ↔ p.Includes now.date x) ∧
    (∀ p : Period, p.window? now = none ↔
      p = .lastDays 0 ∨ ∃ k ∈ p.lookedUp now.date, ¬Date.IsDayNumber k) ∧
    (∀ p ∈ [thisMonth, lastMonth], ∀ a b, p.window? now = some (.days a b) →
      a.day = 1 ∧ b.day = daysIn b.year b.month) ∧
    (∀ p ∈ [thisYear, lastYear], ∀ a b, p.window? now = some (.days a b) →
      (a.month = 1 ∧ a.day = 1) ∧ (b.month = 12 ∧ b.day = 31)) ∧
    (∀ p q, (p, q) ∈ [(yesterday, .today), (lastWeek, thisWeek), (lastMonth, thisMonth),
        (lastYear, thisYear)] →
      ∀ a b c d, p.window? now = some (.days a b) → q.window? now = some (.days c d) →
        c.back? 1 = some b) ∧
    (∀ p ∈ [thisWeek, lastWeek], ∀ a b, p.window? now = some (.days a b) →
      {x : Date | a ≤ x ∧ x ≤ b}.ncard = 7) ∧
    thisWeek.window? now = (lastDays 7).window? now ∧
    (∀ n a b, (lastDays n).window? now = some (.days a b) →
      b = now.date ∧ {x : Date | a ≤ x ∧ x ≤ b}.ncard = n) ∧
    (∀ m n w, 0 < m → m ≤ n → (lastDays n).window? now = some w →
      ∃ v, (lastDays m).window? now = some v ∧ ∀ t, v.holds t = true → w.holds t = true) ∧
    (∀ p : Period, (∀ n, p = .lastDays n → n < 2 ^ 32) →
      p.windowInWords? now.date = some (p.window? now)) := by
  simp only [window?]
  refine ⟨fun p w h => days_of_windowFrom? h, fun p => windowFrom?_eq_none_iff, ?months, ?years,
    ?before, ?weeks, rfl, ?lastDays, fun m n w hm hmn h => exists_window_of_fewer hm hmn h,
    fun p h => windowInWords?_eq h⟩
  case months =>
    simp only [List.forall_mem_cons, List.not_mem_nil, false_imp_iff, implies_true, and_true]
    exact ⟨fun a b h => ends_of_month? h, fun a b h => ends_of_month? h⟩
  case years =>
    simp only [List.forall_mem_cons, List.not_mem_nil, false_imp_iff, implies_true, and_true]
    exact ⟨fun a b h => ends_of_year? h, fun a b h => ends_of_year? h⟩
  case before =>
    -- each of the four ends on the day before the other one starts
    have hspan : ∀ p q, (p, q) ∈ [(yesterday, today), (lastWeek, thisWeek),
        (lastMonth, thisMonth), (lastYear, thisYear)] →
        (p.span now.date).2 + 1 = (q.span now.date).1 := by
      simp only [List.mem_cons, Prod.mk.injEq, List.not_mem_nil, or_false]
      rintro p q (⟨rfl, rfl⟩ | ⟨rfl, rfl⟩ | ⟨rfl, rfl⟩ | ⟨rfl, rfl⟩)
      · exact Int.sub_add_cancel _ 1
      · simp only [span]
        omega
      · exact Int.sub_add_cancel _ 1
      · rfl
    exact fun p q hpq a b c d hp hq => back?_of_span (hspan p q hpq) hp hq
  case weeks =>
    simp only [List.forall_mem_cons, List.not_mem_nil, false_imp_iff, implies_true, and_true]
    refine ⟨fun a b h => ?_, fun a b h => ?_⟩
    all_goals
      rw [ncard_of_windowFrom? h]
      simp only [span]
      omega
  case lastDays =>
    intro n a b h
    refine ⟨Date.dayNumber_inj.1 (hasDays_of_windowFrom? h).2, ?_⟩
    rw [ncard_of_windowFrom? h]
    simp only [span]
    omega

/-- The first of March of a leap year. -/
def march2024 : Date := ⟨2024, 3, 1, by decide⟩

/-- The month before it ends on the 29th of February, and so does the day before. The last 60 days
start on the second day of January and are more than the last seven. -/
theorem windows_from_march2024 :
    (∃ a b : Date, lastMonth.window? (.startOf march2024) = some (.days a b) ∧
      a.day = 1 ∧ b.day = 29 ∧ march2024.back? 1 = some b) ∧
    (∃ a : Date, (lastDays 60).window? (.startOf march2024) = some (.days a march2024) ∧
      (a.month = 1 ∧ a.day = 2) ∧ {x : Date | a ≤ x ∧ x ≤ march2024}.ncard = 60) := by
  obtain ⟨-, -, hmonths, -, hbefore, -, -, hlast, -⟩ := windows_by_day (.startOf march2024)
  have hfebruary : lastMonth.window? (.startOf march2024) =
      some (.days ⟨2024, 2, 1, by decide⟩ ⟨2024, 2, 29, by decide⟩) := by decide
  have hmarch : thisMonth.window? (.startOf march2024) =
      some (.days march2024 ⟨2024, 3, 31, by decide⟩) := by decide
  have hsixty : (lastDays 60).window? (.startOf march2024) =
      some (.days ⟨2024, 1, 2, by decide⟩ march2024) := by decide +kernel
  refine ⟨⟨_, _, hfebruary, ?_, rfl, ?_⟩, _, hsixty, ⟨rfl, rfl⟩, (hlast _ _ _ hsixty).2⟩
  · exact (hmonths lastMonth (by simp) _ _ hfebruary).1
  · exact hbefore lastMonth thisMonth (by simp) _ _ _ _ hfebruary hmarch

end Period

end AskLedger
