import Mathlib.Data.Set.Card
import Mathlib.Order.Interval.Finset.Basic
import Mathlib.Data.Int.ConditionallyCompleteOrder
import Mathlib.Data.Int.Interval
import Mathlib.Order.Monotone.Basic
import AskLedger.Proofs.WholeDays

/-!
# Counting days

The serial number of a date orders dates but has gaps. The day number has none: it counts the days
of the calendar one by one, from the first of January of year 0, which is day 1. So going back `n`
days takes `n` from the day number, and the days from one date through another are counted by the
difference of their numbers.

* `Date.le_iff_dayNumber`: the day number orders dates.
* `Date.exists_dayNumber_iff`: which numbers belong to days of the calendar.
* `Date.back?_eq_some_iff`: the day a number of days before a date.
* `Date.ncard_through`: the number of days from one date through another.
-/

namespace AskLedger

/-! ## Days before years and months -/

/-- The number of days from the first of January of year 0 to that of a year. Every fourth year is a
leap year, except for three of every four full centuries. -/
def daysBeforeYear (year : Int) : Int :=
  365 * year + (year + 3) / 4 - (year + 99) / 100 + (year + 399) / 400

/-- The number of days of a year before a month of it. -/
def daysBeforeMonth (year : Int) : Nat → Nat
  | 0 => 0
  | month + 1 => daysBeforeMonth year month + daysIn year month

/-- The number of the first day of a month. -/
def monthStart (year : Int) (month : Nat) : Int :=
  daysBeforeYear year + daysBeforeMonth year month + 1

/-- A year adds the days of its twelve months. -/
theorem daysBeforeYear_succ (year : Int) :
    daysBeforeYear (year + 1) = daysBeforeYear year + daysBeforeMonth year 13 := by
  have hleap : isLeapYear year = true ↔ year % 4 = 0 ∧ (year % 100 ≠ 0 ∨ year % 400 = 0) := by
    simp [isLeapYear]
  by_cases h : isLeapYear year = true
  · have hyear := hleap.1 h
    simp only [daysBeforeYear, daysBeforeMonth, daysIn, h, if_true]
    omega
  · have hyear := mt hleap.2 h
    simp only [daysBeforeYear, daysBeforeMonth, daysIn, if_neg h]
    omega

/-- Later years have more days in front of them. -/
theorem daysBeforeYear_mono : Monotone daysBeforeYear :=
  monotone_int_of_le_succ fun year => by
    rw [daysBeforeYear_succ]
    omega

theorem daysBeforeMonth_mono (year : Int) : Monotone (daysBeforeMonth year) :=
  monotone_nat_of_le_succ fun _ => Nat.le_add_right _ _

variable {year : Int} {month : Nat}

/-- A month ends where the next one starts. -/
theorem monthStart_nextMonth (h : 1 ≤ month ∧ month ≤ 12) :
    monthStart (nextMonth year month).1 (nextMonth year month).2 =
      monthStart year month + daysIn year month := by
  unfold nextMonth
  split
  · next hlast =>
    subst hlast
    simp only [monthStart, daysBeforeYear_succ, daysBeforeMonth, daysIn]
    omega
  · simp only [monthStart, daysBeforeMonth]
    omega

/-- The month after the month before a month is that month. -/
theorem nextMonth_previousMonth (h : 1 ≤ month ∧ month ≤ 12) :
    nextMonth (previousMonth year month).1 (previousMonth year month).2 = (year, month) := by
  unfold previousMonth nextMonth
  split
  · next hfirst => simp [hfirst]
  · have hne : month - 1 ≠ 12 := by omega
    simp only [if_neg hne]
    rw [Nat.sub_add_cancel h.1]

/-- The month before a month is one of the twelve. -/
theorem previousMonth_bounds (h : 1 ≤ month ∧ month ≤ 12) :
    1 ≤ (previousMonth year month).2 ∧ (previousMonth year month).2 ≤ 12 := by
  unfold previousMonth
  split
  · exact ⟨by simp, Nat.le_refl 12⟩
  · exact ⟨by omega, by omega⟩

theorem nextMonth_bounds (h : 1 ≤ month ∧ month ≤ 12) :
    1 ≤ (nextMonth year month).2 ∧ (nextMonth year month).2 ≤ 12 := by
  unfold nextMonth
  split
  · exact ⟨Nat.le_refl 1, by simp⟩
  · exact ⟨by simp, by simp only; omega⟩

namespace Date

variable {a b d e : Date} {n : Nat}

/-! ## Numbers of days -/

/-- The number of a day, counted from the first of January of year 0. -/
def dayNumber (d : Date) : Int :=
  daysBeforeYear d.year + daysBeforeMonth d.year d.month + d.day

/-- The first day of the calendar. -/
def first : Date := ⟨minYear, 1, 1, by decide⟩

/-- The last day of the calendar. -/
def last : Date := ⟨maxYear, 12, 31, by decide⟩

/-- A day is counted from the start of its month. -/
theorem dayNumber_eq (d : Date) : d.dayNumber = monthStart d.year d.month + d.day - 1 := by
  rw [dayNumber, monthStart]
  omega

/-- The day number of a date lies within its year. -/
theorem dayNumber_bounds (d : Date) :
    daysBeforeYear d.year < d.dayNumber ∧ d.dayNumber ≤ daysBeforeYear (d.year + 1) := by
  have hcivil := d.isCivil
  have hend : daysBeforeMonth d.year (d.month + 1) ≤ daysBeforeMonth d.year 13 :=
    daysBeforeMonth_mono d.year (by omega)
  rw [daysBeforeMonth] at hend
  rw [dayNumber, daysBeforeYear_succ]
  omega

/-- Later dates have greater day numbers. -/
theorem dayNumber_lt (h : a < b) : a.dayNumber < b.dayNumber := by
  have ha := a.isCivil
  have hb := b.isCivil
  have hda := daysIn_le a.year a.month
  have hdb := daysIn_le b.year b.month
  simp only [lt_def, serial] at h
  -- the dates differ in their years, or else in their months, or else in their days
  rcases lt_trichotomy a.year b.year with hyear | hyear | hyear
  · have hmono : daysBeforeYear (a.year + 1) ≤ daysBeforeYear b.year := daysBeforeYear_mono hyear
    have hbefore := a.dayNumber_bounds.2
    have hbehind := b.dayNumber_bounds.1
    omega
  · rcases lt_trichotomy a.month b.month with hmonth | hmonth | hmonth
    · have hmono : daysBeforeMonth b.year (a.month + 1) ≤ daysBeforeMonth b.year b.month :=
        daysBeforeMonth_mono b.year hmonth
      rw [daysBeforeMonth] at hmono
      rw [hyear] at ha
      simp only [dayNumber, hyear]
      omega
    · simp only [dayNumber, hyear, hmonth]
      omega
    · omega
  · omega

/-- The day number orders dates. -/
theorem le_iff_dayNumber : a ≤ b ↔ a.dayNumber ≤ b.dayNumber := by
  constructor
  · intro h
    rcases Int.lt_or_eq_of_le (le_def.1 h) with hlt | heq
    · exact Int.le_of_lt (dayNumber_lt (lt_def.2 hlt))
    · exact Int.le_of_eq (congrArg dayNumber (ext_serial heq))
  · intro h
    by_contra hle
    have hlt := dayNumber_lt (lt_def.2 (Int.not_le.1 fun hserial => hle (le_def.2 hserial)))
    omega

/-- The day number determines the date. -/
theorem dayNumber_inj : a.dayNumber = b.dayNumber ↔ a = b := by
  constructor
  · intro h
    have hab := le_def.1 (le_iff_dayNumber.2 (Int.le_of_eq h))
    have hba := le_def.1 (le_iff_dayNumber.2 (Int.le_of_eq h.symm))
    exact ext_serial (Int.le_antisymm hab hba)
  · rintro rfl
    rfl

theorem first_le (d : Date) : first ≤ d := by
  have hcivil := d.isCivil
  have hserial : first.serial = (-262143 * 12 + 0) * 31 + 0 := rfl
  rw [le_def, hserial, serial]
  omega

theorem le_last (d : Date) : d ≤ last := by
  have hcivil := d.isCivil
  have hdays := daysIn_le d.year d.month
  have hserial : last.serial = (262142 * 12 + 11) * 31 + 30 := rfl
  rw [le_def, hserial, serial]
  omega

/-! ## Going back -/

/-- The last day of the month before is `d.day` days before `d`. -/
theorem dayNumber_endOfPrevious
    (h : ofCivil? (previousMonth d.year d.month).1 (previousMonth d.year d.month).2
      (daysIn (previousMonth d.year d.month).1 (previousMonth d.year d.month).2) = some e) :
    e.dayNumber + d.day = d.dayNumber := by
  have hmonth := d.isCivil.2.1
  have hnext := @monthStart_nextMonth (previousMonth d.year d.month).1
    (previousMonth d.year d.month).2 (previousMonth_bounds hmonth)
  rw [nextMonth_previousMonth hmonth] at hnext
  obtain ⟨hy, hm, hd⟩ := eq_of_ofCivil? h
  rw [dayNumber_eq, dayNumber_eq, hy, hm, hd, hnext]
  omega

/-- Only the first month of the calendar has none before it. -/
theorem eq_first_of_no_previous
    (h : ofCivil? (previousMonth d.year d.month).1 (previousMonth d.year d.month).2
      (daysIn (previousMonth d.year d.month).1 (previousMonth d.year d.month).2) = none) :
    d.year = minYear ∧ d.month = 1 := by
  have hcivil := d.isCivil
  by_contra hfirst
  have hbounds := @previousMonth_bounds d.year d.month hcivil.2.1
  have hyear : -262143 ≤ (previousMonth d.year d.month).1 ∧
      (previousMonth d.year d.month).1 ≤ 262142 := by
    simp only [minYear] at hfirst
    unfold previousMonth
    split
    · next hone => exact ⟨by omega, by omega⟩
    · exact hcivil.1
  rw [ofCivil?_eq_some ⟨hyear, hbounds, daysIn_pos hbounds, Nat.le_refl _⟩] at h
  cases h

/-- Going back `n` days takes `n` from the day number. -/
theorem dayNumber_of_back? (h : d.back? n = some e) : e.dayNumber + n = d.dayNumber := by
  fun_induction back? n d with
  | case1 n d hn =>
    obtain ⟨hy, hm, hd⟩ := eq_of_ofCivil? h
    simp only [dayNumber, hy, hm, hd]
    omega
  | case2 n d hn year month hprev f hf ih =>
    have hrest := ih h
    have hend : f.dayNumber + d.day = d.dayNumber :=
      dayNumber_endOfPrevious (by rw [hprev]; exact hf)
    omega
  | case3 n d hn year month hprev hnone => cases h

/-- It fails only in front of the first day of the calendar. -/
theorem lt_first_of_back? (h : d.back? n = none) : d.dayNumber - n < first.dayNumber := by
  fun_induction back? n d with
  | case1 n d hn =>
    have hcivil := d.isCivil
    rw [ofCivil?_eq_some ⟨hcivil.1, hcivil.2.1, by omega, by omega⟩] at h
    cases h
  | case2 n d hn year month hprev f hf ih =>
    have hrest := ih h
    have hend : f.dayNumber + d.day = d.dayNumber :=
      dayNumber_endOfPrevious (by rw [hprev]; exact hf)
    omega
  | case3 n d hn year month hprev hnone =>
    obtain ⟨hy, hm⟩ := eq_first_of_no_previous (d := d) (by rw [hprev]; exact hnone)
    rw [dayNumber_eq, dayNumber_eq, hy, hm]
    simp only [first]
    omega

/-- Going back some days takes as many from the day number. -/
theorem back?_eq_some_iff : d.back? n = some e ↔ e.dayNumber + n = d.dayNumber := by
  refine ⟨dayNumber_of_back?, fun h => ?_⟩
  cases hback : d.back? n with
  | none =>
    have hlt := lt_first_of_back? hback
    have hfirst := le_iff_dayNumber.1 (first_le e)
    omega
  | some f =>
    have hf := dayNumber_of_back? hback
    rw [dayNumber_inj.1 (by omega : f.dayNumber = e.dayNumber)]

/-- Every number from that of the first day of the calendar through that of the last belongs to a
day. -/
theorem exists_dayNumber_iff {k : Int} :
    (∃ d : Date, d.dayNumber = k) ↔ first.dayNumber ≤ k ∧ k ≤ last.dayNumber := by
  constructor
  · rintro ⟨d, rfl⟩
    exact ⟨le_iff_dayNumber.1 (first_le d), le_iff_dayNumber.1 (le_last d)⟩
  · rintro ⟨hfirst, hlast⟩
    cases hback : last.back? (last.dayNumber - k).toNat with
    | some d =>
      have hd := dayNumber_of_back? hback
      exact ⟨d, by omega⟩
    | none =>
      have hlt := lt_first_of_back? hback
      omega

/-! ## Counting -/

/-- The number of days from one date through another. -/
theorem ncard_through (a b : Date) :
    {x : Date | a ≤ x ∧ x ≤ b}.ncard = (b.dayNumber + 1 - a.dayNumber).toNat := by
  have hinj : Function.Injective dayNumber := fun _ _ h => dayNumber_inj.1 h
  have himage : dayNumber '' {x : Date | a ≤ x ∧ x ≤ b} =
      (Finset.Icc a.dayNumber b.dayNumber : Set Int) := by
    ext k
    simp only [Set.mem_image, Set.mem_ofPred_eq, Finset.coe_Icc, Set.mem_Icc]
    constructor
    · rintro ⟨x, ⟨hax, hxb⟩, rfl⟩
      exact ⟨le_iff_dayNumber.1 hax, le_iff_dayNumber.1 hxb⟩
    · rintro ⟨hak, hkb⟩
      have hfirst := le_iff_dayNumber.1 (first_le a)
      have hlast := le_iff_dayNumber.1 (le_last b)
      obtain ⟨x, rfl⟩ := exists_dayNumber_iff.2 ⟨hfirst.trans hak, hkb.trans hlast⟩
      exact ⟨x, ⟨le_iff_dayNumber.2 hak, le_iff_dayNumber.2 hkb⟩, rfl⟩
  rw [← Set.ncard_image_of_injective _ hinj, himage, Set.ncard_coe_finset, Int.card_Icc]

end Date

end AskLedger
