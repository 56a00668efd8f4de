/-!
# Dates

Days of the proleptic Gregorian calendar. Years are counted astronomically, so that the year 0
exists and negative years precede it, and lie between `Date.minYear` and `Date.maxYear`: a step that
leaves this range yields no date.

Dates are ordered by a serial number that counts 31 days to every month and 12 months to every year;
it has gaps but keeps the order, and comparisons of serials are linear arithmetic.

* `Date.ext_serial`: the serial number determines the date.
-/

namespace AskLedger

/-- Whether a year has a 29th of February. -/
def isLeapYear (year : Int) : Bool :=
  year % 4 == 0 && (year % 100 != 0 || year % 400 == 0)

/-- The number of days of a month; months outside 1 to 12 have none. -/
def daysIn (year : Int) (month : Nat) : Nat :=
  match month with
  | 1 | 3 | 5 | 7 | 8 | 10 | 12 => 31
  | 4 | 6 | 9 | 11 => 30
  | 2 => if isLeapYear year then 29 else 28
  | _ => 0

/-- The month before a month, with its year. -/
def previousMonth (year : Int) (month : Nat) : Int × Nat :=
  if month = 1 then (year - 1, 12) else (year, month - 1)

/-- The month after a month, with its year. -/
def nextMonth (year : Int) (month : Nat) : Int × Nat :=
  if month = 12 then (year + 1, 1) else (year, month + 1)

/-- A day of the calendar. -/
structure Date where
  /-- The year, counted astronomically. -/
  year : Int
  /-- The month, 1 to 12. -/
  month : Nat
  /-- The day of the month, from 1. -/
  day : Nat
  /-- The year is in range, and the month and the day exist. -/
  isCivil : (-262143 ≤ year ∧ year ≤ 262142) ∧ (1 ≤ month ∧ month ≤ 12) ∧
    (1 ≤ day ∧ day ≤ daysIn year month)
  deriving DecidableEq, Repr

namespace Date

/-- The first year of the calendar. -/
def minYear : Int := -262143

/-- The last year of the calendar. -/
def maxYear : Int := 262142

/-- The date with these parts, if there is one. -/
def ofCivil? (year : Int) (month day : Nat) : Option Date :=
  if h : (-262143 ≤ year ∧ year ≤ 262142) ∧ (1 ≤ month ∧ month ≤ 12) ∧
      (1 ≤ day ∧ day ≤ daysIn year month) then
    some ⟨year, month, day, h⟩
  else none

/-- A number that orders dates. -/
def serial (d : Date) : Int :=
  (d.year * 12 + (d.month - 1 : Nat)) * 31 + (d.day - 1 : Nat)

instance : LE Date := ⟨fun a b => a.serial ≤ b.serial⟩

instance : LT Date := ⟨fun a b => a.serial < b.serial⟩

instance (a b : Date) : Decidable (a ≤ b) := inferInstanceAs (Decidable (a.serial ≤ b.serial))

instance (a b : Date) : Decidable (a < b) := inferInstanceAs (Decidable (a.serial < b.serial))

theorem le_def {a b : Date} : a ≤ b ↔ a.serial ≤ b.serial := Iff.rfl

theorem lt_def {a b : Date} : a < b ↔ a.serial < b.serial := Iff.rfl

/-- No month has more than 31 days. -/
theorem daysIn_le (year : Int) (month : Nat) : daysIn year month ≤ 31 := by
  unfold daysIn
  split <;> (try split) <;> omega

/-- The serial number determines the date. -/
theorem ext_serial {a b : Date} (h : a.serial = b.serial) : a = b := by
  obtain ⟨ya, ma, da, ha⟩ := a
  obtain ⟨yb, mb, db, hb⟩ := b
  have hda := daysIn_le ya ma
  have hdb := daysIn_le yb mb
  simp only [serial] at h
  have hy : ya = yb := by omega
  have hm : ma = mb := by omega
  have hd : da = db := by omega
  subst hy hm hd
  rfl

theorem serial_inj {a b : Date} : a.serial = b.serial ↔ a = b :=
  ⟨ext_serial, fun h => h ▸ rfl⟩

/-- The last day of a month, found as the day before the next month starts. -/
def lastOfMonth? (year : Int) (month : Nat) : Option Date :=
  -- there is none where the next month lies outside the calendar
  let (nextYear, next) := nextMonth year month
  match ofCivil? nextYear next 1 with
  | some _ =>
    let (y, m) := previousMonth nextYear next
    ofCivil? y m (daysIn y m)
  | none => none

/-- The day `n` days before a date. Whole months are passed in one step: the last day of the month
before is `d.day` days before `d`. -/
def back? (n : Nat) (d : Date) : Option Date :=
  if n < d.day then ofCivil? d.year d.month (d.day - n)
  else
    let (year, month) := previousMonth d.year d.month
    match ofCivil? year month (daysIn year month) with
    | some e => back? (n - d.day) e
    | none => none
termination_by n
decreasing_by
  have := d.isCivil
  omega

/-- The earlier and the later of two dates. -/
def inOrder (a b : Date) : Date × Date :=
  if a ≤ b then (a, b) else (b, a)

/-- A date that is made of a year, a month and a day has these. -/
theorem eq_of_ofCivil? {y : Int} {m d : Nat} {e : Date} (h : ofCivil? y m d = some e) :
    e.year = y ∧ e.month = m ∧ e.day = d := by
  unfold ofCivil? at h
  split at h
  · cases h; exact ⟨rfl, rfl, rfl⟩
  · cases h

@[simp] theorem ofCivil?_self (d : Date) : ofCivil? d.year d.month d.day = some d := by
  simp [ofCivil?, d.isCivil]

@[simp] theorem back?_zero (d : Date) : d.back? 0 = some d := by
  have := d.isCivil
  rw [back?, if_pos (by omega)]
  simp

end Date

end AskLedger
