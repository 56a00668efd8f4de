import AskLedger.Calendar.Date

/-!
# Moments

A moment is a date with a time of day in nanoseconds, without a time zone. A leap second is the
second 59 of its minute with a nanosecond count from one to two thousand million, so it lies after
every ordinary moment of that second and before the next minute.

Moments are ordered by date, then second, then nanosecond; as for dates, the order is that of one
serial number.

* `Moment.ext_serial`: the serial number determines the moment.
* `Moment.date_le`: an earlier moment has no later date.
-/

namespace AskLedger

/-- A date with a time of day. -/
structure Moment where
  /-- The day. -/
  date : Date
  /-- Seconds since midnight. -/
  second : Nat
  /-- Nanoseconds since the start of that second. -/
  nano : Nat
  /-- The time exists; only second 59 of a minute may be a leap second. -/
  isTime : second < 86400 ∧ nano < 2000000000 ∧ (1000000000 ≤ nano → second % 60 = 59)
  deriving DecidableEq, Repr

namespace Moment

/-- A number that orders moments. -/
def serial (m : Moment) : Int :=
  (m.date.serial * 86400 + m.second) * 2000000000 + m.nano

instance : LE Moment := ⟨fun a b => a.serial ≤ b.serial⟩

instance : LT Moment := ⟨fun a b => a.serial < b.serial⟩

instance (a b : Moment) : Decidable (a ≤ b) := inferInstanceAs (Decidable (a.serial ≤ b.serial))

instance (a b : Moment) : Decidable (a < b) := inferInstanceAs (Decidable (a.serial < b.serial))

theorem le_def {a b : Moment} : a ≤ b ↔ a.serial ≤ b.serial := Iff.rfl

theorem lt_def {a b : Moment} : a < b ↔ a.serial < b.serial := Iff.rfl

/-- The moment of a date with this hour, minute, second and nanosecond; second 60 is the leap second
of its minute. -/
def at? (date : Date) (hour minute second nano : Nat) : Option Moment :=
  if h : hour < 24 ∧ minute < 60 ∧ second ≤ 60 ∧ nano < 1000000000 then
    if hs : second = 60 then
      some ⟨date, hour * 3600 + minute * 60 + 59, nano + 1000000000, by omega⟩
    else some ⟨date, hour * 3600 + minute * 60 + second, nano, by omega⟩
  else none

/-- The first moment of a day. -/
def startOf (d : Date) : Moment := ⟨d, 0, 0, by omega⟩

/-- The last ordinary moment of a day: one nanosecond before midnight. A leap second at the end of
the day lies behind it. -/
def endOf (d : Date) : Moment := ⟨d, 86399, 999999999, by omega⟩

/-- The year of a moment. -/
def year (m : Moment) : Int := m.date.year

/-- The month of a moment, 1 to 12. -/
def month (m : Moment) : Nat := m.date.month

/-- The hour, 0 to 23. -/
def hour (m : Moment) : Nat := m.second / 3600

/-- The minute, 0 to 59. -/
def minute (m : Moment) : Nat := m.second / 60 % 60

/-- The second as it is written, 0 to 60. -/
def shownSecond (m : Moment) : Nat := m.second % 60 + m.nano / 1000000000

/-- The nanoseconds as they are written, below one second. -/
def shownNano (m : Moment) : Nat := m.nano % 1000000000

/-- The moment without its fraction of a second; a leap second stays one. -/
def wholeSecond (m : Moment) : Moment :=
  ⟨m.date, m.second, m.nano / 1000000000 * 1000000000, by have := m.isTime; omega⟩

/-- The serial number determines the moment. -/
theorem ext_serial {a b : Moment} (h : a.serial = b.serial) : a = b := by
  obtain ⟨da, sa, na, ha⟩ := a
  obtain ⟨db, sb, nb, hb⟩ := b
  simp only [serial] at h
  have hd : da.serial = db.serial := by omega
  have hs : sa = sb := by omega
  have hn : na = nb := by omega
  cases Date.ext_serial hd
  subst hs hn
  rfl

theorem serial_inj {a b : Moment} : a.serial = b.serial ↔ a = b :=
  ⟨ext_serial, fun h => h ▸ rfl⟩

/-- An earlier moment has no later date. -/
theorem date_le {a b : Moment} (h : a ≤ b) : a.date ≤ b.date := by
  have ha := a.isTime
  have hb := b.isTime
  simp only [le_def, serial] at h
  simp only [Date.le_def]
  omega

/-- The start of a day comes before every moment of that day and of later ones. -/
theorem startOf_le {m : Moment} {d : Date} : startOf d ≤ m ↔ d ≤ m.date := by
  have := m.isTime
  simp only [le_def, serial, startOf, Date.le_def]
  omega

end Moment

end AskLedger
