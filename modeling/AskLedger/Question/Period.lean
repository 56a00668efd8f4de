import AskLedger.Calendar.Window

/-!
# Relative periods

Stretches of days that are named by their distance from the present. Months and years are those of
the calendar. Weeks are not: this week is the seven days that end today, and last week the seven
days before them.

* `Period.window?_congr`: only the day of the present counts.
-/

namespace AskLedger

/-- A stretch of days relative to the present. -/
inductive Period where
  /-- The present day. -/
  | today
  /-- The day before it. -/
  | yesterday
  /-- The present month. -/
  | thisMonth
  /-- The month before it. -/
  | lastMonth
  /-- The seven days that end today. -/
  | thisWeek
  /-- The seven days before these. -/
  | lastWeek
  /-- The present year. -/
  | thisYear
  /-- The year before it. -/
  | lastYear
  /-- The `n` days that end today. -/
  | lastDays (n : Nat)
  deriving DecidableEq, Repr

namespace Period

/-- The days from `first` days ago through `last` days ago. -/
def daysAgo? (first last : Nat) (today : Date) : Option Window :=
  match today.back? first, today.back? last with
  | some a, some b => some (.days a b)
  | _, _ => none

/-- The window of a period, seen from a day. There is none for zero days or where a part of the
period lies outside the calendar. -/
def windowFrom? (today : Date) : Period → Option Window
  | .today => some (.day today)
  | .yesterday => daysAgo? 1 1 today
  | .thisMonth => Window.month? today.year today.month
  | .lastMonth =>
    let (year, month) := previousMonth today.year today.month
    Window.month? year month
  | .thisWeek => daysAgo? 6 0 today
  | .lastWeek => daysAgo? 13 7 today
  | .thisYear => Window.year? today.year
  | .lastYear => Window.year? (today.year - 1)
  | .lastDays 0 => none
  | .lastDays (n + 1) => daysAgo? n 0 today

/-- The window of a period, seen from a moment. -/
def window? (p : Period) (now : Moment) : Option Window :=
  p.windowFrom? now.date

/-- Only the day of the present counts. -/
theorem window?_congr {a b : Moment} (h : a.date = b.date) (p : Period) :
    p.window? a = p.window? b := by
  rw [window?, window?, h]

end Period

end AskLedger
