import AskLedger.Calendar.Moment

/-!
# Windows

A window is a closed stretch of time. Windows of whole days start at the midnight that begins their
first day and end one nanosecond before the midnight that ends their last.

* `Window.days_holds_of`: a window of days holds a moment only if it holds its date.
-/

namespace AskLedger

/-- A closed stretch of time. -/
structure Window where
  /-- The first moment inside. -/
  first : Moment
  /-- The last moment inside. -/
  last : Moment
  deriving DecidableEq, Repr

namespace Window

/-- Whether a moment lies in a window. -/
def holds (w : Window) (m : Moment) : Bool :=
  decide (w.first ≤ m) && decide (m ≤ w.last)

/-- A window holds what lies between its ends, the ends included. -/
theorem holds_iff {w : Window} {m : Moment} : w.holds m = true ↔ w.first ≤ m ∧ m ≤ w.last := by
  simp [holds]

/-- The whole days from `first` through `last`. -/
def days (first last : Date) : Window := ⟨.startOf first, .endOf last⟩

/-- One whole day. -/
def day (d : Date) : Window := days d d

/-- The whole days between two dates, given in either order. -/
def between (a b : Date) : Window :=
  let (first, last) := Date.inOrder a b
  days first last

/-- A calendar month. There is none if the month or the first day after it does not exist. -/
def month? (year : Int) (month : Nat) : Option Window :=
  match Date.ofCivil? year month 1, Date.lastOfMonth? year month with
  | some first, some last => some (days first last)
  | _, _ => none

/-- A calendar year. -/
def year? (year : Int) : Option Window :=
  match Date.ofCivil? year 1 1, Date.ofCivil? year 12 31 with
  | some first, some last => some (days first last)
  | _, _ => none

/-- A window of days holds a moment only if it holds its date. -/
theorem days_holds_of {first last : Date} {m : Moment} (h : (days first last).holds m = true) :
    first ≤ m.date ∧ m.date ≤ last := by
  obtain ⟨hfirst, hlast⟩ := holds_iff.1 h
  exact ⟨Moment.startOf_le.1 hfirst, Moment.date_le hlast⟩

end Window

end AskLedger
