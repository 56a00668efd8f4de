import AskLedger.Calendar.Layout
import AskLedger.Decimal.Reading
import AskLedger.Ledger.Entry
import AskLedger.Pattern.Search
import AskLedger.Question.Period

/-!
# Dates in a message

A message may say which dates it is about. Five kinds of phrases are looked for, in this order, and
the first kind that is found counts:

1. a range: `from 1/3/2025 to 10/3/2025`;
2. a single day: `15/03/2025`, `1-4-25`, `2025-03-15`;
3. a month, with or without a year: `march 2025`, `mar`;
4. a year from 2024 to 2026 that is no part of a numeric date;
5. a relative period: `today`, `last month`, `last 30 days`.

A phrase stands for the entries that happened in its window; a month without a year stands for that
month in every year.
-/

namespace AskLedger

/-- The dates that a message is about. -/
inductive DatePhrase where
  /-- The days from `first` through `last`. -/
  | range (first last : Date)
  /-- A single day. -/
  | day (date : Date)
  /-- A month of a year. -/
  | monthOfYear (year : Int) (month : Nat)
  /-- A month of every year. -/
  | month (month : Nat)
  /-- A year. -/
  | year (year : Int)
  /-- A relative period with its window. -/
  | relative (period : Period) (window : Window)
  deriving DecidableEq, Repr

namespace DatePhrase

/-- The kind of a phrase. -/
def kind : DatePhrase → String
  | range .. => "range"
  | day _ => "explicit-date"
  | monthOfYear .. => "month-year"
  | month _ => "month"
  | year _ => "year"
  | relative .. => "relative"

/-- The window of a phrase; a month of every year has none. -/
def window? : DatePhrase → Option Window
  | range first last => some (.days first last)
  | day d => some (.day d)
  | monthOfYear y m => Window.month? y m
  | month _ => none
  | year y => Window.year? y
  | relative _ w => some w

/-- Whether a phrase stands for a moment. -/
def holds : DatePhrase → Moment → Bool
  | month m, at_ => at_.month == m
  | p, at_ => p.window?.any fun w => w.holds at_

/-- Whether a phrase stands for an entry. -/
def covers (p : DatePhrase) (e : Entry) : Bool :=
  p.holds e.date

/-! ## Numeric dates -/

/-- One or two digits. -/
def shortNumber : Pattern := .upToMore 1 .digit

/-- The mark between the parts of a numeric date. -/
def separator : Pattern := .one (.oneOf ['-', '/'])

/-- Four digits or two. -/
def yearDigits : Pattern := .either (.exactly 4 .digit) (.exactly 2 .digit)

/-- A day, a month and a year, remembered under 1, 2 and 3. -/
def numericDate : Pattern :=
  .whole (.inOrder
    [.capture 1 shortNumber, separator, .capture 2 shortNumber, separator, .capture 3 yearDigits])

/-- A year, a month and a day, remembered under 1, 2 and 3. -/
def isoDate : Pattern :=
  .whole (.inOrder
    [.capture 1 (.exactly 4 .digit), .one (.exactly '-'), .capture 2 shortNumber,
     .one (.exactly '-'), .capture 3 shortNumber])

/-- The number that ASCII digits stand for; digits of other scripts stand for none. -/
def number? (s : List Char) : Option Nat :=
  Decimal.natUpTo? 4294967295 s

/-- The date that a numeric date stands for; a year of two digits lies in the century from 2000. -/
def numericDateOf? (m : Match) : Option Date :=
  match number? (m.group 1), number? (m.group 2), number? (m.group 3) with
  | some d, some mo, some y =>
    -- the pattern allows two or four digits, so two mean a year of this century
    Date.ofCivil? (if (m.group 3).length = 2 then y + 2000 else y) mo d
  | _, _, _ => none

/-- The date that an ISO date stands for. -/
def isoDateOf? (m : Match) : Option Date :=
  match number? (m.group 1), number? (m.group 2), number? (m.group 3) with
  | some y, some mo, some d => Date.ofCivil? y mo d
  | _, _, _ => none

/-- The first numeric date of a text, if it exists. -/
def readNumericDate? (text : List Char) : Option Date :=
  (numericDate.find? (Text.trim text)).bind numericDateOf?

/-- The first ISO date of a text, if it exists. -/
def readIsoDate? (text : List Char) : Option Date :=
  (isoDate.find? (Text.trim text)).bind isoDateOf?

/-! ## Ranges -/

/-- A numeric date without its word boundaries. -/
def bareNumericDate : Pattern :=
  .inOrder [shortNumber, separator, shortNumber, separator, yearDigits]

/-- From one date to another, remembered under 1 and 2. -/
def fromTo : Pattern :=
  .whole (.phrase
    [.spelled "from", .capture 1 bareNumericDate, .oneOfWords ["to", "till", "until"],
     .capture 2 bareNumericDate])

/-- The two dates of a range, as they are written. -/
def endpoints? (text : List Char) : Option (Date × Date) :=
  match fromTo.find? text with
  | some m =>
    match readNumericDate? (m.group 1), readNumericDate? (m.group 2) with
    | some a, some b => some (a, b)
    | _, _ => none
  | none => none

/-- A range in a message. -/
def findRange? (text : List Char) : Option DatePhrase :=
  (endpoints? text).map fun (a, b) =>
    let (first, last) := Date.inOrder a b
    range first last

/-! ## Days -/

/-- The first date in a message that exists, numeric dates before ISO dates. -/
def findDay? (text : List Char) : Option DatePhrase :=
  -- a match that is no date of the calendar is passed over
  ((numericDate.all text).findSome? fun m => readNumericDate? m.text)
    |>.or ((isoDate.all text).findSome? fun m => readIsoDate? m.text)
    |>.map day

/-! ## Months -/

/-- A month in full or abbreviated. -/
def monthWord : Pattern :=
  .anyOf
    [.abbreviated "jan" "uary", .abbreviated "feb" "ruary", .abbreviated "mar" "ch",
     .abbreviated "apr" "il", .spelled "may", .abbreviated "jun" "e", .abbreviated "jul" "y",
     .abbreviated "aug" "ust",
     .both (.spelled "sep") (.optional (.abbreviated "t" "ember")),
     .abbreviated "oct" "ober", .abbreviated "nov" "ember", .abbreviated "dec" "ember"]

/-- A month, remembered under 1, and possibly a year, remembered under 2. -/
def monthAndYear : Pattern :=
  .inOrder
    [.whole (.capture 1 monthWord),
     .optional (.inOrder
      [.optional (.one (.exactly ',')), .many .blank, .capture 2 (.exactly 4 .digit), .edge])]

/-- The months by the first three letters of their names. -/
def monthsByLetters : List (String × Nat) :=
  [("jan", 1), ("feb", 2), ("mar", 3), ("apr", 4), ("may", 5), ("jun", 6), ("jul", 7), ("aug", 8),
   ("sep", 9), ("oct", 10), ("nov", 11), ("dec", 12)]

/-- The number of a month, by the first three letters of its name. -/
def monthNumber? (name : List Char) : Option Nat :=
  monthsByLetters.lookup (String.ofList ((Text.lower name).take 3))

/-- A month in a message, with its year if one follows. -/
def findMonth? (text : List Char) : Option DatePhrase :=
  match monthAndYear.find? text with
  | some m =>
    (monthNumber? (m.group 1)).map fun mo =>
      -- digits of another script are matched but stand for no year
      match number? (m.group 2) with
      | some y => monthOfYear y mo
      | none => month mo
  | none => none

/-! ## Years -/

/-- A year from 2024 to 2026, remembered under 1. -/
def yearWord : Pattern :=
  .whole (.capture 1 (.both (.spelled "202") (.one (.oneOf ['4', '5', '6']))))

/-- A text with every numeric date, and then every ISO date, replaced by a space. -/
def withoutDates (text : List Char) : List Char :=
  isoDate.replaceAll [' '] (numericDate.replaceAll [' '] text)

/-- A year in a message that is no part of a numeric date. -/
def bareYear? (text : List Char) : Option Int :=
  (yearWord.find? (withoutDates text)).bind fun m => (number? (m.group 1)).map Int.ofNat

/-- A year in a message. -/
def findYear? (text : List Char) : Option DatePhrase :=
  (bareYear? text).map year

/-! ## Relative periods -/

/-- The phrases for periods, in the order in which they are looked for. -/
def periodPhrases : List (Period × Pattern) :=
  let this_ := Pattern.oneOfWords ["this", "current"]
  let last := Pattern.oneOfWords ["last", "previous"]
  [(.today, .whole (.spelled "today")),
   (.yesterday, .whole (.spelled "yesterday")),
   (.thisMonth, .whole (.phrase [this_, .spelled "month"])),
   (.lastMonth, .whole (.phrase [last, .spelled "month"])),
   (.thisWeek, .whole (.phrase [this_, .spelled "week"])),
   (.lastWeek, .whole (.phrase [last, .spelled "week"])),
   (.thisYear, .whole (.phrase [this_, .spelled "year"])),
   (.lastYear, .whole (.phrase [last, .spelled "year"]))]

/-- The last so many days, their number being remembered under 1. -/
def lastDaysPhrase : Pattern :=
  .whole (.phrase
    [.oneOfWords ["last", "past", "previous"], .capture 1 (.upToMore 3 .digit), .plural "day"])

/-- The period that a message names. -/
def period? (text : List Char) : Option Period :=
  match periodPhrases.find? fun p => p.2.isIn text with
  | some (p, _) => some p
  | none =>
    (lastDaysPhrase.find? text).bind fun m => (number? (m.group 1)).map Period.lastDays

/-- A relative period in a message, seen from a moment. -/
def findRelative? (text : List Char) (now : Moment) : Option DatePhrase :=
  match period? text with
  | some p => (p.window? now).map (relative p)
  | none => none

/-! ## All kinds -/

/-- The dates that a message is about, seen from a moment. -/
def find? (text : List Char) (now : Moment) : Option DatePhrase :=
  (findRange? text)
    |>.or (findDay? text)
    |>.or (findMonth? text)
    |>.or (findYear? text)
    |>.or (findRelative? text now)

end DatePhrase

end AskLedger
