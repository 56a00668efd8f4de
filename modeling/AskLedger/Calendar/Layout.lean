import AskLedger.Calendar.Moment
import AskLedger.Text.Blank

/-!
# Reading dates and moments

A layout is a list of parts that a text has to consist of: numbers for the fields of a date and a
time, marks, and blanks. Numbers may follow blanks. A year has one to four digits, or a sign and any
number of digits; every other field has one or two digits. A fraction of a second may be absent; if
its point is there, a digit follows, and digits beyond the ninth are dropped.

`Moment.read?` reads the timestamps that rows carry and `Moment.readLocal?` the ones that stand for
the present.
-/

namespace AskLedger

/-- A field of a date or a time. -/
inductive Field where
  /-- The year. -/
  | year
  /-- The month. -/
  | month
  /-- The day of the month. -/
  | day
  /-- The hour. -/
  | hour
  /-- The minute. -/
  | minute
  /-- The second. -/
  | second
  deriving DecidableEq, Repr

/-- A part of a layout. -/
inductive LayoutPart where
  /-- A number, possibly after blanks. -/
  | field (f : Field)
  /-- This character. -/
  | mark (c : Char)
  /-- Any stretch of blanks, possibly empty. -/
  | blanks
  /-- An optional point with the digits of a fraction of a second. -/
  | fraction
  deriving DecidableEq, Repr

/-- What has been read of a date and a time. -/
structure Reading where
  /-- The year. -/
  year : Int := 0
  /-- The month. -/
  month : Nat := 0
  /-- The day of the month. -/
  day : Nat := 0
  /-- The hour. -/
  hour : Nat := 0
  /-- The minute. -/
  minute : Nat := 0
  /-- The second. -/
  second : Nat := 0
  /-- The nanosecond. -/
  nano : Nat := 0
  deriving DecidableEq, Repr

namespace Layout

/-- The value of a list of ASCII digits. -/
def digitsValue (ds : List Char) : Nat :=
  ds.foldl (fun n c => n * 10 + (c.toNat - 48)) 0

/-- The digits at the front of a text, at most `limit` of them if there is a limit, and the rest of
the text; none if the text starts with no digit. -/
def leadingNumber? (limit : Option Nat) (s : List Char) : Option (Nat × List Char) :=
  let run := s.takeWhile Char.isDigit
  let ds := match limit with
    | some n => run.take n
    | none => run
  if ds.isEmpty then none else some (digitsValue ds, s.drop ds.length)

/-- A year at the front of a text. -/
def leadingYear? (s : List Char) : Option (Int × List Char) :=
  match s with
  | '-' :: rest => (leadingNumber? none rest).map fun (n, rest) => (-(n : Int), rest)
  | '+' :: rest => (leadingNumber? none rest).map fun (n, rest) => ((n : Int), rest)
  | _ => (leadingNumber? (some 4) s).map fun (n, rest) => ((n : Int), rest)

/-- The nanoseconds that the digits of a fraction stand for. -/
def fractionValue (ds : List Char) : Nat :=
  -- digits beyond the nanosecond are dropped, missing ones are zeros
  let ds := ds.take 9
  digitsValue ds * Nat.pow 10 (9 - ds.length)

/-- Stores a field. -/
def put (r : Reading) (n : Nat) : Field → Reading
  | .year => { r with year := n }
  | .month => { r with month := n }
  | .day => { r with day := n }
  | .hour => { r with hour := n }
  | .minute => { r with minute := n }
  | .second => { r with second := n }

/-- Reads one part from the front of a text. -/
def readPart? (part : LayoutPart) (r : Reading) (s : List Char) : Option (Reading × List Char) :=
  match part with
  | .field .year =>
    (leadingYear? (Text.trimStart s)).map fun (y, rest) => ({ r with year := y }, rest)
  | .field f =>
    (leadingNumber? (some 2) (Text.trimStart s)).map fun (n, rest) => (put r n f, rest)
  | .mark c =>
    match s with
    | x :: rest => if x = c then some (r, rest) else none
    | [] => none
  | .blanks => some (r, Text.trimStart s)
  | .fraction =>
    match s with
    | '.' :: rest =>
      let ds := rest.takeWhile Char.isDigit
      if ds.isEmpty then none
      else some ({ r with nano := fractionValue ds }, rest.dropWhile Char.isDigit)
    | _ => some (r, s)

/-- Reads a text that consists of the parts of a layout and nothing else. -/
def read? : List LayoutPart → Reading → List Char → Option Reading
  | [], r, [] => some r
  | [], _, _ :: _ => none
  | part :: parts, r, s =>
    match readPart? part r s with
    | some (r, rest) => read? parts r rest
    | none => none

/-- `YYYY-MM-DD`. -/
def date : List LayoutPart :=
  [.field .year, .mark '-', .field .month, .mark '-', .field .day]

/-- `HH:MM`. -/
def hourMinute : List LayoutPart :=
  [.field .hour, .mark ':', .field .minute]

/-- `HH:MM:SS`. -/
def wholeSecond : List LayoutPart :=
  hourMinute ++ [.mark ':', .field .second]

/-- `HH:MM:SS` with an optional fraction. -/
def anySecond : List LayoutPart :=
  wholeSecond ++ [.fraction]

end Layout

/-- The moment that a reading stands for, if the date and the time exist. -/
def Reading.moment? (r : Reading) : Option Moment :=
  match Date.ofCivil? r.year r.month r.day with
  | some d => Moment.at? d r.hour r.minute r.second r.nano
  | none => none

namespace Moment

/-- Reads a moment written in one layout. -/
def readAs? (layout : List LayoutPart) (s : List Char) : Option Moment :=
  match Layout.read? layout {} s with
  | some r => r.moment?
  | none => none

/-- The layouts of a timestamp, in the order in which they are tried. -/
def layouts : List (List LayoutPart) :=
  [Layout.date ++ .mark 'T' :: Layout.anySecond,
   Layout.date ++ .blanks :: Layout.anySecond,
   Layout.date ++ .mark 'T' :: Layout.hourMinute,
   Layout.date ++ .blanks :: Layout.hourMinute,
   Layout.date]

/-- Reads a timestamp: a date, or a date and a time joined by `T` or blanks, the seconds and their
fraction being optional. Outer blanks and then the letters `Z` at the end are ignored. -/
def read? (s : List Char) : Option Moment :=
  let body := ((Text.trim s).reverse.dropWhile (· == 'Z')).reverse
  layouts.findSome? (readAs? · body)

/-- The layouts of a local time, in the order in which they are tried. -/
def localLayouts : List (List LayoutPart) :=
  [Layout.date ++ .blanks :: Layout.hourMinute,
   Layout.date ++ .blanks :: Layout.wholeSecond,
   Layout.date]

/-- Reads a local time: a date, optionally followed by blanks and a time to the minute or second.
Outer blanks are ignored. -/
def readLocal? (s : List Char) : Option Moment :=
  localLayouts.findSome? (readAs? · (Text.trim s))

end Moment

end AskLedger
