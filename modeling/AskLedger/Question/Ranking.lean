import AskLedger.Decimal.Reading
import AskLedger.Ledger.LongOrder
import AskLedger.Pattern.Search

/-!
# Ranking

A message may ask for the largest, the smallest or the latest entries, and for how many of them. The
entries are put in that order, those that compare equal staying as they are, and cut to that number.
An amount that is not a number compares equal to all others, and so it can be that nothing comes of
putting many entries in order.

* `Ranking.exists_perm_apply`: ranking takes the first of all the entries in some order.
* `Ranking.length_apply`: ranking keeps as many entries as it may.
-/

namespace AskLedger

/-- What entries are ranked by. -/
inductive RankKey where
  /-- The amount. -/
  | amount
  /-- The date. -/
  | date
  deriving DecidableEq, Repr

/-- Whether the key of `a` is below that of `b`. -/
def RankKey.isBelow (key : RankKey) (a b : Entry) : Bool :=
  match key with
  | .amount => decide (a.amount < b.amount)
  | .date => decide (a.date < b.date)

/-- Which end of a ranking comes first. -/
inductive RankOrder where
  /-- The smallest or earliest first. -/
  | ascending
  /-- The largest or latest first. -/
  | descending
  deriving DecidableEq, Repr

/-- A request for the first entries in some order. -/
structure Ranking where
  /-- What the entries are ranked by. -/
  key : RankKey
  /-- Which end comes first. -/
  order : RankOrder
  /-- How many entries are kept. -/
  limit : Nat
  deriving DecidableEq, Repr

namespace Ranking

/-- Words for the smallest amounts first. -/
def smallestWord : Pattern := .whole (.oneOfWords ["smallest", "lowest"])

/-- Words for the largest amounts first. -/
def biggestWord : Pattern := .whole (.oneOfWords ["top", "biggest", "largest", "highest"])

/-- Words for the latest dates first. -/
def latestWord : Pattern := .whole (.oneOfWords ["latest", "recent"])

/-- A word with a number, remembered under 1. If a unit of time follows, remembered under 2, the
phrase speaks of a period and not of a count. -/
def countPhrase : Pattern :=
  .inOrder
    [.edge, .oneOfWords ["top", "latest", "recent", "first", "last"], .gap,
     .capture 1 (.oneOrMore .digit),
     .optional (.capture 2 (.both .gap
       (.anyOf [.plural "day", .plural "week", .plural "month", .plural "year"]))),
     .edge]

/-- The key and the order that a message asks for. Small amounts go before large ones, and amounts
before dates. -/
def keyAndOrder? (text : List Char) : Option (RankKey × RankOrder) :=
  if smallestWord.isIn text then some (.amount, .ascending)
  else if biggestWord.isIn text then some (.amount, .descending)
  else if latestWord.isIn text then some (.date, .descending)
  else none

/-- The numbers of the count phrases of a message, as far as they can be read. -/
def counts (text : List Char) : List Nat :=
  (countPhrase.all text).filterMap fun m =>
    -- a number of days or weeks is no count of entries
    if m.has 2 then none else Decimal.natUpTo? Decimal.largestCount (m.group 1)

/-- How many entries a message asks for; zero asks for no number. -/
def limit? (text : List Char) : Option Nat :=
  match counts text with
  | n :: _ => if 0 < n then some n else none
  | [] => none

/-- The ranking that a message asks for. -/
def find? (text : List Char) (defaultLimit : Nat) : Option Ranking :=
  (keyAndOrder? text).map fun (key, order) => ⟨key, order, (limit? text).getD defaultLimit⟩

/-- Whether `a` goes strictly before `b`. -/
def precedes (r : Ranking) (a b : Entry) : Bool :=
  match r.order with
  | .ascending => r.key.isBelow a b
  | .descending => r.key.isBelow b a

/-- The first entries in the order of a ranking, if anything comes of putting them in order. -/
def ranked? (r : Ranking) (entries : List Entry) : Option (List Entry) :=
  (sorted? r.precedes entries).map (·.take r.limit)

/-- The first entries in the order of a ranking; the first ones as they stand if nothing comes of
putting them in order, but then there is no answer that has them. -/
def apply (r : Ranking) (entries : List Entry) : List Entry :=
  (r.ranked? entries).getD (entries.take r.limit)

variable {r : Ranking} {entries : List Entry}

/-- Whatever comes of putting the entries in order, the first of all of them are kept. -/
theorem exists_perm_apply (r : Ranking) (entries : List Entry) :
    ∃ full : List Entry, full.Perm entries ∧ r.apply entries = full.take r.limit := by
  unfold apply ranked?
  cases h : sorted? r.precedes entries with
  | none => exact ⟨entries, .refl entries, rfl⟩
  | some full => exact ⟨full, sorted?_perm h, rfl⟩

/-- Ranking invents nothing. -/
theorem mem_of_mem_apply {e : Entry} (h : e ∈ r.apply entries) : e ∈ entries := by
  obtain ⟨full, hperm, happly⟩ := exists_perm_apply r entries
  rw [happly] at h
  exact hperm.mem_iff.1 (List.mem_of_mem_take h)

/-- Ranking keeps as many entries as it may. -/
theorem length_apply (r : Ranking) (entries : List Entry) :
    (r.apply entries).length = min r.limit entries.length := by
  obtain ⟨full, hperm, happly⟩ := exists_perm_apply r entries
  rw [happly, List.length_take, hperm.length_eq]

/-- What comes of a ranking, if anything does. -/
theorem apply_of_ranked? {taken : List Entry} (h : r.ranked? entries = some taken) :
    r.apply entries = taken := by
  rw [apply, h, Option.getD_some]

/-- A ranking of few entries is put in order by insertion. -/
theorem ranked?_of_length_le (h : entries.length ≤ 20) :
    r.ranked? entries = some ((sorted r.precedes entries).take r.limit) := by
  rw [ranked?, sorted?, if_pos h, Option.map_some]

end Ranking

end AskLedger
