import AskLedger.Ledger.Order
import AskLedger.Ledger.Summary
import AskLedger.Question.Filter
import AskLedger.Question.Gate
import AskLedger.Question.Keyword
import AskLedger.Question.Ranking

/-!
# Answering a question

A message that concerns the ledger is answered in steps:

1. the entries of its dates are taken or, if it names none, those in which one of its keywords
   occurs;
2. the filters whose phrases it contains narrow them;
3. if nothing is left and the message says `show`, `list` or `all`, the newest entries are taken;
4. if it asks for a ranking, the entries are ranked;
5. what is left is summed up.

A message that matches nothing is answered by saying so. Only a ranking of which nothing comes
leaves a message without any answer.

* `Question.mem_of_mem_shortlist`: an answer lists only entries of the ledger.
* `Question.answer_of_answer?`: what the answer is, if there is one.
-/

namespace AskLedger

/-- How many entries are shown and taken, and where filters start when none are left. -/
structure AnswerOptions where
  /-- How many rows are shown in detail. -/
  shownRows : Nat := 15
  /-- How many of the newest entries are taken when nothing else is left. -/
  newestRows : Nat := 10
  /-- How many entries a ranking keeps when the message gives no number. -/
  rankedRows : Nat := 10
  /-- Where filters start when no entries are left. -/
  rescue : Rescue := .fromLedger
  deriving DecidableEq, Repr

/-- What a message picks from a ledger. -/
structure Shortlist where
  /-- The entries that are left. -/
  entries : List Entry
  /-- Whether the message asks for nothing but a year. -/
  yearOnly : Bool
  /-- The dates that the message is about. -/
  dates? : Option DatePhrase
  /-- The ranking that it asks for. -/
  ranking? : Option Ranking
  /-- Its keywords, if they were looked for. -/
  keywords? : Option (List (List Char))

/-- The answer to a message. -/
inductive Answer where
  /-- The message does not concern the ledger. -/
  | notAboutLedger
  /-- No entry matches. -/
  | nothingFound
  /-- Entries match. -/
  | found (payload : Payload) (summary : Summary)

/-- A message with everything that decides its answer. -/
structure Question where
  /-- The message. -/
  text : List Char
  /-- All entries. -/
  ledger : List Entry
  /-- The present. -/
  now : Moment
  /-- How the answer is cut. -/
  options : AnswerOptions := {}

namespace Question

/-- Words that ask for entries whatever they are. -/
def showWord : Pattern := .whole (.oneOfWords ["show", "list", "all"])

/-- The dates that the message is about. -/
def dates? (q : Question) : Option DatePhrase := DatePhrase.find? q.text q.now

/-- What the entries have to satisfy before any filter: their dates or, if the message names none,
its keywords. -/
def base (q : Question) : Entry.Test :=
  match q.dates? with
  | some p => p.covers
  | none => Keyword.occurIn (Keyword.ofMessage q.text)

/-- The entries before any filter. -/
def candidates (q : Question) : List Entry :=
  q.ledger.filter q.base

/-- The entries that the filters leave. -/
def narrowed (q : Question) : List Entry :=
  Filter.narrowBy Filter.all q.options.rescue q.ledger q.text q.now q.candidates

/-- The ranking that the message asks for. -/
def ranking? (q : Question) : Option Ranking :=
  Ranking.find? q.text q.options.rankedRows

/-- Whether the newest entries are taken because nothing else is left. -/
def fallsBack (q : Question) : Bool :=
  q.narrowed.isEmpty && showWord.isIn q.text

/-- The entries before any ranking. -/
def unranked (q : Question) : List Entry :=
  if q.fallsBack then Entry.newest q.options.newestRows q.ledger else q.narrowed

/-- The entries that are ranked; a ranking of nothing may start over as well. -/
def pool (q : Question) : List Entry :=
  q.options.rescue.input q.ledger q.unranked

/-- Whether the entries can be put in the order that the message asks for, if it asks for one. -/
def isRanked (q : Question) : Bool :=
  match q.ranking? with
  | some r => (r.ranked? q.pool).isSome
  | none => true

/-- Whether the message asks for a year and for nothing more. -/
def yearOnly (q : Question) : Bool :=
  (match q.dates? with | some (.year _) => true | _ => false)
    && !Category.anyIn q.text && !q.fallsBack && q.ranking?.isNone

/-- What the message picks from the ledger, provided that the entries can be put in order. -/
def shortlist (q : Question) : Shortlist where
  entries :=
    match q.ranking? with
    | some r => r.apply q.pool
    | none => q.unranked
  yearOnly := q.yearOnly
  dates? := q.dates?
  ranking? := q.ranking?
  keywords? := if q.dates?.isSome then none else some (Keyword.ofMessage q.text)

/-- What is said about a shortlist. -/
def report (q : Question) (s : Shortlist) : Answer :=
  if s.entries.isEmpty then .nothingFound
  else
    let year? := if s.yearOnly then DatePhrase.bareYear? q.text else none
    .found (Payload.shape s.entries year? q.options.shownRows) (Summary.of s.entries)

/-- The answer to the message, provided that the entries can be put in order. -/
def answer (q : Question) : Answer :=
  if Gate.admits q.text then q.report q.shortlist else .notAboutLedger

/-- What the message picks from the ledger; nothing at all if the entries cannot be put in order. -/
def shortlist? (q : Question) : Option Shortlist :=
  if q.isRanked then some q.shortlist else none

/-- The answer to the message. There is none if the message concerns the ledger but the entries
cannot be put in order. -/
def answer? (q : Question) : Option Answer :=
  if Gate.admits q.text then q.shortlist?.map q.report else some .notAboutLedger

/-- There is no answer only where an admitted question cannot be ranked. -/
theorem answer?_eq (q : Question) :
    q.answer? = if Gate.admits q.text && !q.isRanked then none else some q.answer := by
  unfold answer? shortlist? answer
  cases Gate.admits q.text <;> cases q.isRanked <;> rfl

/-- There is no answer exactly if the message concerns the ledger and asks for a ranking of which
nothing comes. -/
theorem answer?_eq_none_iff {q : Question} :
    q.answer? = none ↔ Gate.admits q.text = true ∧ q.isRanked = false := by
  simp [answer?_eq]

theorem answer?_of_isRanked {q : Question} (h : q.isRanked = true) : q.answer? = some q.answer := by
  simp [answer?_eq, h]

end Question

end AskLedger
