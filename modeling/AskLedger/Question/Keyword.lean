import AskLedger.Ledger.Entry
import AskLedger.Text.Find

/-!
# Keywords

Where a message names no dates, its words are looked for in the descriptions and labels of the
entries. Words of one or two letters do not count, nor do some words that say nothing.

* `Keyword.occurIn_append`: keywords occur if some of them do.
-/

namespace AskLedger.Keyword

/-- Words that say nothing. -/
def idleWords : List String :=
  ["how", "much", "did", "spent", "the", "what", "show", "me", "my", "all", "on", "in", "can",
   "you", "give", "only", "and", "for"]

/-- Whether a word in lowercase counts. -/
def counts (word : List Char) : Bool :=
  2 < word.length && !idleWords.contains (String.ofList word)

/-- The words of a message that count, in lowercase. -/
def ofMessage (text : List Char) : List (List Char) :=
  ((Text.words text).map Text.lower).filter counts

/-- Whether one of the keywords occurs in the description or the label of an entry. -/
def occurIn (keywords : List (List Char)) (e : Entry) : Bool :=
  let description := Text.lower e.description.toList
  let category := Text.lower e.category.toList
  keywords.any fun k => Text.occursIn k description || Text.occursIn k category

/-- Keywords occur if some of them do. -/
theorem occurIn_append (a b : List (List Char)) (e : Entry) :
    occurIn (a ++ b) e = (occurIn a e || occurIn b e) := by
  simp [occurIn]

end AskLedger.Keyword
