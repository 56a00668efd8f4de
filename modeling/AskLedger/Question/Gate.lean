import AskLedger.Ledger.Category
import AskLedger.Question.DatePhrase

/-!
# Whether a message concerns the ledger

A message concerns the ledger if it contains a word about money, dates, months or ranking, a year or
a numeric date, the rupee sign, or a word of some category. The words are chosen so that too many
messages pass rather than too few: a message let through in vain only costs a search that finds
nothing.
-/

namespace AskLedger.Gate

/-- Words about money in exactly this form. -/
def moneyWords : List String :=
  ["spend", "spent", "spending", "income", "salary", "paid", "pay", "money", "inr", "amount",
   "budget", "bought", "cost", "earned", "earnings", "balance", "recurring", "savings", "credit",
   "debit"]

/-- Words about money with or without a plural `s`. -/
def countedMoneyWords : List String :=
  ["transaction", "expense", "payment", "bill", "rupee", "purchase", "account", "subscription",
   "refund", "transfer"]

/-- The abbreviation of rupees, with or without its point. -/
def rupeeMark : Pattern := .both (.spelled "rs") (.optional (.one (.exactly '.')))

/-- Words about dates. -/
def dateWords : List String :=
  ["today", "yesterday", "week", "weeks", "month", "months", "year", "years", "days", "daily",
   "weekly", "monthly", "yearly", "recent", "latest"]

/-- Words that ask for something or rank it. -/
def askingWords : List String :=
  ["show", "list", "how much", "what", "total", "top", "biggest", "largest", "highest", "smallest",
   "lowest"]

/-- A numeric date, whether or not there is such a day; its year has two to four digits. -/
def looseDate : Pattern :=
  .inOrder
    [DatePhrase.shortNumber, DatePhrase.separator, DatePhrase.shortNumber, DatePhrase.separator,
     .one .digit, .upToMore 2 .digit]

/-- What makes a message concern the ledger, apart from categories. -/
def signs : List Pattern :=
  [.whole (.anyOf
     (moneyWords.map .spelled ++ countedMoneyWords.map .plural ++ [rupeeMark])),
   .spelled "₹",
   .whole (.oneOfWords dateWords),
   .whole DatePhrase.monthWord,
   DatePhrase.yearWord,
   .whole looseDate,
   .whole (.oneOfWords askingWords)]

/-- Whether a message concerns the ledger. -/
def admits (text : List Char) : Bool :=
  (signs.any fun p => p.isIn text) || Category.anyIn text

end AskLedger.Gate
