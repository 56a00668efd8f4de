import AskLedger.Ledger.Entry
import AskLedger.Pattern.Search

/-!
# Categories

A fixed list of spending categories, each with the words that stand for it. A text mentions a
category if one of its words occurs in it as a whole word, in any case. Where a text mentions
several categories, the one that comes first in the list counts.

* `Category.anyIn_eq_isSome`: a text mentions a category exactly if a first one is found.
-/

namespace AskLedger

/-- What money is spent on. -/
inductive Category where
  /-- Rent and upkeep. -/
  | housing
  /-- Meals and groceries. -/
  | food
  /-- Getting around. -/
  | transport
  /-- Films, music and games. -/
  | entertainment
  /-- Clothes and goods. -/
  | shopping
  /-- Power, water and connections. -/
  | utilities
  /-- Schools and books. -/
  | education
  /-- Medicine and fitness. -/
  | health
  /-- Journeys and stays. -/
  | travel
  deriving DecidableEq, Repr

namespace Category

/-- All categories, in the order in which they are looked for. -/
def all : List Category :=
  [housing, food, transport, entertainment, shopping, utilities, education, health, travel]

/-- The name of a category. -/
def name : Category → String
  | housing => "housing"
  | food => "food"
  | transport => "transport"
  | entertainment => "entertainment"
  | shopping => "shopping"
  | utilities => "utilities"
  | education => "education"
  | health => "health"
  | travel => "travel"

/-- The words that stand for a category in exactly this form. -/
def words : Category → List String
  | housing => ["housing", "house", "home", "rent", "mortgage", "apartment", "flat", "maintenance"]
  | food =>
    ["food", "groceries", "grocery", "dining", "lunch", "dinner", "breakfast", "swiggy", "zomato",
     "cafe"]
  | transport =>
    ["transport", "transportation", "commute", "uber", "ola", "rapido", "taxi", "cab", "fuel",
     "petrol", "diesel", "metro", "bus", "train"]
  | entertainment =>
    ["entertainment", "cinema", "netflix", "spotify", "prime video", "hotstar", "gaming"]
  | shopping =>
    ["shopping", "amazon", "flipkart", "myntra", "clothes", "clothing", "shoes", "mall"]
  | utilities =>
    ["utilities", "utility", "electricity", "water bill", "gas bill", "internet", "wifi",
     "broadband", "mobile recharge", "phone bill", "recharge"]
  | education => ["education", "school", "college", "tuition", "course", "courses"]
  | health =>
    ["health", "healthcare", "medical", "medicine", "doctor", "hospital", "pharmacy", "clinic",
     "insurance", "gym", "fitness"]
  | travel => ["travel", "trip", "vacation", "holiday", "tour", "airbnb"]

/-- The words that stand for a category with or without a plural `s`. -/
def countedWords : Category → List String
  | food => ["restaurant", "snack"]
  | entertainment => ["movie", "concert", "game"]
  | education => ["book", "exam fee"]
  | travel => ["flight", "hotel"]
  | housing | transport | shopping | utilities | health => []

/-- A mention of a category: one of its words between word boundaries. -/
def mention (c : Category) : Pattern :=
  .whole (.anyOf (c.words.map .spelled ++ c.countedWords.map .plural))

/-- Whether a text mentions a category. -/
def isIn (c : Category) (text : List Char) : Bool :=
  c.mention.isIn text

/-- The first category that a text mentions. -/
def ofText? (text : List Char) : Option Category :=
  all.find? fun c => c.isIn text

/-- Whether a text mentions a category at all. -/
def anyIn (text : List Char) : Bool :=
  all.any fun c => c.isIn text

/-- Whether the label or the description of an entry mentions a category. -/
def covers (c : Category) (e : Entry) : Bool :=
  c.isIn e.category.toList || c.isIn e.description.toList

/-- A text mentions a category exactly if there is a first one that it mentions. -/
theorem anyIn_eq_isSome (text : List Char) : anyIn text = (ofText? text).isSome := by
  rw [anyIn, ofText?, Bool.eq_iff_iff, List.find?_isSome, List.any_eq_true]

end Category

end AskLedger
