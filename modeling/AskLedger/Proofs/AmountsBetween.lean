import AskLedger.Proofs.MessagePhrases
import AskLedger.Proofs.Numerals
import AskLedger.Proofs.StableOrder

/-!
# Expenses between two amounts

A message `expenses between ₹a and ₹b` contains the phrases of two filters, one for the range of
amounts and one for expenses. It names no dates unless one of the amounts is also a year; without
dates its words are keywords. The filters narrow what the year or the keywords select, or the whole
ledger if they select nothing.

* `Question.between?_betweenText`: the range that such a message states.
* `Question.expenses_between`: which entries it picks.
-/

namespace AskLedger

open Decimal (numeral)

/-! ## Prices -/

namespace AmountPhrase

/-- A price is read as its currency mark and its number, if neither what follows the price can be
read earlier nor the number is continued. -/
theorem reaches_price {mark slot n : Nat} {q : Pattern} {before rest : List Char}
    {captures : List Capture} (hrest : ∀ c ∈ rest.head?, Text.isDigit c = false ∧ c ≠ ',')
    (hpoint : '.' ∉ rest)
    (hinside : ∀ a c b captures, numeral n = a ++ c :: b → a ≠ [] →
      q.reaches ⟨⟨a.reverse ++ '₹' :: before, c :: (b ++ rest)⟩, captures⟩ = []) :
    (Pattern.both (currency mark) (.both (number slot) q)).reaches
        ⟨⟨before, '₹' :: (numeral n ++ rest)⟩, captures⟩ =
      q.reaches ⟨⟨(numeral n).reverse ++ '₹' :: before, rest⟩,
        ⟨slot, before.length + 1, numeral n⟩ :: ⟨mark, before.length, ['₹']⟩ :: captures⟩ := by
  have hrupee : Text.isDigit '₹' = false := by decide +kernel
  have hnumber : (number slot).cannotStart '₹' = true := by
    simp [number, Pattern.cannotStart, Pattern.inOrder, Pattern.takesSome, Pattern.headIsNot,
      CharKind.accepts, hrupee]
  -- a number does not start with the mark, so the mark has to be read
  have hwithout : (Pattern.both (number slot) q).reaches
      ⟨⟨before, '₹' :: (numeral n ++ rest)⟩, captures⟩ = [] :=
    Pattern.reaches_both_of_nil (Pattern.reaches_eq_nil_of_cannotStart hnumber)
  have hmark : (Pattern.both
      (.capture mark (.anyOf
        [.spelled "₹", .both (.spelled "rs") (.optional (.one (.exactly '.'))), .spelled "inr"]))
      (.many .blank)).reaches ⟨⟨before, '₹' :: (numeral n ++ rest)⟩, captures⟩ =
        [⟨⟨'₹' :: before, numeral n ++ rest⟩, ⟨mark, before.length, ['₹']⟩ :: captures⟩] := by
    obtain ⟨c, s, hs⟩ := List.exists_cons_of_ne_nil (Decimal.numeral_ne_nil n)
    have hc : Text.isBlank c = false := Text.isBlank_of_mem_numeral c (by rw [hs]; simp)
    have hrupee : (Pattern.anyOf [.spelled "₹",
        .both (.spelled "rs") (.optional (.one (.exactly '.'))), .spelled "inr"]).reaches
          ⟨⟨before, '₹' :: c :: (s ++ rest)⟩, captures⟩ =
        [⟨⟨'₹' :: before, c :: (s ++ rest)⟩, captures⟩] := rfl
    rw [hs, List.cons_append, Pattern.reaches, Pattern.reaches, hrupee]
    simp [Pattern.reaches, Pattern.runFrom, CharKind.accepts, hc, Place.upTo, Place.offset]
  rw [currency, Pattern.reaches_optional_both_of_follower_nil hwithout,
    Pattern.reaches_both_of_singleton hmark, number,
    Pattern.reaches_capture_both (readsWhole_number hrest hpoint) hinside]
  rfl

end AmountPhrase

namespace Question

/-! ## The message -/

/-- The message that asks for expenses between two amounts. -/
def betweenText (a b : Nat) : List Char :=
  ("expenses between ₹" ++ toString a ++ " and ₹" ++ toString b).toList

/-- The characters of such messages. -/
def betweenChars : List Char := "expenses between ₹and0123456789".toList

variable {a b : Nat}

theorem betweenText_eq (a b : Nat) : betweenText a b =
    "expenses between ₹".toList ++ (numeral a ++ (" and ₹".toList ++ (numeral b ++ []))) := by
  simp only [betweenText, String.toList_append, Decimal.numeral_eq_toString, List.append_assoc,
    List.append_nil]

/-- The message has few characters. -/
theorem mem_betweenChars : ∀ c ∈ betweenText a b, c ∈ betweenChars := by
  have hdigits : ∀ n, ∀ c ∈ numeral n, c ∈ betweenChars := Decimal.forall_mem_numeral (by decide)
  have hfront : ∀ c ∈ "expenses between ₹".toList, c ∈ betweenChars :=
    Text.forall_of_all (by decide)
  have hmiddle : ∀ c ∈ " and ₹".toList, c ∈ betweenChars := Text.forall_of_all (by decide)
  rw [betweenText_eq, List.append_nil]
  simp only [List.forall_mem_append]
  exact ⟨hfront, hdigits a, hmiddle, hdigits b⟩

/-- A pattern that cannot read the characters of such messages is in none of them. -/
theorem absent_betweenText {p : Pattern} (h : p.cannotRead betweenChars = true) :
    p.IsAbsent (betweenText a b) :=
  Pattern.isAbsent_of_cannotRead h mem_betweenChars

/-- The letters of `sep` are in it, but not one behind the other. -/
theorem sep_absent_betweenText : (Pattern.spelled "sep").IsAbsent (betweenText a b) := by
  have htext : betweenText a b = "e".toList ++ 'x' :: ("pe".toList ++ 'n' ::
      ("ses betwee".toList ++ 'n' :: ((" ₹".toList ++ (numeral a ++ " a".toList)) ++ 'n' ::
      ("d ₹".toList ++ numeral b)))) := by
    simp [betweenText_eq]
  -- between the letters that `sep` lacks, one of its own letters is missing as well
  have hshort : (Pattern.spelled "sep").cannotRead "ad ₹0123456789".toList = true := by
    decide
  have hdigits : ∀ n, ∀ c ∈ numeral n, c ∈ "ad ₹0123456789".toList :=
    Decimal.forall_mem_numeral (by decide)
  have hmiddle : ∀ c ∈ " ₹".toList ++ (numeral a ++ " a".toList), c ∈ "ad ₹0123456789".toList := by
    simp only [List.forall_mem_append]
    exact ⟨Text.forall_of_all (by decide), hdigits a, Text.forall_of_all (by decide)⟩
  have hlast : ∀ c ∈ "d ₹".toList ++ numeral b, c ∈ "ad ₹0123456789".toList :=
    List.forall_mem_append.2 ⟨Text.forall_of_all (by decide), hdigits b⟩
  rw [htext]
  refine Pattern.isAbsent_append_cons (by decide) ?_
    (Pattern.isAbsent_append_cons (by decide) ?_
    (Pattern.isAbsent_append_cons (by decide) ?_
    (Pattern.isAbsent_append_cons (by decide) ?_ ?_)))
  · exact Pattern.isAbsent_of_cannotRead (by decide) fun _ hc => hc
  · exact Pattern.isAbsent_of_cannotRead (by decide) fun _ hc => hc
  · exact Pattern.isAbsent_of_cannotRead (by decide) fun _ hc => hc
  · exact Pattern.isAbsent_of_cannotRead hshort hmiddle
  · exact Pattern.isAbsent_of_cannotRead hshort hlast

/-- No phrase for dates is in it, though one of its numbers may be a year. -/
theorem dates_absent_betweenText : ∀ p ∈ DatePhrase.phrases, p.IsAbsent (betweenText a b) := by
  have hcannot : ∀ p ∈ DatePhrase.phrases,
      p = DatePhrase.monthAndYear ∨ p.cannotRead betweenChars = true := by decide +kernel
  intro p hp
  rcases hcannot p hp with rfl | hcannot
  · -- of all names of months only `sep` has no letter that the message lacks
    have hsep : (Pattern.both (.spelled "sep") (.optional (.abbreviated "t" "ember"))).IsAbsent
        (betweenText a b) := sep_absent_betweenText.both_left
    have hword : DatePhrase.monthWord.IsAbsent (betweenText a b) :=
      Pattern.isAbsent_anyOf (by decide) hsep mem_betweenChars
    exact hword.whole.both_left
  · exact absent_betweenText hcannot

/-- The words of the message but `and` are its keywords, amounts of one digit excepted. -/
def betweenKeywords (a b : Nat) : List (List Char) :=
  ["expenses".toList, "between".toList] ++
    (if 10 ≤ a then [("₹" ++ toString a).toList] else []) ++
    (if 10 ≤ b then [("₹" ++ toString b).toList] else [])

/-- An amount with its currency mark counts as a keyword from ten on. -/
theorem counts_price (n : Nat) : Keyword.counts ('₹' :: numeral n) = decide (10 ≤ n) := by
  have hidle : ∀ idle ∈ Keyword.idleWords, '₹' ∉ idle.toList := by decide
  rw [Keyword.counts_eq_of_mem List.mem_cons_self hidle, decide_eq_decide, List.length_cons,
    ← Decimal.one_lt_length_numeral]
  omega

theorem toList_price (n : Nat) : ("₹" ++ toString n).toList = '₹' :: numeral n := by
  rw [String.toList_append, Decimal.numeral_eq_toString]
  rfl

/-- An amount with its currency mark has no blanks and is in lowercase. -/
theorem price_chars (n : Nat) :
    ∀ c ∈ '₹' :: numeral n, Text.isBlank c = false ∧ Text.isLowered c = true := by
  have hrupee : Text.isBlank '₹' = false ∧ Text.isLowered '₹' = true := by decide
  exact List.forall_mem_cons.2 ⟨hrupee, fun c hc =>
    ⟨Text.isBlank_of_mem_numeral c hc, Text.isLowered_of_mem_numeral c hc⟩⟩

theorem words_betweenText (a b : Nat) : Text.words (betweenText a b) =
    ["expenses".toList, "between".toList, '₹' :: numeral a, "and".toList, '₹' :: numeral b] := by
  have htext : betweenText a b = "expenses".toList ++ ' ' :: ("between".toList ++ ' ' ::
      (('₹' :: numeral a) ++ ' ' :: ("and".toList ++ ' ' :: '₹' :: numeral b))) := by
    simp [betweenText_eq]
  rw [htext, Text.words_append (by decide) (Text.forall_of_all (by decide)),
    Text.words_append (by decide) (Text.forall_of_all (by decide)),
    Text.words_append (List.cons_ne_nil _ _) fun c hc => (price_chars a c hc).1,
    Text.words_append (by decide) (Text.forall_of_all (by decide)),
    Text.words_eq_singleton (List.cons_ne_nil _ _) fun c hc => (price_chars b c hc).1]

theorem keywords_betweenText (a b : Nat) :
    Keyword.ofMessage (betweenText a b) = betweenKeywords a b := by
  have hexpenses : Text.lower "expenses".toList = "expenses".toList ∧
      Keyword.counts "expenses".toList = true := by decide
  have hbetween : Text.lower "between".toList = "between".toList ∧
      Keyword.counts "between".toList = true := by decide
  have hand : Text.lower "and".toList = "and".toList ∧ Keyword.counts "and".toList = false := by
    decide
  have hprice : ∀ n, Text.lower ('₹' :: numeral n) = '₹' :: numeral n :=
    fun n => Text.lower_eq_self fun c hc => (price_chars n c hc).2
  rw [Keyword.ofMessage, words_betweenText, betweenKeywords, toList_price, toList_price]
  simp only [List.map_cons, List.map_nil, hexpenses, hbetween, hand, hprice, List.filter_cons,
    List.filter_nil, counts_price, decide_eq_true_eq, if_true, Bool.false_eq_true, if_false]
  split <;> rfl

/-- What the message is about before any filter: one of the numbers as a year, the first before the
second, or otherwise its keywords. -/
def betweenBase (a b : Nat) : Entry.Test :=
  if 2024 ≤ a ∧ a ≤ 2026 then (DatePhrase.year a).covers
  else if 2024 ≤ b ∧ b ≤ 2026 then (DatePhrase.year b).covers
  else Keyword.occurIn (betweenKeywords a b)

/-- The first of the two amounts that is one of the years is captured as the year. -/
theorem yearGroup_betweenText (a b : Nat) :
    (DatePhrase.yearWord.find? (betweenText a b)).map (·.group 1) =
      if 2024 ≤ a ∧ a ≤ 2026 then some (numeral a)
      else if 2024 ≤ b ∧ b ≤ 2026 then some (numeral b) else none := by
  have hrupee : ∀ before, ('₹' :: before).head?.any Text.isWordChar = false := by
    have hmark : Text.isWordChar '₹' = false := by decide +kernel
    simp [hmark]
  have hfront : ∀ c ∈ "expenses between ₹".toList, DatePhrase.yearWord.cannotStart c = true :=
    Text.forall_of_all (by decide)
  have hmiddle : ∀ c ∈ " and ₹".toList, DatePhrase.yearWord.cannotStart c = true :=
    Text.forall_of_all (by decide)
  -- the search stops at the first number if it is a year, and passes over it otherwise
  rw [Pattern.find?, betweenText_eq, Pattern.findFrom?_append_of_cannotStart _ _ hfront]
  split
  · next ha => exact DatePhrase.findFrom?_yearWord_of_year (hrupee _) rfl ha
  · next ha =>
    rw [DatePhrase.findFrom?_yearWord_numeral rfl ha,
      Pattern.findFrom?_append_of_cannotStart _ _ hmiddle]
    split
    · next hb => exact DatePhrase.findFrom?_yearWord_of_year (hrupee _) rfl hb
    · next hb =>
      rw [DatePhrase.findFrom?_yearWord_numeral rfl hb, Pattern.findFrom?,
        Pattern.matchAt?_eq_none (Pattern.reaches_eq_nil_of_takesSome rfl)]
      rfl

/-- A year is all that the message can be about. -/
theorem dates_betweenText (a b : Nat) (now : Moment) :
    DatePhrase.find? (betweenText a b) now =
      if 2024 ≤ a ∧ a ≤ 2026 then some (.year a)
      else if 2024 ≤ b ∧ b ≤ 2026 then some (.year b) else none := by
  have hnumber : ∀ n, 2024 ≤ n ∧ n ≤ 2026 → DatePhrase.number? (numeral n) = some n :=
    fun n hn => Decimal.natUpTo?_numeral (by omega)
  rw [DatePhrase.find?_of_absent dates_absent_betweenText, yearGroup_betweenText]
  split
  · next ha => rw [Option.bind_some, hnumber a ha, Option.map_some]
  · split
    · next hb => rw [Option.bind_some, hnumber b hb, Option.map_some]
    · rfl

/-! ## The range -/

/-- A price starts with no blank. -/
theorem price_not_blank {rest : List Char} :
    ∀ c ∈ ('₹' :: rest).head?, Text.isBlank c = false := by
  rintro c ⟨⟩
  rfl

/-- There is no article in front of a price. -/
theorem cannotStart_article : (Pattern.both (.spelled "the") .gap).cannotStart '₹' = true := by
  decide

/-- What the phrase for a range has behind its first price. -/
def behindFirst : Pattern :=
  .inOrder [AmountPhrase.ordinal 3, .gap, .oneOfWords ["and", "to", "&"], .gap,
    AmountPhrase.article, AmountPhrase.currency 4, AmountPhrase.number 5, AmountPhrase.ordinal 6,
    .edge]

/-- Behind the first price the phrase for a range reads the second one. -/
theorem reaches_behindFirst {before : List Char} {captures : List Capture} :
    behindFirst.reaches
        ⟨⟨before, ' ' :: ("and".toList ++ ' ' :: '₹' :: (numeral b ++ []))⟩, captures⟩ =
      [⟨⟨(numeral b).reverse ++ '₹' :: (" and ".toList.reverse ++ before), []⟩,
        ⟨5, (" and ".toList.reverse ++ before).length + 1, numeral b⟩ ::
          ⟨4, (" and ".toList.reverse ++ before).length, ['₹']⟩ :: captures⟩] := by
  -- no ordinal stands behind the first number, and no article before the second price
  have hordinal : (Pattern.capture 3 (.oneOfWords ["st", "nd", "rd", "th"])).cannotStart ' ' =
      true := by decide
  have hlast : ∀ c ∈ numeral b,
      (Pattern.capture 6 (.oneOfWords ["st", "nd", "rd", "th"])).cannotStart c = true :=
    Decimal.forall_mem_numeral (by decide) b
  have hblank : ∀ c ∈ ("and".toList ++ ' ' :: '₹' :: (numeral b ++ [])).head?,
      Text.isBlank c = false := by
    rintro c ⟨⟩
    rfl
  have hand : (Pattern.oneOfWords ["and", "to", "&"]).reaches
      ⟨⟨' ' :: before, "and".toList ++ ' ' :: '₹' :: (numeral b ++ [])⟩, captures⟩ =
      [⟨⟨"and".toList.reverse ++ ' ' :: before, ' ' :: '₹' :: (numeral b ++ [])⟩, captures⟩] := rfl
  rw [behindFirst, Pattern.inOrder_cons, AmountPhrase.ordinal,
    Pattern.reaches_optional_both_of_nil (Pattern.reaches_eq_nil_of_cannotStart hordinal),
    Pattern.inOrder_cons, Pattern.reaches_both_of_singleton (Pattern.reaches_gap hblank),
    Pattern.inOrder_cons, Pattern.reaches_both_of_singleton hand,
    Pattern.inOrder_cons, Pattern.reaches_both_of_singleton (Pattern.reaches_gap price_not_blank),
    Pattern.inOrder_cons, AmountPhrase.article,
    Pattern.reaches_optional_both_of_nil
      (Pattern.reaches_eq_nil_of_cannotStart cannotStart_article),
    Pattern.inOrder_cons, Pattern.inOrder_cons, AmountPhrase.reaches_price (by simp) (by simp)]
  · exact Pattern.reaches_optional_edge_end rfl (Decimal.atWordEdge_behind rfl)
  · -- inside the second number there is no ordinal and no word boundary
    intro front c back captures hsplit hne
    have hc : c ∈ numeral b := by rw [hsplit]; simp
    exact Pattern.reaches_optional_edge_inside (hlast c hc) (Decimal.not_atWordEdge hsplit hne)

/-- The phrase for a range in the message reads both prices. -/
theorem reaches_between (a b : Nat) {before : List Char} (hbefore : before.head? = some ' ') :
    let first := "between ".toList.reverse ++ before
    let second := " and ".toList.reverse ++ ((numeral a).reverse ++ '₹' :: first)
    AmountPhrase.between.reaches
      ⟨⟨before, "between".toList ++ ' ' :: '₹' ::
        (numeral a ++ ' ' :: ("and".toList ++ ' ' :: '₹' :: (numeral b ++ [])))⟩, []⟩ =
      [⟨⟨(numeral b).reverse ++ '₹' :: second, []⟩,
        [⟨5, second.length + 1, numeral b⟩, ⟨4, second.length, ['₹']⟩,
          ⟨2, first.length + 1, numeral a⟩, ⟨1, first.length, ['₹']⟩]⟩] := by
  intro first second
  have hedge : Place.atWordEdge ⟨before, "between".toList ++ ' ' :: '₹' ::
        (numeral a ++ ' ' :: ("and".toList ++ ' ' :: '₹' :: (numeral b ++ [])))⟩ = true := by
    rw [Place.atWordEdge, hbefore]
    rfl
  have hinside : ∀ c ∈ numeral a, behindFirst.cannotStart c = true :=
    Decimal.forall_mem_numeral (by decide) a
  -- there is no point in the text, so the first price has no places
  have hpoint : '.' ∉ ' ' :: ("and".toList ++ ' ' :: '₹' :: (numeral b ++ [])) := by
    have hno : ∀ c ∈ numeral b, c ≠ '.' := Decimal.forall_mem_numeral (by decide) b
    have hb : '.' ∉ numeral b := fun hc => hno '.' hc rfl
    simp [hb]
  rw [AmountPhrase.between, Pattern.inOrder_cons, Pattern.reaches_edge_both_of_edge hedge,
    Pattern.inOrder_cons, Pattern.reaches_both_of_singleton (Pattern.reaches_spelled "between"),
    Pattern.inOrder_cons, Pattern.reaches_both_of_singleton (Pattern.reaches_gap price_not_blank),
    Pattern.inOrder_cons, AmountPhrase.article,
    Pattern.reaches_optional_both_of_nil
      (Pattern.reaches_eq_nil_of_cannotStart cannotStart_article),
    Pattern.inOrder_cons, Pattern.inOrder_cons]
  refine (AmountPhrase.reaches_price (q := behindFirst) ?_ hpoint ?_).trans reaches_behindFirst
  · rintro c ⟨⟩
    decide
  · -- what follows the first price does not start with a digit
    intro front c back captures hsplit hne
    have hc : c ∈ numeral a := by rw [hsplit]; simp
    exact Pattern.reaches_eq_nil_of_cannotStart (hinside c hc)

/-- The range that the message states, if its ends are in order. -/
theorem between?_betweenText (ha : (Decimal.nearest a 0).isFinite = true)
    (hb : (Decimal.nearest b 0).isFinite = true)
    (hab : ¬Decimal.nearest b 0 < Decimal.nearest a 0) :
    AmountPhrase.between? (betweenText a b) =
      some ⟨Decimal.nearest a 0, Decimal.nearest b 0, true, false⟩ := by
  have htext : betweenText a b = "expenses ".toList ++ ("between".toList ++ ' ' :: '₹' ::
      (numeral a ++ ' ' :: ("and".toList ++ ' ' :: '₹' :: (numeral b ++ [])))) := by
    simp [betweenText_eq]
  have hfront : ∀ c ∈ "expenses ".toList, AmountPhrase.between.cannotStart c = true :=
    Text.forall_of_all (by decide)
  obtain ⟨m, hm, hfirst, hsecond, hmark, hnoOrdinal⟩ :
      ∃ m, AmountPhrase.between.find? (betweenText a b) = some m ∧ m.group 2 = numeral a ∧
        m.group 5 = numeral b ∧ m.has 1 = true ∧ (m.has 3 || m.has 6) = false := by
    rw [htext, Pattern.find?, Pattern.findFrom?_append_of_cannotStart _ _ hfront]
    exact ⟨_, Pattern.findFrom?_eq_some (Pattern.matchAt?_eq_some (reaches_between a b rfl)), rfl,
      rfl, rfl, rfl⟩
  rw [AmountPhrase.between?, hm]
  simp only [hfirst, hsecond, AmountPhrase.read?_numeral ha, AmountPhrase.read?_numeral hb, hab,
    if_false, hmark, hnoOrdinal, Bool.true_or]

/-- The message asks for expenses. -/
theorem expenseWord_betweenText : Direction.expenseWord.isIn (betweenText a b) = true := by
  have htext : betweenText a b = "expense".toList ++ 's' :: ' ' :: ("between ₹".toList ++
      (numeral a ++ (" and ₹".toList ++ (numeral b ++ [])))) := by
    rw [betweenText_eq]
    rfl
  have hplural : ∀ rest, ⟨⟨'s' :: "expense".toList.reverse, ' ' :: rest⟩, []⟩ ∈
      (Pattern.plural "expense").reaches ⟨⟨[], "expense".toList ++ 's' :: ' ' :: rest⟩, []⟩ := by
    intro rest
    rw [Pattern.plural, Pattern.reaches_both_of_singleton (Pattern.reaches_spelled "expense")]
    exact List.mem_cons_self
  rw [htext]
  exact Pattern.isIn_whole_anyOf List.mem_cons_self (hplural _) rfl rfl

/-- The tests of the message: first the range, then the direction. -/
theorem tests_betweenText (now : Moment) (ha : (Decimal.nearest a 0).isFinite = true)
    (hb : (Decimal.nearest b 0).isFinite = true)
    (hab : ¬Decimal.nearest b 0 < Decimal.nearest a 0) :
    Filter.tests (betweenText a b) now =
      [fun e => decide (Decimal.nearest a 0 ≤ e.amount) && decide (e.amount ≤ Decimal.nearest b 0),
        fun e => e.direction == .expense] := by
  have hbetween := between?_betweenText ha hb hab
  have hrange : AmountPhrase.range? (betweenText a b) =
      some ⟨Decimal.nearest a 0, Decimal.nearest b 0, true, false⟩ := by
    rw [AmountPhrase.range?, hbetween]
    rfl
  -- with currency marks the numbers are no days of the month
  have hdates : DatePhrase.rangeWindow? (betweenText a b) now = none := by
    rw [DatePhrase.rangeWindow?, DatePhrase.endpoints?_of_absent dates_absent_betweenText, hbetween]
    rfl
  have hfilters : ∀ p ∈ Filter.phrases, p.cannotRead betweenChars = true := by decide
  rw [Filter.tests_of_absent (fun p hp => absent_betweenText (hfilters p hp)) now hdates, hrange,
    expenseWord_betweenText]
  rfl

/-! ## The entries -/

section
variable {ledger current pool : List Entry} {first second : Entry.Test}

/-- If the first of two tests keeps something, the entries that it starts from have to pass both. -/
theorem narrow_pair_of_kept (hpool : Rescue.fromLedger.input ledger current = pool)
    (h : ∃ e ∈ pool, first e = true) :
    Filter.narrow .fromLedger ledger current [first, second] =
      pool.filter fun e => second e && first e := by
  obtain ⟨e, he, hfirst⟩ := h
  have hne : pool.filter first ≠ [] := List.ne_nil_of_mem (List.mem_filter.2 ⟨he, hfirst⟩)
  simp only [Filter.narrow, List.foldl_cons, List.foldl_nil, Filter.step, hpool]
  rw [Rescue.input_fromLedger, if_neg hne, List.filter_filter]

/-- If the first of two tests keeps nothing, the second starts over. -/
theorem narrow_pair_of_lost (hpool : Rescue.fromLedger.input ledger current = pool)
    (h : ∀ e ∈ pool, first e = false) :
    Filter.narrow .fromLedger ledger current [first, second] = ledger.filter second := by
  have hnil : pool.filter first = [] := by
    rw [List.filter_eq_nil_iff]
    intro e he
    simp [h e he]
  simp only [Filter.narrow, List.foldl_cons, List.foldl_nil, Filter.step, hpool]
  rw [Rescue.input_fromLedger, if_pos hnil]

end

variable {q : Question}

/-- The message asks for no ranking and not for the newest entries, so it picks what the filters
leave. -/
theorem entries_of_between (htext : q.text = betweenText a b) :
    q.shortlist.entries = q.narrowed := by
  have hcannot : ∀ p ∈ [showWord, Ranking.smallestWord, Ranking.biggestWord, Ranking.latestWord],
      p.cannotRead betweenChars = true := by decide
  have habsent : ∀ p ∈ [showWord, Ranking.smallestWord, Ranking.biggestWord, Ranking.latestWord],
      p.isIn q.text = false := by
    intro p hp
    rw [htext, (absent_betweenText (hcannot p hp)).isIn]
  simp only [List.forall_mem_cons] at habsent
  have hranking : q.ranking? = none := by
    simp [ranking?, Ranking.find?, Ranking.keyAndOrder?, habsent]
  have hunranked : q.unranked = q.narrowed := by simp [unranked, fallsBack, habsent]
  simp only [shortlist, hranking, hunranked]

theorem candidates_of_between (htext : q.text = betweenText a b) :
    q.candidates = q.ledger.filter (betweenBase a b) := by
  rw [candidates, base, dates?, htext, dates_betweenText, keywords_betweenText, betweenBase]
  by_cases ha : 2024 ≤ a ∧ a ≤ 2026
  · rw [if_pos ha, if_pos ha]
  · by_cases hb : 2024 ≤ b ∧ b ≤ 2026
    · rw [if_neg ha, if_neg ha, if_pos hb, if_pos hb]
    · rw [if_neg ha, if_neg ha, if_neg hb, if_neg hb]

/-- Let `a` and `b` be within double precision, and let the ledger have some expense from `a` to
`b`. The message `expenses between ₹a and ₹b` picks

* all expenses in the range, if neither a year nor a keyword of the message selects an entry, or if
  all expenses in the range are selected;
* the selected expenses in the range, if some selected entry is in the range;
* all expenses whatever their amounts, if entries are selected but none of them is in the range. -/
theorem expenses_between (q : Question) {a b : Nat} (htext : q.text = betweenText a b)
    (hoptions : q.options = {}) (ha : (Decimal.nearest a 0).isFinite = true)
    (hb : (Decimal.nearest b 0).isFinite = true)
    (hsome : ∃ e ∈ q.ledger, e.direction = .expense ∧ Decimal.nearest a 0 ≤ e.amount ∧
      e.amount ≤ Decimal.nearest b 0) :
    let inRange (e : Entry) : Bool :=
      decide (Decimal.nearest a 0 ≤ e.amount) && decide (e.amount ≤ Decimal.nearest b 0)
    let isExpense (e : Entry) : Bool := e.direction == .expense
    let selected := q.ledger.filter (betweenBase a b)
    (selected = [] ∨ (∀ e ∈ q.ledger, isExpense e = true → inRange e = true → e ∈ selected) →
      q.shortlist.entries = q.ledger.filter fun e => isExpense e && inRange e) ∧
    ((∃ e ∈ selected, inRange e = true) →
      q.shortlist.entries = selected.filter fun e => isExpense e && inRange e) ∧
    (selected ≠ [] → (∀ e ∈ selected, inRange e = false) →
      q.shortlist.entries = q.ledger.filter isExpense) := by
  intro inRange isExpense selected
  obtain ⟨e, he, hexpense, hlow, hhigh⟩ := hsome
  have htests := tests_betweenText q.now ha hb (Amount.not_lt_of_le_of_le hlow hhigh)
  -- only the range and the direction ask for something of an entry
  have hentries : q.shortlist.entries =
      Filter.narrow .fromLedger q.ledger selected [inRange, isExpense] := by
    rw [entries_of_between htext, narrowed, Filter.narrowBy_eq_narrow, ← Filter.tests, htext,
      htests, hoptions, candidates_of_between htext]
  have hinRange : inRange e = true := by simp [inRange, hlow, hhigh]
  have hisExpense : isExpense e = true := by simp [isExpense, hexpense]
  have hkept : (∃ e ∈ selected, inRange e = true) →
      q.shortlist.entries = selected.filter fun e => isExpense e && inRange e := by
    rintro ⟨e, he, hin⟩
    have hpool : Rescue.fromLedger.input q.ledger selected = selected := by
      rw [Rescue.input_fromLedger, if_neg (List.ne_nil_of_mem he)]
    rw [hentries, narrow_pair_of_kept hpool ⟨e, he, hin⟩]
  refine ⟨?_, hkept, ?_⟩
  · rintro (hnil | hall)
    · -- nothing is selected, so the range is taken from the whole ledger
      have hpool : Rescue.fromLedger.input q.ledger selected = q.ledger := by
        rw [Rescue.input_fromLedger, if_pos hnil]
      rw [hentries, narrow_pair_of_kept hpool ⟨e, he, hinRange⟩]
    · -- the expenses in the range are the same in the ledger and in what is selected
      rw [hkept ⟨e, hall e he hisExpense hinRange, hinRange⟩, List.filter_filter]
      apply List.filter_congr
      intro x hx
      cases hboth : isExpense x && inRange x with
      | false => rfl
      | true =>
        obtain ⟨hdirection, hin⟩ := (Bool.and_eq_true _ _).mp hboth
        exact (List.mem_filter.1 (hall x hx hdirection hin)).2
  · -- the range leaves nothing of what is selected, and the direction starts over without it
    intro hne hnone
    have hpool : Rescue.fromLedger.input q.ledger selected = selected := by
      rw [Rescue.input_fromLedger, if_neg hne]
    rw [hentries, narrow_pair_of_lost hpool hnone]

/-- An expense in the range from 10 to 20 whose description contains a word of the message. -/
def trip : Entry := { rent with id := "trip", description? := some "Travel expenses", amount := 15 }

/-- Another expense in this range. -/
def lunch : Entry := { rent with id := "lunch", description? := some "Lunch", amount := 12 }

/-- A question for the expenses from 10 to 20, of which there are two. -/
def aboutExpenses : Question where
  text := betweenText 10 20
  ledger := [trip, lunch]
  now := rent.date

/-- There is an expense from 10 to 20. -/
theorem expense_in_range : ∃ e ∈ aboutExpenses.ledger, e.direction = .expense ∧
    Decimal.nearest 10 0 ≤ e.amount ∧ e.amount ≤ Decimal.nearest 20 0 :=
  ⟨trip, List.mem_cons_self, rfl, by decide, by decide⟩

/-- A keyword selects one of two expenses in the range, and only this one is picked. -/
theorem selected_expense_is_picked :
    (Decimal.nearest 10 0).isFinite = true ∧ (Decimal.nearest 20 0).isFinite = true ∧
      (aboutExpenses.ledger.filter (betweenBase 10 20)).map (·.id) = ["trip"] ∧
      aboutExpenses.shortlist.entries.map (·.id) = ["trip"] := by
  have ha : (Decimal.nearest 10 0).isFinite = true := by decide
  have hb : (Decimal.nearest 20 0).isFinite = true := by decide
  have hselected : (aboutExpenses.ledger.filter (betweenBase 10 20)).map (·.id) = ["trip"] := by
    decide
  have htrip : trip ∈ aboutExpenses.ledger.filter (betweenBase 10 20) :=
    List.mem_filter.2 ⟨List.mem_cons_self, by decide⟩
  refine ⟨ha, hb, hselected, ?_⟩
  rw [(expenses_between aboutExpenses rfl rfl ha hb expense_in_range).2.1
    ⟨trip, htrip, by decide⟩]
  decide

/-- An expense in the range can be missing among those that are picked. -/
theorem expense_in_range_is_not_picked :
    ¬ ∀ (q : Question) (a b : Nat), q.text = betweenText a b → q.options = {} → a ≤ b →
      (Decimal.nearest a 0).isFinite = true → (Decimal.nearest b 0).isFinite = true →
      (∃ e ∈ q.ledger, e.direction = .expense ∧ Decimal.nearest a 0 ≤ e.amount ∧
        e.amount ≤ Decimal.nearest b 0) →
      q.shortlist.entries = q.ledger.filter fun e => e.direction == .expense &&
        (decide (Decimal.nearest a 0 ≤ e.amount) && decide (e.amount ≤ Decimal.nearest b 0)) := by
  intro hall
  have hentries := hall aboutExpenses 10 20 rfl rfl (by decide) (by decide)
    (by decide) expense_in_range
  have hids := congrArg (List.map (·.id)) hentries
  exact absurd hids (by decide +kernel)

end Question

end AskLedger
