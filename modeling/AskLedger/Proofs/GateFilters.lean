import AskLedger.Proofs.GateDates
import AskLedger.Question.Filter
import AskLedger.Question.Ranking

/-!
# Filters and rankings that pass the gate

A filter that finds its phrase has found a word or an amount. Most of these words let a message
pass; `Gate.missedWords` lists those that do not. Amounts let a message pass only with a rupee sign
or some other sign of money. Rankings are always asked for by words that let a message pass.

* `Gate.admits_or_unheard`: a message with a filter passes, unless it has only a missed word or a
  bare amount.
* `Gate.admits_of_ranking`: a message with a ranking passes.
* `Gate.missedWords_alone`, `AmountPhrase.not_admits_overText`: missed words and bare amounts on
  their own do not pass.
-/

namespace AskLedger

open Decimal (numeral)
open Pattern (word whole spelled plural)

variable {text : List Char}

namespace Gate

/-! ## Words -/

/-- The words of filters that do not let a message pass. -/
def missedWords : List String :=
  ["incomes", "earning", "received", "credited", "debited", "onetime", "one-time", "one time",
   "one-off", "one off", "single", "nonrecurring", "repeating", "repeated", "autopay"]

/-- Whether a message has a word that lets it pass or one that is missed. -/
def HasWord (text : List Char) : Prop :=
  ∃ w ∈ words ++ missedWords, (word w).isIn text = true

/-- A message with a word of a filter is admitted unless it has one that is missed. -/
theorem admits_or_missed (h : HasWord text) :
    admits text = true ∨ ∃ w ∈ missedWords, (word w).isIn text = true := by
  obtain ⟨w, hw, hin⟩ := h
  rcases List.mem_append.1 hw with hword | hmissed
  · exact .inl (admits_of_word hword hin)
  · exact .inr ⟨w, hmissed, hin⟩

theorem hasWord_of_spelled {w : String} (hw : w ∈ words ++ missedWords)
    (h : (whole (spelled w)).isIn text = true) : HasWord text :=
  ⟨w, hw, h⟩

theorem hasWord_of_plural {w : String} (hw : w ∈ words ++ missedWords)
    (hws : w ++ "s" ∈ words ++ missedWords) (h : (whole (plural w)).isIn text = true) :
    HasWord text := by
  rcases Pattern.isIn_whole_plural.1 h with h | h
  · exact ⟨w, hw, h⟩
  · exact ⟨w ++ "s", hws, h⟩

theorem hasWord_of_oneOfWords {ws : List String} (hws : ∀ w ∈ ws, w ∈ words ++ missedWords)
    (h : (whole (.oneOfWords ws)).isIn text = true) : HasWord text := by
  obtain ⟨w, hw, hin⟩ := Pattern.isIn_whole_oneOfWords.1 h
  exact ⟨w, hws w hw, hin⟩

/-- A choice of whole words is one of them. -/
theorem hasWord_of_anyOf {ps : List Pattern}
    (hps : ∀ p ∈ ps, (whole p).isIn text = true → HasWord text)
    (h : (whole (.anyOf ps)).isIn text = true) : HasWord text := by
  obtain ⟨p, hp, hin⟩ := Pattern.isIn_whole_anyOf_iff.1 h
  exact hps p hp hin

end Gate

open Gate (HasWord hasWord_of_spelled hasWord_of_plural)

/-! ## Direction and recurrence -/

namespace Direction

theorem hasWord_of_incomeWord (h : incomeWord.isIn text = true) : HasWord text :=
  Gate.hasWord_of_oneOfWords (by decide) h

theorem hasWord_of_expenseWord (h : expenseWord.isIn text = true) : HasWord text := by
  apply Gate.hasWord_of_anyOf _ h
  simp only [List.forall_mem_cons, List.not_mem_nil, false_imp_iff, implies_true, and_true]
  exact ⟨hasWord_of_plural (by decide) (by decide), hasWord_of_spelled (by decide),
    hasWord_of_spelled (by decide), hasWord_of_spelled (by decide), hasWord_of_spelled (by decide),
    hasWord_of_spelled (by decide), hasWord_of_plural (by decide) (by decide),
    hasWord_of_spelled (by decide)⟩

theorem hasWord_of_asked? {d : Direction} (h : asked? text = some d) : HasWord text := by
  unfold asked? at h
  split at h
  · next hincome _ => exact hasWord_of_incomeWord hincome
  · next _ hexpense => exact hasWord_of_expenseWord hexpense
  · cases h

end Direction

namespace Recurrence

variable {v w : String} {a b : Place}

theorem leads_hyphenOrSpace (h : (Pattern.one (.oneOf ['-', ' '])).Leads a b) :
    ((spelled "-").Leads a b ∨ (spelled " ").Leads a b) ∧
      b.before.head?.any Text.isWordChar = false := by
  obtain ⟨c, hc, hafter, hbefore⟩ := h
  have hchar : c = '-' ∨ c = ' ' := by simpa [CharKind.accepts] using hc
  rw [hbefore]
  rcases hchar with rfl | rfl
  · exact ⟨.inl ⟨'-', rfl, hafter, hbefore⟩, rfl⟩
  · exact ⟨.inr ⟨' ', rfl, hafter, hbefore⟩, rfl⟩

/-- Two words with a hyphen or a space between them are a word with it. -/
theorem isIn_whole_divided
    (h : (whole (.inOrder [spelled v, .one (.oneOf ['-', ' ']), spelled w])).isIn text = true) :
    (word (v ++ "-" ++ w)).isIn text = true ∨ (word (v ++ " " ++ w)).isIn text = true := by
  obtain ⟨a, b, hwhole, hleads⟩ := Pattern.isIn_iff_leads.1 h
  obtain ⟨⟨p, hv, q, hsign, hw⟩, hedges⟩ := Pattern.leads_whole.1 hleads
  have hword : ∀ sign, (spelled sign).Leads p q → (word (v ++ sign ++ w)).isIn text = true :=
    fun sign hsign => Pattern.isIn_iff_leads.2 ⟨a, b, hwhole, Pattern.leads_whole.2
      ⟨Pattern.leads_spelled_append.2 ⟨q, Pattern.leads_spelled_append.2 ⟨p, hv, hsign⟩, hw⟩,
        hedges⟩⟩
  exact (leads_hyphenOrSpace hsign).1.imp (hword "-") (hword " ")

/-- Two words that may have a joint are divided by a sign or are one word. -/
theorem isIn_whole_joined
    (h : (whole (.inOrder [spelled v, joint, spelled w])).isIn text = true) :
    (word (v ++ w)).isIn text = true ∨
      (whole (.inOrder [spelled v, .one (.oneOf ['-', ' ']), spelled w])).isIn text = true := by
  obtain ⟨a, b, hwhole, hleads⟩ := Pattern.isIn_iff_leads.1 h
  obtain ⟨⟨p, hv, q, hjoint, hw⟩, hedges⟩ := Pattern.leads_whole.1 hleads
  rcases hjoint with hsign | rfl
  · exact .inr (Pattern.isIn_iff_leads.2
      ⟨a, b, hwhole, Pattern.leads_whole.2 ⟨⟨p, hv, q, hsign, hw⟩, hedges⟩⟩)
  · exact .inl (Pattern.isIn_iff_leads.2 ⟨a, b, hwhole, Pattern.leads_whole.2
      ⟨Pattern.leads_spelled_append.2 ⟨p, hv, hw⟩, hedges⟩⟩)

/-- Behind a sign a word is one on its own. -/
theorem isIn_word_of_divided (hstart : (spelled w).startsInWord = true)
    (h : (whole (.inOrder [spelled v, .one (.oneOf ['-', ' ']), spelled w])).isIn text = true) :
    (word w).isIn text = true := by
  obtain ⟨a, b, hwhole, hleads⟩ := Pattern.isIn_iff_leads.1 h
  obtain ⟨⟨p, hv, q, hsign, hw⟩, -, hstop⟩ := Pattern.leads_whole.1 hleads
  have hedge : q.atWordEdge = true := by
    rw [Place.atWordEdge, (leads_hyphenOrSpace hsign).2, Pattern.after_of_startsInWord hstart hw]
    rfl
  have hwhole' : q.whole = text := by
    rw [Pattern.whole_of_leads hsign, Pattern.whole_of_leads hv, hwhole]
  exact Pattern.isIn_iff_leads.2 ⟨q, b, hwhole', Pattern.leads_whole.2 ⟨hw, hedge, hstop⟩⟩

theorem hasWord_of_onceWord (h : onceWord.isIn text = true) : HasWord text := by
  apply Gate.hasWord_of_anyOf _ h
  simp only [List.forall_mem_cons, List.not_mem_nil, false_imp_iff, implies_true, and_true]
  refine ⟨fun h => ?_, fun h => ?_, hasWord_of_spelled (by decide), fun h => ?_⟩
  · -- what happens one time
    rcases isIn_whole_joined h with h | h
    · exact ⟨"onetime", by decide, h⟩
    · rcases isIn_whole_divided h with h | h
      · exact ⟨"one-time", by decide, h⟩
      · exact ⟨"one time", by decide, h⟩
  · -- what is one-off
    rcases isIn_whole_divided h with h | h
    · exact ⟨"one-off", by decide, h⟩
    · exact ⟨"one off", by decide, h⟩
  · -- what is non-recurring has a word that lets it pass, unless it is written in one
    rcases isIn_whole_joined h with h | h
    · exact ⟨"nonrecurring", by decide, h⟩
    · exact ⟨"recurring", by decide, isIn_word_of_divided (by decide) h⟩

theorem hasWord_of_againWord (h : againWord.isIn text = true) : HasWord text := by
  apply Gate.hasWord_of_anyOf _ h
  simp only [List.forall_mem_cons, List.not_mem_nil, false_imp_iff, implies_true, and_true]
  exact ⟨hasWord_of_spelled (by decide), hasWord_of_plural (by decide) (by decide),
    hasWord_of_spelled (by decide), hasWord_of_spelled (by decide), hasWord_of_spelled (by decide)⟩

theorem hasWord_of_asked? {r : Bool} (h : asked? text = some r) : HasWord text := by
  unfold asked? at h
  split at h
  · next honce => exact hasWord_of_onceWord honce
  · split at h
    · next hagain => exact hasWord_of_againWord hagain
    · cases h

end Recurrence

/-! ## Accounts, amounts and dates -/

/-- An account is called one. -/
theorem Account.admits_of_asked? {kind : List Char} (h : asked? text = some kind) :
    Gate.admits text = true := by
  obtain ⟨m, hm, -⟩ := Option.map_eq_some_iff.1 h
  obtain ⟨hwhole, hstop⟩ := Pattern.mem_reaches_of_find? hm
  obtain ⟨a, ⟨rfl, -⟩, p, hfrom, q, hkind, r, hgap, s, haccount, rfl, hedge⟩ :=
    Pattern.leads_of_mem_reaches hstop
  have hwhole' : q.whole = text := by
    rw [Pattern.whole_of_leads hkind, Pattern.whole_of_leads hfrom, hwhole]
  have hword : (word "account").isIn text = true :=
    Pattern.isIn_whole_behind_gap hwhole' hgap (by decide) haccount hedge
  exact Gate.admits_of_word (by decide) hword

namespace Gate

/-- Whether a message speaks of amounts without a rupee sign. -/
def HasBareAmount (text : List Char) : Prop :=
  '₹' ∉ text ∧ (AmountPhrase.bound.isIn text = true ∨ AmountPhrase.between.isIn text = true)

/-- A message with a rupee sign is admitted. -/
theorem admits_of_rupeeSign (h : '₹' ∈ text) : admits text = true := by
  obtain ⟨before, after, rfl⟩ := List.append_of_mem h
  have hleads : (spelled "₹").Leads ⟨before.reverse, '₹' :: after⟩ ⟨'₹' :: before.reverse, after⟩ :=
    ⟨'₹', rfl, rfl, rfl⟩
  exact admits_of_sign (by simp [signs])
    (Pattern.isIn_iff_leads.2 ⟨_, _, by simp [Place.whole], hleads⟩)

/-- A message about amounts is admitted unless no mark stands at them. -/
theorem admits_or_bareAmount
    (h : AmountPhrase.bound.isIn text = true ∨ AmountPhrase.between.isIn text = true) :
    admits text = true ∨ HasBareAmount text := by
  by_cases hsign : '₹' ∈ text
  · exact .inl (admits_of_rupeeSign hsign)
  · exact .inr ⟨hsign, h⟩

theorem isIn_of_bound? {b : AmountPhrase.Bound} (h : AmountPhrase.bound? text = some b) :
    AmountPhrase.bound.isIn text = true := by
  obtain ⟨m, hm, -⟩ := Option.bind_eq_some_iff.1 h
  rw [Pattern.isIn, hm]
  rfl

theorem isIn_of_between? {b : AmountPhrase.Between} (h : AmountPhrase.between? text = some b) :
    AmountPhrase.between.isIn text = true := by
  rw [Pattern.isIn, Option.isSome_iff_ne_none]
  intro hnone
  simp [AmountPhrase.between?, hnone] at h

/-- A range of dates is one from a date to another or one between two days. -/
theorem admits_or_bareAmount_of_rangeWindow? {now : Moment} {w : Window}
    (h : DatePhrase.rangeWindow? text now = some w) : admits text = true ∨ HasBareAmount text := by
  unfold DatePhrase.rangeWindow? at h
  split at h
  · next a b hdates =>
    have hrange : (DatePhrase.findRange? text).isSome = true := by
      rw [DatePhrase.findRange?, hdates]
      rfl
    obtain ⟨p, hp⟩ := Option.isSome_iff_exists.1 hrange
    exact .inl (DatePhrase.admits_of_findRange? hp)
  · split at h
    · next hdays =>
      obtain ⟨b, hbetween, -⟩ := Option.bind_eq_some_iff.1 hdays
      exact admits_or_bareAmount (.inr (isIn_of_between? hbetween))
    · cases h

/-! ## All filters and rankings -/

/-- A message with a filter passes the gate, unless it is one on amounts without a rupee sign or by
a missed word. -/
theorem admits_or_unheard {f : Filter} {now : Moment} (hf : f ∈ Filter.all)
    (h : (f.test? text now).isSome = true) :
    admits text = true ∨
      (f ∈ [Filter.amountBound, Filter.amountRange, Filter.dateRange] ∧ HasBareAmount text) ∨
      (f ∈ [Filter.direction, Filter.recurrence] ∧
        ∃ w ∈ missedWords, (word w).isIn text = true) := by
  simp only [Filter.all, List.mem_cons, List.not_mem_nil, or_false] at hf
  rcases hf with rfl | rfl | rfl | rfl | rfl | rfl | rfl
  all_goals
    -- whatever the filter, its test comes from something it has found in the text
    obtain ⟨test, htest⟩ := Option.isSome_iff_exists.1 h
    obtain ⟨found, hfound, -⟩ := Option.map_eq_some_iff.1 htest
  · -- bounds and ranges of amounts
    refine (admits_or_bareAmount (.inl (isIn_of_bound? hfound))).imp_right fun hbare => ?_
    exact .inl ⟨by simp, hbare⟩
  · obtain ⟨hbetween, -⟩ := Option.filter_eq_some_iff.1 hfound
    refine (admits_or_bareAmount (.inr (isIn_of_between? hbetween))).imp_right fun hbare => ?_
    exact .inl ⟨by simp, hbare⟩
  · -- ranges of dates, which can be read as between two numbers
    refine (admits_or_bareAmount_of_rangeWindow? hfound).imp_right fun hbare => ?_
    exact .inl ⟨by simp, hbare⟩
  · -- direction and recurrence
    refine (admits_or_missed (Direction.hasWord_of_asked? hfound)).imp_right fun hword => ?_
    exact .inr ⟨by simp, hword⟩
  · refine (admits_or_missed (Recurrence.hasWord_of_asked? hfound)).imp_right fun hword => ?_
    exact .inr ⟨by simp, hword⟩
  · -- accounts and categories
    exact .inl (Account.admits_of_asked? hfound)
  · have hany : Category.anyIn text = true := by
      rw [Category.anyIn_eq_isSome, hfound]
      rfl
    exact .inl (by rw [admits, hany, Bool.or_true])

/-- A message with a ranking passes the gate. -/
theorem admits_of_ranking {limit : Nat} (h : (Ranking.find? text limit).isSome = true) :
    admits text = true := by
  have hword : ∀ {ws : List String}, (∀ w ∈ ws, w ∈ words) →
      (whole (.oneOfWords ws)).isIn text = true → admits text = true := by
    intro ws hws hin
    obtain ⟨w, hw, hin⟩ := Pattern.isIn_whole_oneOfWords.1 hin
    exact admits_of_word (hws w hw) hin
  simp only [Ranking.find?, Option.isSome_map, Ranking.keyAndOrder?] at h
  split at h
  · next hsmallest => exact hword (by decide) hsmallest
  · split at h
    · next hbiggest => exact hword (by decide) hbiggest
    · split at h
      · next hlatest => exact hword (by decide) hlatest
      · cases h

/-- A missed word on its own is heard by a filter but does not pass the gate. -/
theorem missedWords_alone : ∀ w ∈ missedWords, admits w.toList = false ∧
    ((Direction.asked? w.toList).isSome = true ∨ (Recurrence.asked? w.toList).isSome = true) := by
  decide +kernel

end Gate

/-! ## Amounts on their own -/

namespace AmountPhrase

variable {n : Nat}

/-- At the end of a text a numeral is preferably read to its end. -/
theorem head?_reaches_number {before : List Char} {captures : List Capture} (slot : Nat) :
    ((number slot).reaches ⟨⟨before, numeral n⟩, captures⟩).head? =
      some ⟨⟨(numeral n).reverse ++ before, []⟩, ⟨slot, before.length, numeral n⟩ :: captures⟩ := by
  -- the first digit is read on its own and the others by a run that also takes commas
  obtain ⟨c, s, hs⟩ := List.exists_cons_of_ne_nil (Decimal.numeral_ne_nil n)
  have hdigits : ∀ d ∈ c :: s, Text.isDigit d = true := hs ▸ Text.isDigit_of_mem_numeral
  obtain ⟨hc, hrest⟩ := List.forall_mem_cons.1 hdigits
  have hkind : ∀ d ∈ s, (CharKind.digitOr [',']).accepts d = true :=
    fun d hd => by simp [CharKind.accepts, hrest d hd]
  obtain ⟨others, hrun⟩ := @Pattern.exists_runFrom_eq_cons _ s [] (c :: before) [] hkind (by simp)
  rw [List.append_nil] at hrun
  have hread : Place.upTo ⟨before, c :: s⟩ ⟨s.reverse ++ c :: before, []⟩ = c :: s := by
    simpa using Place.upTo_append before (c :: s) []
  -- nothing can follow the last digit
  rw [hs, number, Pattern.reaches]
  simp [Pattern.inOrder, Pattern.optional, Pattern.reaches, CharKind.accepts, hc, hrun, hread,
    Place.offset]

/-- The message that asks for amounts over a bound, without a rupee sign. -/
def overText (n : Nat) : List Char := ("over " ++ toString n).toList

theorem overText_eq (n : Nat) : overText n = "over ".toList ++ numeral n := by
  rw [overText, String.toList_append, Decimal.numeral_eq_toString]

/-- A space between a word and a numeral is preferably read, but need not be. -/
theorem reaches_blanks {before : List Char} {captures : List Capture} :
    (Pattern.many .blank).reaches ⟨⟨before, ' ' :: numeral n⟩, captures⟩ =
      [⟨⟨' ' :: before, numeral n⟩, captures⟩, ⟨⟨before, ' ' :: numeral n⟩, captures⟩] := by
  obtain ⟨c, s, hs⟩ := List.exists_cons_of_ne_nil (Decimal.numeral_ne_nil n)
  have hspace : Text.isBlank ' ' = true := rfl
  have hc : Text.isBlank c = false :=
    Text.isBlank_of_mem_numeral c (by rw [hs]; exact List.mem_cons_self)
  simp [Pattern.reaches, Pattern.runFrom, CharKind.accepts, hs, hspace, hc]

/-- The phrase for a bound reads the word and the number. -/
theorem head?_reaches_bound :
    (bound.reaches ⟨⟨[], "over ".toList ++ numeral n⟩, []⟩).head? =
      some ⟨⟨(numeral n).reverse ++ "over ".toList.reverse, []⟩,
        [⟨4, 5, numeral n⟩, ⟨1, 0, "over".toList⟩]⟩ := by
  have hover : (Pattern.either
      (.capture 1 (.oneOfWords ["more than", "greater than", "above", "over"]))
      (.capture 2 (.oneOfWords ["less than", "below", "under"]))).reaches
        ⟨⟨[], "over ".toList ++ numeral n⟩, []⟩ =
      [⟨⟨"over".toList.reverse, ' ' :: numeral n⟩, [⟨1, 0, "over".toList⟩]⟩] := rfl
  -- a numeral starts with no currency mark
  have hcurrency : ∀ (before : List Char) (captures : List Capture), (Pattern.both (.capture 3
      (.anyOf [.spelled "₹", .both (.spelled "rs") (.optional (.one (.exactly '.'))),
        .spelled "inr"])) (.many .blank)).reaches ⟨⟨before, numeral n⟩, captures⟩ = [] := by
    intro before captures
    have hstart : ∀ c ∈ numeral n, Pattern.cannotStart c (Pattern.both (.capture 3
        (.anyOf [.spelled "₹", .both (.spelled "rs") (.optional (.one (.exactly '.'))),
          .spelled "inr"])) (.many .blank)) = true :=
      Decimal.forall_mem_numeral (by decide) n
    obtain ⟨c, s, hs⟩ := List.exists_cons_of_ne_nil (Decimal.numeral_ne_nil n)
    rw [hs] at hstart ⊢
    exact Pattern.reaches_eq_nil_of_cannotStart (hstart c List.mem_cons_self)
  rw [bound, Pattern.inOrder_cons, Pattern.reaches_edge_both_of_edge rfl, Pattern.inOrder_cons,
    Pattern.reaches_both_of_singleton hover, Pattern.inOrder_cons, Pattern.reaches, reaches_blanks,
    List.flatMap_cons, Pattern.inOrder_cons, currency,
    Pattern.reaches_optional_both_of_nil (hcurrency _ _), List.head?_append]
  have hnumber := @head?_reaches_number n (' ' :: "over".toList.reverse)
    [⟨1, 0, "over".toList⟩] 4
  rw [Pattern.inOrder, hnumber]
  rfl

theorem bound?_overText (hfinite : (Decimal.nearest n 0).isFinite = true) :
    bound? (overText n) = some ⟨true, Decimal.nearest n 0⟩ := by
  have hread := read?_numeral hfinite
  have hmatch : bound.matchAt? ⟨[], overText n⟩ = some ⟨⟨[], overText n⟩,
      ⟨⟨(numeral n).reverse ++ "over ".toList.reverse, []⟩,
        [⟨4, 5, numeral n⟩, ⟨1, 0, "over".toList⟩]⟩⟩ := by
    rw [Pattern.matchAt?, overText_eq, head?_reaches_bound, Option.map_some]
  rw [bound?, Pattern.find?, Pattern.findFrom?_eq_some hmatch]
  simp [Match.group, Match.capture?, Match.has, hread]

/-- A bound without a rupee sign is heard by a filter but does not let a message pass, unless its
number is a year. -/
theorem not_admits_overText (hn : ¬(2024 ≤ n ∧ n ≤ 2026)) : Gate.admits (overText n) = false := by
  have hyear : DatePhrase.yearWord.isIn (overText n) = false := by
    have hstart : ∀ c ∈ "over ".toList, DatePhrase.yearWord.cannotStart c = true :=
      Text.forall_of_all (by decide)
    have hnothing : DatePhrase.yearWord.cannotRead [] = true := by decide
    have habsent := @Pattern.isAbsent_of_cannotRead _ _ [] hnothing (by simp)
    rw [overText_eq, ← List.append_nil (numeral n)]
    exact DatePhrase.isIn_yearWord_eq_false hstart rfl habsent hn
  have hfront : ∀ c ∈ "over ".toList, c ∈ "over 0123456789".toList :=
    Text.forall_of_all (by decide)
  have hdigits : ∀ c ∈ numeral n, c ∈ "over 0123456789".toList :=
    Decimal.forall_mem_numeral (by decide) n
  have hchars : ∀ c ∈ overText n, c ∈ "over 0123456789".toList := by
    rw [overText_eq]
    exact List.forall_mem_append.2 ⟨hfront, hdigits⟩
  have hothers : ∀ p ∈ [DatePhrase.yearWord], p.isIn (overText n) = false := by
    simpa using hyear
  exact Gate.not_admits_of_chars hchars hothers (by decide)

end AmountPhrase

namespace Gate

/-- Every message with a ranking passes the gate. So does every message with a filter, unless it is
one on amounts without a rupee sign or by a missed word. On its own each missed word and every bound
without a rupee sign is heard by a filter all the same, but does not pass. -/
theorem filters_pass (now : Moment) (limit : Nat) :
    (∀ text, (Ranking.find? text limit).isSome = true → admits text = true) ∧
    (∀ text, ∀ f ∈ Filter.all, (f.test? text now).isSome = true →
      admits text = true ∨
        (f ∈ [Filter.amountBound, Filter.amountRange, Filter.dateRange] ∧ HasBareAmount text) ∨
        (f ∈ [Filter.direction, Filter.recurrence] ∧
          ∃ w ∈ missedWords, (word w).isIn text = true)) ∧
    (∀ w ∈ missedWords, admits w.toList = false ∧
      ∃ f ∈ [Filter.direction, Filter.recurrence], (f.test? w.toList now).isSome = true) ∧
    (∀ n, ¬(2024 ≤ n ∧ n ≤ 2026) → (Decimal.nearest n 0).isFinite = true →
      admits (AmountPhrase.overText n) = false ∧
        (Filter.amountBound.test? (AmountPhrase.overText n) now).isSome = true) := by
  refine ⟨fun _ => admits_of_ranking, fun _ _ => admits_or_unheard, fun w hw => ?_,
    fun n hn hfinite => ⟨AmountPhrase.not_admits_overText hn, ?_⟩⟩
  · obtain ⟨hrefused, hheard⟩ := missedWords_alone w hw
    refine ⟨hrefused, ?_⟩
    rcases hheard with hdirection | hrecurrence
    · exact ⟨Filter.direction, by simp, by rw [Filter.direction, Option.isSome_map, hdirection]⟩
    · exact ⟨Filter.recurrence, by simp, by rw [Filter.recurrence, Option.isSome_map, hrecurrence]⟩
  · simp [Filter.amountBound, AmountPhrase.bound?_overText hfinite]

/-- The start of a day in June. -/
def midJune : Moment := .startOf ⟨2025, 6, 16, by decide⟩

/-- A message about incomes asks for a direction by a missed word, and one about amounts over 500
states a bound. Neither passes the gate, nor do a range of amounts and one of days; the top 3 do. -/
theorem incomes_do_not_pass :
    admits "top 3".toList = true ∧
    (admits "my incomes".toList = false ∧
      ∃ w ∈ missedWords, (word w).isIn "my incomes".toList = true) ∧
    (admits "incomes".toList = false ∧
      ∃ f ∈ [Filter.direction, Filter.recurrence],
        (f.test? "incomes".toList midJune).isSome = true) ∧
    (admits "over 500".toList = false ∧
      (Filter.amountBound.test? "over 500".toList midJune).isSome = true) ∧
    (admits "between 5 and 10".toList = false ∧
      (Filter.amountRange.test? "between 5 and 10".toList midJune).isSome = true) ∧
    (admits "between the 1st and 3rd".toList = false ∧
      (Filter.dateRange.test? "between the 1st and 3rd".toList midJune).isSome = true) := by
  obtain ⟨hranking, hfilters, hwords, hbounds⟩ := filters_pass midJune 10
  have hrefused : admits "my incomes".toList = false := by decide
  refine ⟨hranking _ (by decide), ⟨hrefused, ?_⟩, hwords "incomes" (by decide),
    hbounds 500 (by decide) (by decide), by decide, by decide⟩
  rcases hfilters "my incomes".toList Filter.direction (by simp [Filter.all]) (by decide) with
    h | ⟨-, -, h⟩ | ⟨-, h⟩
  · rw [hrefused] at h
    cases h
  · exact absurd h (by decide)
  · exact h

end Gate

end AskLedger
