import AskLedger.Proofs.Numerals
import AskLedger.Proofs.PatternContext
import AskLedger.Question.Gate

/-!
# Dates that pass the gate

The gate and the search for dates look for the same things by different patterns. Ranges, numeric
dates, months, years and periods are found only in messages that pass the gate. Two kinds of dates
are overlooked: days of a year other than 2024 to 2026, written the ISO way, and the last so many
days, in the singular.

* `Gate.admits_of_word`: the words that let a message pass.
* `DatePhrase.admits_or_overlooked`: a message that is about some dates passes unless they are of
  one of the two kinds.
-/

namespace AskLedger

open Decimal (numeral)
open Pattern (word whole)

namespace Gate

/-! ## Signs -/

/-- The words that let a message pass, in all their forms. -/
def words : List String :=
  moneyWords ++ (countedMoneyWords ++ countedMoneyWords.map (· ++ "s")) ++ dateWords ++ askingWords

variable {text : List Char}

/-- One sign in a message is enough. -/
theorem admits_of_sign {p : Pattern} (hp : p ∈ signs) (h : p.isIn text = true) :
    admits text = true := by
  have hsign : (signs.any fun p => p.isIn text) = true := List.any_eq_true.2 ⟨p, hp, h⟩
  rw [admits, hsign, Bool.true_or]

/-- A message without a sign and without a category does not pass. -/
theorem not_admits (h : ∀ p ∈ signs ++ Category.all.map Category.mention, p.isIn text = false) :
    admits text = false := by
  obtain ⟨hsigns, hcategories⟩ := List.forall_mem_append.1 h
  rw [admits, Bool.or_eq_false_iff, Category.anyIn]
  constructor
  · exact List.any_eq_false.2 fun p hp => by simp [hsigns p hp]
  · exact List.any_eq_false.2 fun c hc => by
      simp [Category.isIn, hcategories _ (List.mem_map_of_mem hc)]

/-- Nor does one of characters that signs and categories cannot read, some of them apart that are
not in it for another reason. -/
theorem not_admits_of_chars {chars : List Char} {others : List Pattern}
    (hchars : ∀ c ∈ text, c ∈ chars) (hothers : ∀ p ∈ others, p.isIn text = false)
    (h : ∀ p ∈ signs ++ Category.all.map Category.mention,
      p ∈ others ∨ p.cannotRead chars = true) : admits text = false := by
  refine not_admits fun p hp => ?_
  rcases h p hp with hother | hcannot
  · exact hothers p hother
  · exact (Pattern.isAbsent_of_cannotRead hcannot hchars).isIn

/-- A message with one of the words passes. -/
theorem admits_of_word {w : String} (hw : w ∈ words) (h : (word w).isIn text = true) :
    admits text = true := by
  simp only [words, List.mem_append, List.mem_map] at hw
  have hmoney : ∀ p ∈ moneyWords.map .spelled ++ countedMoneyWords.map .plural ++ [rupeeMark],
      (whole p).isIn text = true → admits text = true :=
    fun p hp h => admits_of_sign List.mem_cons_self (Pattern.isIn_whole_anyOf_iff.2 ⟨p, hp, h⟩)
  simp only [List.mem_append, List.mem_map] at hmoney
  -- the words come from the four parts of the list, plurals apart
  rcases hw with ((hw | hw | ⟨v, hv, rfl⟩) | hw) | hw
  · exact hmoney (.spelled w) (.inl (.inl ⟨w, hw, rfl⟩)) h
  · exact hmoney (.plural w) (.inl (.inr ⟨w, hw, rfl⟩)) (Pattern.isIn_whole_plural.2 (.inl h))
  · exact hmoney (.plural v) (.inl (.inr ⟨v, hv, rfl⟩)) (Pattern.isIn_whole_plural.2 (.inr h))
  · exact admits_of_sign (by simp [signs]) (Pattern.isIn_whole_oneOfWords.2 ⟨w, hw, h⟩)
  · exact admits_of_sign (by simp [signs]) (Pattern.isIn_whole_oneOfWords.2 ⟨w, hw, h⟩)

end Gate

namespace DatePhrase

/-! ## Years -/

variable {text : List Char} {a b : Place}

/-- A text has a year exactly if the numeral of one from 2024 to 2026 stands apart in it. -/
theorem isIn_yearWord_iff :
    yearWord.isIn text = true ↔
      ∃ y, (2024 ≤ y ∧ y ≤ 2026) ∧ Text.StandsApart (numeral y) text := by
  rw [Pattern.isIn_iff_leads]
  constructor
  · rintro ⟨a, b, htext, hleads⟩
    obtain ⟨hbefore, hafter⟩ := Pattern.outside_of_leads_whole (by decide) (by decide) hleads
    obtain ⟨s, hs, hstretch, -⟩ := Pattern.exists_stretch_of_leads hleads
    obtain ⟨y, hfirst, hlast, rfl⟩ := eq_numeral_of_describes_yearWord hs
    refine ⟨y, ⟨hfirst, hlast⟩, a.before, b.after, ?_, hbefore, hafter⟩
    rw [← htext, Place.whole, hstretch, List.append_assoc]
  · rintro ⟨y, hy, before, after, rfl, hbefore, hafter⟩
    obtain ⟨m, hm, -⟩ := matchAt?_yearWord_numeral hbefore hafter hy
    have hsome : (yearWord.matchAt? ⟨before, numeral y ++ after⟩).isSome = true := by rw [hm]; rfl
    obtain ⟨b, hb⟩ := Pattern.matchAt?_isSome_iff.1 hsome
    exact ⟨_, b, by simp [Place.whole], hb⟩

/-- A text has no year if all it has of the kind is another number. -/
theorem isIn_yearWord_eq_false {n : Nat} {front back : List Char}
    (hfront : ∀ c ∈ front, yearWord.cannotStart c = true)
    (hback : back.head?.any Text.isWordChar = false) (habsent : yearWord.IsAbsent back)
    (hn : ¬(2024 ≤ n ∧ n ≤ 2026)) : yearWord.isIn (front ++ (numeral n ++ back)) = false := by
  rw [Pattern.isIn, Pattern.find?, Pattern.findFrom?_append_of_cannotStart _ _ hfront,
    findFrom?_yearWord_numeral hback hn, habsent.findFrom?]
  rfl

/-- A year that is left after numeric dates have been taken out was there before. -/
theorem isIn_yearWord_of_withoutDates (h : yearWord.isIn (withoutDates text) = true) :
    yearWord.isIn text = true := by
  obtain ⟨y, hy, hapart⟩ := isIn_yearWord_iff.1 h
  have hword : ∀ c ∈ numeral y, Text.isWordChar c = true := Text.isWordChar_of_mem_numeral
  have hne := Decimal.numeral_ne_nil y
  -- ISO dates have been taken out last
  have hiso : Text.StandsApart (numeral y) (numericDate.replaceAll [' '] text) :=
    Pattern.standsApart_of_replaceAll (by decide) (by decide) hword hne hapart
  exact isIn_yearWord_iff.2
    ⟨y, hy, Pattern.standsApart_of_replaceAll (by decide) (by decide) hword hne hiso⟩

/-! ## Numeric dates -/

/-- Two digits or four are one digit and up to three more. -/
theorem leads_of_yearDigits (h : yearDigits.Leads a b) :
    (Pattern.both (.one .digit) (.upToMore 2 .digit)).Leads a b := by
  rcases h with ⟨m, h₁, n, h₂, o, h₃, h₄⟩ | ⟨m, h₁, h₂⟩
  · exact ⟨m, h₁, n, h₂, .inl ⟨o, h₃, .inl h₄⟩⟩
  · exact ⟨m, h₁, b, h₂, .inr rfl⟩

/-- A numeric date is a loose date as well. -/
theorem looseDate_of_bareNumericDate (h : bareNumericDate.Leads a b) :
    Gate.looseDate.Leads a b := by
  obtain ⟨m, hday, n, hfirst, o, hmonth, p, hsecond, hyear⟩ := h
  exact ⟨m, hday, n, hfirst, o, hmonth, p, hsecond, leads_of_yearDigits hyear⟩

theorem isIn_looseDate_of_numericDate (h : numericDate.Leads a b) (hwhole : a.whole = text) :
    (whole Gate.looseDate).isIn text = true := by
  obtain ⟨hbare, hedges⟩ := Pattern.leads_whole.1 h
  exact Pattern.isIn_iff_leads.2
    ⟨a, b, hwhole, Pattern.leads_whole.2 ⟨looseDate_of_bareNumericDate hbare, hedges⟩⟩

/-- Where no loose date is, there are no numeric dates. -/
theorem numericDate_all_eq_nil (h : (whole Gate.looseDate).isIn text = false) :
    numericDate.all text = [] := by
  rw [List.eq_nil_iff_forall_not_mem]
  intro m hm
  obtain ⟨hwhole, hstop⟩ := Pattern.mem_reaches_of_mem_all hm
  rw [isIn_looseDate_of_numericDate (Pattern.leads_of_mem_reaches hstop) hwhole] at h
  cases h

/-- Gaps make word boundaries of both ends of the first date of a range. -/
theorem isIn_looseDate_of_fromTo (h : fromTo.isIn text = true) :
    (whole Gate.looseDate).isIn text = true := by
  obtain ⟨a, b, hwhole, hleads⟩ := Pattern.isIn_iff_leads.1 h
  obtain ⟨hphrase, -, -⟩ := Pattern.leads_whole.1 hleads
  obtain ⟨m, n, hfrom, hgap, hrest⟩ := Pattern.leads_phrase_cons.1 hphrase
  obtain ⟨o, p, hdate, hgap', -⟩ := Pattern.leads_phrase_cons.1 hrest
  have hbare : bareNumericDate.Leads n o := hdate
  have hstop := Pattern.atWordEdge_before_gap hgap' (by decide) hbare
  have hloose := looseDate_of_bareNumericDate hbare
  refine Pattern.isIn_whole_behind_gap ?_ hgap (by decide) hloose hstop
  rw [Pattern.whole_of_leads hfrom, hwhole]

theorem number?_eq_some {s : List Char} {n : Nat} (h : number? s = some n) :
    (∀ c ∈ s, c.isDigit = true) ∧ Layout.digitsValue s = n := by
  simp only [number?, Decimal.natUpTo?, Bool.or_eq_true, Bool.not_eq_true'] at h
  split at h
  · cases h
  · next hdigits =>
    rw [not_or, Bool.not_eq_false] at hdigits
    split at h
    · exact ⟨List.all_eq_true.1 hdigits.2, Option.some.inj h⟩
    · cases h

/-- The first group of an ISO date is the numeral of its year, as far as the year is one from 2024
to 2026. -/
theorem group_of_isoDateOf? {m : Match} {d : Date} (hlength : (m.group 1).length = 4)
    (hd : isoDateOf? m = some d) (hyear : 2024 ≤ d.year ∧ d.year ≤ 2026) :
    ∃ y, (2024 ≤ y ∧ y ≤ 2026) ∧ m.group 1 = numeral y := by
  unfold isoDateOf? at hd
  split at hd
  · next y mo day hy _ _ =>
    obtain ⟨hdigits, hvalue⟩ := number?_eq_some hy
    have hyear' : d.year = y := (Date.eq_of_ofCivil? hd).1
    have hy : 2024 ≤ y ∧ y ≤ 2026 := by omega
    refine ⟨y, hy, Decimal.eq_of_digitsValue ?_ hdigits
      (fun c hc => Decimal.isDigit_of_mem_numeral hc) ?_⟩
    · -- the numerals of these years have four digits too
      rw [hlength]
      obtain rfl | rfl | rfl : y = 2024 ∨ y = 2025 ∨ y = 2026 := by omega
      all_goals rfl
    · rw [hvalue, Decimal.digitsValue_numeral]
  · cases hd

/-- An ISO date of a year from 2024 to 2026 has such a year in it. -/
theorem isIn_yearWord_of_isoDate {m : Match} {d : Date} (hm : m ∈ isoDate.all text)
    (hd : readIsoDate? m.text = some d) (hyear : 2024 ≤ d.year ∧ d.year ≤ 2026) :
    yearWord.isIn text = true := by
  obtain ⟨m', hfind, hdate⟩ := Option.bind_eq_some_iff.1 hd
  obtain ⟨hwhole, hstop⟩ := Pattern.mem_reaches_of_find? hfind
  obtain ⟨hstop, hedge, -⟩ := Pattern.mem_reaches_whole hstop
  have hbefore := Pattern.before_of_atWordEdge hedge
    (Pattern.after_of_startsInWord (by decide) (Pattern.leads_of_mem_reaches hstop))
  -- the first group reads the year and a hyphen follows
  rw [Pattern.inOrder_cons] at hstop
  obtain ⟨hdescribes, rest, hafter, n, ⟨c, hc, hrest, -⟩, -⟩ :=
    Pattern.group_of_mem_reaches (by decide) hstop
  obtain rfl : c = '-' := beq_iff_eq.1 hc
  have hhyphen : rest.head?.any Text.isWordChar = false := by
    simp only at hrest
    rw [hrest]
    rfl
  have hlength : (m'.group 1).length = 4 := by
    -- the pattern of the group asks for four digits one by one
    obtain ⟨_, _, h₁, ⟨_, rfl, -⟩, _, _, rfl, ⟨_, rfl, -⟩, _, _, rfl, ⟨_, rfl, -⟩, _, rfl, -⟩ :=
      hdescribes
    rw [h₁]
    rfl
  obtain ⟨y, hy, hgroup⟩ := group_of_isoDateOf? hlength hdate hyear
  have hapart : Text.StandsApart (numeral y) (Text.trim m.text) := by
    refine ⟨m'.start.before, rest, ?_, hbefore, hhyphen⟩
    rw [← hwhole, Place.whole, hafter, hgroup, List.append_assoc]
  -- the date was searched for again in the match without its outer blanks
  have hmatch : Text.StandsApart m.text text :=
    Pattern.standsApart_of_mem_all (by decide) (by decide) hm
  exact isIn_yearWord_iff.2
    ⟨y, hy, (hapart.trans (Text.standsApart_trim m.text)).trans hmatch⟩

/-! ## Months and periods -/

theorem admits_of_monthAndYear (h : monthAndYear.isIn text = true) : Gate.admits text = true := by
  obtain ⟨a, b, hwhole, m, hmonth, -⟩ := Pattern.isIn_iff_leads.1 h
  -- the year behind the month need not be looked at
  have hword : (whole monthWord).isIn text = true :=
    Pattern.isIn_iff_leads.2 ⟨a, m, hwhole, hmonth⟩
  exact Gate.admits_of_sign (by simp [Gate.signs]) hword

/-- The last word of a phrase is a whole word of the text. -/
theorem isIn_whole_of_phrase {p q : Pattern} (hq : q.startsInWord = true)
    (h : (whole (.phrase [p, q])).isIn text = true) : (whole q).isIn text = true := by
  obtain ⟨a, b, hwhole, hleads⟩ := Pattern.isIn_iff_leads.1 h
  obtain ⟨hphrase, -, hstop⟩ := Pattern.leads_whole.1 hleads
  obtain ⟨m, n, hp, hgap, hlast⟩ := Pattern.leads_phrase_cons.1 hphrase
  refine Pattern.isIn_whole_behind_gap ?_ hgap hq hlast hstop
  rw [Pattern.whole_of_leads hp, hwhole]

/-- Every phrase for a period ends with a word that lets a message pass. -/
theorem admits_of_periodPhrase : ∀ p ∈ periodPhrases, p.2.isIn text = true →
    Gate.admits text = true := by
  have hword : ∀ w ∈ Gate.dateWords, (word w).isIn text = true → Gate.admits text = true :=
    fun w hw => Gate.admits_of_word (by simp [Gate.words, hw])
  have hphrase : ∀ p, ∀ w ∈ Gate.dateWords, (Pattern.spelled w).startsInWord = true →
      (whole (.phrase [p, .spelled w])).isIn text = true → Gate.admits text = true :=
    fun p w hw hstart h => hword w hw (isIn_whole_of_phrase hstart h)
  simp only [periodPhrases, List.forall_mem_cons, List.not_mem_nil, false_imp_iff, implies_true,
    and_true]
  exact ⟨hword "today" (by decide), hword "yesterday" (by decide),
    hphrase _ "month" (by decide) (by decide), hphrase _ "month" (by decide) (by decide),
    hphrase _ "week" (by decide) (by decide), hphrase _ "week" (by decide) (by decide),
    hphrase _ "year" (by decide) (by decide), hphrase _ "year" (by decide) (by decide)⟩

/-- The last so many days, in the singular. -/
def lastDayPhrase : Pattern :=
  .whole (.phrase
    [.oneOfWords ["last", "past", "previous"], .capture 1 (.upToMore 3 .digit), .spelled "day"])

/-- In the plural they let a message pass. -/
theorem admits_or_lastDayPhrase (h : lastDaysPhrase.isIn text = true) :
    Gate.admits text = true ∨ lastDayPhrase.isIn text = true := by
  obtain ⟨a, b, hwhole, hleads⟩ := Pattern.isIn_iff_leads.1 h
  obtain ⟨hphrase, hstart, hstop⟩ := Pattern.leads_whole.1 hleads
  obtain ⟨m, n, hlast, hgap, hrest⟩ := Pattern.leads_phrase_cons.1 hphrase
  obtain ⟨o, p, hnumber, hgap', hunit⟩ := Pattern.leads_phrase_cons.1 hrest
  rcases Pattern.leads_plural.1 hunit with hday | hdays
  · -- the same words with the unit in the singular
    refine .inr (Pattern.isIn_iff_leads.2 ⟨a, b, hwhole, Pattern.leads_whole.2 ⟨?_, hstart, hstop⟩⟩)
    exact Pattern.leads_phrase_cons.2 ⟨m, n, hlast, hgap,
      Pattern.leads_phrase_cons.2 ⟨o, p, hnumber, hgap', hday⟩⟩
  · -- the unit in the plural is a word that lets a message pass
    have hwhole' : o.whole = text := by
      rw [Pattern.whole_of_leads hnumber, Pattern.whole_of_leads hgap,
        Pattern.whole_of_leads hlast, hwhole]
    have hword : (word "days").isIn text = true :=
      Pattern.isIn_whole_behind_gap hwhole' hgap' (by decide) hdays hstop
    exact .inl (Gate.admits_of_word (by decide) hword)

/-! ## All kinds -/

/-- The dates that a message may be about without passing the gate for it: a day of a year that is
none of 2024 to 2026, written the ISO way, and the last so many days in the singular. -/
def IsOverlooked (text : List Char) : DatePhrase → Prop
  | day d => ¬(2024 ≤ d.year ∧ d.year ≤ 2026) ∧ ∃ m ∈ isoDate.all text, readIsoDate? m.text = some d
  | relative (.lastDays _) _ => lastDayPhrase.isIn text = true
  | _ => False

/-- A message with a range of dates is admitted. -/
theorem admits_of_findRange? {p : DatePhrase} (h : findRange? text = some p) :
    Gate.admits text = true := by
  obtain ⟨dates, hdates, -⟩ := Option.map_eq_some_iff.1 h
  have hin : fromTo.isIn text = true := by
    rw [Pattern.isIn, Option.isSome_iff_ne_none]
    intro hnone
    simp [endpoints?, hnone] at hdates
  exact Gate.admits_of_sign (by simp [Gate.signs]) (isIn_looseDate_of_fromTo hin)

/-- A message with a day is admitted unless the day is overlooked. -/
theorem admits_of_findDay? {p : DatePhrase} (h : findDay? text = some p) :
    Gate.admits text = true ∨ IsOverlooked text p := by
  obtain ⟨d, hd, rfl⟩ := Option.map_eq_some_iff.1 h
  rcases Option.or_eq_some_iff.1 hd with hnumeric | ⟨-, hiso⟩
  · obtain ⟨m, hm, -⟩ := List.exists_of_findSome?_eq_some hnumeric
    obtain ⟨hwhole, hstop⟩ := Pattern.mem_reaches_of_mem_all hm
    exact .inl (Gate.admits_of_sign (by simp [Gate.signs])
      (isIn_looseDate_of_numericDate (Pattern.leads_of_mem_reaches hstop) hwhole))
  · obtain ⟨m, hm, hdate⟩ := List.exists_of_findSome?_eq_some hiso
    by_cases hyear : 2024 ≤ d.year ∧ d.year ≤ 2026
    · exact .inl (Gate.admits_of_sign (by simp [Gate.signs])
        (isIn_yearWord_of_isoDate hm hdate hyear))
    · exact .inr ⟨hyear, m, hm, hdate⟩

theorem admits_of_findMonth? {p : DatePhrase} (h : findMonth? text = some p) :
    Gate.admits text = true := by
  apply admits_of_monthAndYear
  rw [Pattern.isIn, Option.isSome_iff_ne_none]
  intro hnone
  simp [findMonth?, hnone] at h

theorem admits_of_findYear? {p : DatePhrase} (h : findYear? text = some p) :
    Gate.admits text = true := by
  obtain ⟨y, hy, -⟩ := Option.map_eq_some_iff.1 h
  obtain ⟨m, hm, -⟩ := Option.bind_eq_some_iff.1 hy
  have hleft : yearWord.isIn (withoutDates text) = true := by rw [Pattern.isIn, hm]; rfl
  exact Gate.admits_of_sign (by simp [Gate.signs]) (isIn_yearWord_of_withoutDates hleft)

/-- A message with a relative period is admitted unless the period is overlooked. -/
theorem admits_of_findRelative? {p : DatePhrase} {now : Moment}
    (h : findRelative? text now = some p) : Gate.admits text = true ∨ IsOverlooked text p := by
  unfold findRelative? at h
  split at h
  · next period hperiod =>
    obtain ⟨w, -, rfl⟩ := Option.map_eq_some_iff.1 h
    unfold period? at hperiod
    split at hperiod
    · next q phrase hfind =>
      obtain ⟨hin, -⟩ := List.find?_eq_some_iff_append.1 hfind
      exact .inl (admits_of_periodPhrase _ (List.mem_of_find?_eq_some hfind) hin)
    · obtain ⟨m, hm, hnumber⟩ := Option.bind_eq_some_iff.1 hperiod
      obtain ⟨n, -, rfl⟩ := Option.map_eq_some_iff.1 hnumber
      exact admits_or_lastDayPhrase (by rw [Pattern.isIn, hm]; rfl)
  · cases h

/-- A message that is about some dates passes the gate, unless it says so by a phrase that the gate
overlooks. -/
theorem admits_or_overlooked {p : DatePhrase} {now : Moment} (h : find? text now = some p) :
    Gate.admits text = true ∨ IsOverlooked text p := by
  simp only [find?, Option.or_eq_some_iff] at h
  rcases h with (((hrange | ⟨-, hday⟩) | ⟨-, hmonth⟩) | ⟨-, hyear⟩) | ⟨-, hrelative⟩
  · exact .inl (admits_of_findRange? hrange)
  · exact admits_of_findDay? hday
  · exact .inl (admits_of_findMonth? hmonth)
  · exact .inl (admits_of_findYear? hyear)
  · exact admits_of_findRelative? hrelative

end DatePhrase

end AskLedger
