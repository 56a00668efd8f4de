import AskLedger.Proofs.GateDates
import AskLedger.Proofs.WrittenMoments

/-!
# Dates that the gate overlooks

An ISO date on its own passes the gate only if its year is one from 2024 to 2026, and a message for
the last so many days in the singular does not pass at all, although both are understood. So the two
exceptions of `DatePhrase.admits_or_overlooked` are real, for every day and every number of days.

* `DatePhrase.find?_written`, `DatePhrase.admits_written`: an ISO date on its own.
* `DatePhrase.find?_lastDayText`, `DatePhrase.not_admits_lastDayText`: the last days in the
  singular.
-/

namespace AskLedger

open Decimal (numeral length_numeral_le)
open Pattern (whole)

/-! ## ISO dates -/

namespace DatePhrase

/-- A padded number is read with its value. -/
theorem number?_padded {width n : Nat} (hn : n ≤ 4294967295) :
    number? (padded width n).toList = some n := by
  have hne : (padded width n).toList ≠ [] := by
    rw [toList_padded]
    exact List.append_ne_nil_of_right_ne_nil _ (Decimal.numeral_ne_nil n)
  have hall : (padded width n).toList.all Char.isDigit = true :=
    List.all_eq_true.2 isDigit_of_mem_padded
  simp [number?, Decimal.natUpTo?, hne, hall, digitsValue_padded, hn]

/-- A short number has one or two digits. -/
theorem shortNumber_describes {s : List Char} (h : shortNumber.Describes s) :
    s.length ≤ 2 ∧ ∀ c ∈ s, Text.isDigit c = true := by
  obtain ⟨_, _, rfl, ⟨c, rfl, hc⟩, ⟨d, rfl, hd⟩ | rfl⟩ := h
  · exact ⟨by simp, by simpa [CharKind.accepts] using ⟨hc, hd⟩⟩
  · exact ⟨by simp, by simpa [CharKind.accepts] using hc⟩

/-- Digits and separators are different characters. -/
theorem not_separator_of_isDigit {c : Char} (h : Text.isDigit c = true) :
    (CharKind.oneOf ['-', '/']).accepts c = false := by
  rw [Bool.eq_false_iff]
  intro hc
  have hchar : c = '-' ∨ c = '/' := by simpa [CharKind.accepts] using hc
  rcases hchar with rfl | rfl
  · cases h
  · cases h

/-- A text with two separators in all cannot be divided in different ways in front of the first. -/
theorem front_eq_of_separators {p : Char → Bool} {front rest rest' ys ms ds : List Char}
    {c c' d d' : Char} (hys : ∀ e ∈ ys, p e = false) (hms : ∀ e ∈ ms, p e = false)
    (hds : ∀ e ∈ ds, p e = false) (hc : p c = true) (hc' : p c' = true) (hd : p d = true)
    (hd' : p d' = true)
    (h : front ++ c :: (rest ++ c' :: rest') = ys ++ d :: (ms ++ d' :: ds)) : front = ys := by
  have hzero : ∀ {s : List Char}, (∀ e ∈ s, p e = false) → s.countP p = 0 :=
    fun hs => List.countP_eq_zero.2 fun e he => by simp [hs e he]
  -- the two separators that are shown are all there are, so none is in the front
  have hcount := congrArg (List.countP p) h
  simp only [List.countP_append, List.countP_cons, hc, hc', hd, hd', if_true, hzero hys, hzero hms,
    hzero hds] at hcount
  have hfront : ∀ e ∈ front, (!p e) = true := by
    have hnone : front.countP p = 0 := by omega
    intro e he
    simpa using List.countP_eq_zero.1 hnone e he
  have hys' : ∀ e ∈ ys, (!p e) = true := fun e he => by simp [hys e he]
  -- both are what stands in front of the first separator
  have htake := congrArg (List.takeWhile fun e => !p e) h
  rwa [List.takeWhile_append_of_pos hfront, List.takeWhile_append_of_pos hys',
    List.takeWhile_cons_of_neg (by simp [hc]), List.takeWhile_cons_of_neg (by simp [hd]),
    List.append_nil, List.append_nil] at htake

theorem isDigit_of_asciiDigit {c : Char} (h : c.isDigit = true) : Text.isDigit c = true := by
  have hall : ∀ d ∈ Decimal.digits, Text.isDigit d = true := Text.forall_of_all (by decide)
  exact hall c (Decimal.mem_digits_of_isDigit h)

section
variable {ys ms ds : List Char} (hys : ∀ c ∈ ys, c.isDigit = true)
  (hms : ∀ c ∈ ms, c.isDigit = true) (hds : ∀ c ∈ ds, c.isDigit = true)

include hys hms hds

/-- In a text with two hyphens no numeric date starts with the first digits if these are more than
two, and none starts later, since two separators have to follow its start. -/
theorem isIn_looseDate_eq_false (hlength : 2 < ys.length) :
    (whole Gate.looseDate).isIn (ys ++ '-' :: (ms ++ '-' :: ds)) = false := by
  rw [Bool.eq_false_iff, Ne, Pattern.isIn_iff_leads]
  rintro ⟨a, b, hwhole, hleads⟩
  obtain ⟨hbefore, -⟩ := Pattern.outside_of_leads_whole (by decide) (by decide) hleads
  obtain ⟨s, ⟨x, _, rfl, hx, _, _, rfl, ⟨c, rfl, hc⟩, y, _, rfl, hy, _, z, rfl, ⟨c', rfl, hc'⟩, hz⟩,
    hafter, -⟩ := Pattern.exists_stretch_of_leads (Pattern.leads_whole.1 hleads).1
  obtain ⟨hxlength, hxdigits⟩ := shortNumber_describes hx
  rw [Place.whole, hafter] at hwhole
  have hfront : a.before.reverse ++ x = ys := by
    have hnone : ∀ {s : List Char}, (∀ e ∈ s, e.isDigit = true) →
        ∀ e ∈ s, (CharKind.oneOf ['-', '/']).accepts e = false :=
      fun hs e he => not_separator_of_isDigit (isDigit_of_asciiDigit (hs e he))
    have hhyphen : (CharKind.oneOf ['-', '/']).accepts '-' = true := rfl
    have htext : (a.before.reverse ++ x) ++ c :: (y ++ c' :: (z ++ b.after)) =
        ys ++ '-' :: (ms ++ '-' :: ds) := by simpa using hwhole
    exact front_eq_of_separators (hnone hys) (hnone hms) (hnone hds) hc hc' hhyphen hhyphen htext
  -- the front can hold no digit next to the date, so it is empty
  cases hfrontEq : a.before with
  | nil =>
    rw [hfrontEq] at hfront
    rw [List.reverse_nil, List.nil_append] at hfront
    rw [hfront] at hxlength
    omega
  | cons d front =>
    have hd : d ∈ ys := by
      rw [← hfront, hfrontEq]
      simp
    have hword := Text.isWordChar_of_isDigit (isDigit_of_asciiDigit (hys d hd))
    simp [hfrontEq, hword] at hbefore

/-- An ISO date is read to its end. -/
theorem head?_reaches_isoDate (hy : ys.length = 4) (hm : ms.length = 2) (hd : ds.length = 2) :
    (isoDate.reaches ⟨⟨[], ys ++ '-' :: (ms ++ '-' :: ds)⟩, []⟩).head? =
      some ⟨⟨(ys ++ '-' :: (ms ++ '-' :: ds)).reverse, []⟩,
        [⟨3, 8, ds⟩, ⟨2, 5, ms⟩, ⟨1, 0, ys⟩]⟩ := by
  -- with the lengths known the search can be run on the characters as they are
  match ys, hy with
  | [y₁, y₂, y₃, y₄], _ =>
  match ms, hm with
  | [m₁, m₂], _ =>
  match ds, hd with
  | [d₁, d₂], _ =>
  have hfacts : ∀ c : Char, c.isDigit = true →
      Text.isDigit c = true ∧ Text.isWordChar c = true ∧ (c == '-') = false := by
    intro c hc
    have hall : ∀ d ∈ Decimal.digits,
        Text.isDigit d = true ∧ Text.isWordChar d = true ∧ (d == '-') = false :=
      Text.forall_of_all (by decide)
    exact hall c (Decimal.mem_digits_of_isDigit hc)
  replace hys := fun c hc => hfacts c (hys c hc)
  replace hms := fun c hc => hfacts c (hms c hc)
  replace hds := fun c hc => hfacts c (hds c hc)
  simp only [List.mem_cons, List.not_mem_nil, or_false, forall_eq_or_imp, forall_eq] at hys hms hds
  simp [isoDate, whole, Pattern.inOrder, Pattern.exactly, List.replicate, shortNumber,
    Pattern.upToMore, Pattern.optional, Pattern.reaches, CharKind.accepts, Place.atWordEdge,
    Place.upTo, Place.offset, hys, hms, hds]

end

/-! ## Written dates -/

section
variable {d : Date} (hfour : 0 ≤ d.year ∧ d.year ≤ 9999)

include hfour

/-- A written date: year, month and day with hyphens between them. -/
theorem toList_written : d.written.toList = (padded 4 d.year.natAbs).toList ++
    '-' :: ((padded 2 d.month).toList ++ '-' :: (padded 2 d.day).toList) := by
  simp [Date.written, writtenYear, hfour]

theorem length_parts : (padded 4 d.year.natAbs).toList.length = 4 ∧
    (padded 2 d.month).toList.length = 2 ∧ (padded 2 d.day).toList.length = 2 := by
  have hcivil := d.isCivil
  have hdays := Date.daysIn_le d.year d.month
  -- the month and the day have two digits, since there are at most 12 and 31 of them
  exact ⟨length_padded (length_numeral_le (by decide) (by omega)),
    length_padded (length_numeral_le (by decide) (by omega)),
    length_padded (length_numeral_le (by decide) (by omega))⟩

theorem mem_isoChars : ∀ c ∈ d.written.toList, c ∈ "-0123456789".toList := by
  have hdigits : ∀ {width n}, ∀ c ∈ (padded width n).toList, c ∈ "-0123456789".toList := by
    intro width n c hc
    exact List.mem_cons_of_mem '-' (Decimal.mem_digits_of_isDigit (isDigit_of_mem_padded c hc))
  rw [toList_written hfour]
  simp only [List.forall_mem_append, List.forall_mem_cons]
  exact ⟨hdigits, List.mem_cons_self, hdigits, List.mem_cons_self, hdigits⟩

/-- Nothing is trimmed from a written date. -/
theorem trim_written : Text.trim d.written.toList = d.written.toList := by
  have hblank : ∀ c ∈ "-0123456789".toList, Text.isBlank c = false :=
    Text.forall_of_all (by decide)
  exact Text.trim_eq_self fun c hc => hblank c (mem_isoChars hfour c hc)

/-- It is the only thing read in it, to its end and with its three numbers. -/
theorem matchAt?_written :
    isoDate.matchAt? ⟨[], d.written.toList⟩ =
      some ⟨⟨[], d.written.toList⟩, ⟨⟨d.written.toList.reverse, []⟩,
        [⟨3, 8, (padded 2 d.day).toList⟩, ⟨2, 5, (padded 2 d.month).toList⟩,
          ⟨1, 0, (padded 4 d.year.natAbs).toList⟩]⟩⟩ := by
  obtain ⟨hy, hm, hd⟩ := length_parts hfour
  rw [Pattern.matchAt?, toList_written hfour, head?_reaches_isoDate isDigit_of_mem_padded
    isDigit_of_mem_padded isDigit_of_mem_padded hy hm hd, Option.map_some]

/-- A written date is read back. -/
theorem readIsoDate?_written : readIsoDate? d.written.toList = some d := by
  have hcivil := d.isCivil
  have hdays := Date.daysIn_le d.year d.month
  have hyear : number? (padded 4 d.year.natAbs).toList = some d.year.natAbs :=
    number?_padded (by omega)
  have hmonth : number? (padded 2 d.month).toList = some d.month := number?_padded (by omega)
  have hday : number? (padded 2 d.day).toList = some d.day := number?_padded (by omega)
  have habs : (d.year.natAbs : Int) = d.year := Int.natAbs_of_nonneg hfour.1
  rw [readIsoDate?, trim_written hfour, Pattern.find?,
    Pattern.findFrom?_eq_some (matchAt?_written hfour)]
  simp [isoDateOf?, Match.group, Match.capture?, hyear, hmonth, hday, habs]

/-- No numeric date of the other kind can be read in it. -/
theorem isIn_looseDate_written : (whole Gate.looseDate).isIn d.written.toList = false := by
  obtain ⟨hy, -⟩ := length_parts hfour
  rw [toList_written hfour]
  exact isIn_looseDate_eq_false isDigit_of_mem_padded isDigit_of_mem_padded isDigit_of_mem_padded
    (by omega)

/-- A written date is found as that day. -/
theorem find?_written (now : Moment) : find? d.written.toList now = some (day d) := by
  have hloose := isIn_looseDate_written hfour
  have hrange : findRange? d.written.toList = none := by
    have hfromTo : fromTo.find? d.written.toList = none := by
      rw [← Option.not_isSome_iff_eq_none]
      intro hin
      rw [isIn_looseDate_of_fromTo hin] at hloose
      cases hloose
    simp [findRange?, endpoints?, hfromTo]
  have hne : d.written.toList ≠ [] := by
    rw [toList_written hfour]
    simp
  -- whatever else is matched comes after the date itself
  obtain ⟨others, hall⟩ := Pattern.all_eq_cons hne (matchAt?_written hfour)
  have htext : Match.text ⟨⟨[], d.written.toList⟩, ⟨⟨d.written.toList.reverse, []⟩,
      [⟨3, 8, (padded 2 d.day).toList⟩, ⟨2, 5, (padded 2 d.month).toList⟩,
        ⟨1, 0, (padded 4 d.year.natAbs).toList⟩]⟩⟩ = d.written.toList := by
    simp [Match.text, Place.upTo, Place.offset]
  have hday : findDay? d.written.toList = some (day d) := by
    rw [findDay?, numericDate_all_eq_nil hloose, hall, List.findSome?_nil, Option.none_or,
      List.findSome?_cons, htext, readIsoDate?_written hfour]
    rfl
  simp [find?, hrange, hday]

/-- It has a year from 2024 to 2026 only if that is its year. -/
theorem isIn_yearWord_written (hyear : ¬(2024 ≤ d.year ∧ d.year ≤ 2026)) :
    yearWord.isIn d.written.toList = false := by
  obtain ⟨hy, hm, hd⟩ := length_parts hfour
  rw [Bool.eq_false_iff, Ne, isIn_yearWord_iff]
  rintro ⟨y, hyears, before, after, htext, -⟩
  have hlength : (numeral y).length = 4 := by
    obtain rfl | rfl | rfl : y = 2024 ∨ y = 2025 ∨ y = 2026 := by omega
    all_goals rfl
  have hno : '-' ∉ numeral y := fun hmem => by
    cases Decimal.isDigit_of_mem_numeral hmem
  have hinfix : numeral y <:+: d.written.toList := ⟨before.reverse, after, htext.symm⟩
  rw [toList_written hfour] at hinfix
  -- four digits in a row can only be those of the year
  rcases Pattern.infix_of_infix_append_cons hinfix hno with hinfix | hinfix
  · have heq : numeral y = (padded 4 d.year.natAbs).toList :=
      hinfix.eq_of_length (by rw [hlength, hy])
    have hvalue := Decimal.digitsValue_numeral y
    rw [heq, digitsValue_padded] at hvalue
    omega
  · rcases Pattern.infix_of_infix_append_cons hinfix hno with hinfix | hinfix
    · have hle := hinfix.length_le
      omega
    · have hle := hinfix.length_le
      omega

/-- A written date passes the gate exactly if its year is one from 2024 to 2026. -/
theorem admits_written :
    Gate.admits d.written.toList = true ↔ 2024 ≤ d.year ∧ d.year ≤ 2026 := by
  constructor
  · intro hadmits
    by_contra hyear
    have hothers : ∀ p ∈ [yearWord, whole Gate.looseDate], p.isIn d.written.toList = false := by
      simp only [List.forall_mem_cons]
      exact ⟨isIn_yearWord_written hfour hyear, isIn_looseDate_written hfour, by simp⟩
    have hrefused : Gate.admits d.written.toList = false :=
      Gate.not_admits_of_chars (mem_isoChars hfour) hothers (by decide)
    rw [hrefused] at hadmits
    cases hadmits
  · -- it is understood, and no other kind of phrase is overlooked
    intro hyear
    rcases admits_or_overlooked (find?_written hfour (.startOf d)) with h | ⟨h, -⟩
    · exact h
    · exact absurd hyear h

end

/-! ## The last days in the singular -/

section
variable {n : Nat}

/-- The message that asks for the last `n` days, in the singular. -/
def lastDayText (n : Nat) : List Char := ("last " ++ toString n ++ " day").toList

/-- The characters of such messages. -/
def lastDayChars : List Char := "last day0123456789".toList

theorem lastDayText_eq (n : Nat) :
    lastDayText n = "last ".toList ++ (numeral n ++ " day".toList) := by
  simp only [lastDayText, String.toList_append, Decimal.numeral_eq_toString, List.append_assoc]

/-- A pattern that cannot read the characters of such messages is in none of them. -/
theorem absent_lastDayText {p : Pattern} (h : p.cannotRead lastDayChars = true) :
    p.IsAbsent (lastDayText n) := by
  have hfront : ∀ c ∈ "last ".toList, c ∈ lastDayChars := Text.forall_of_all (by decide)
  have hdigits : ∀ c ∈ numeral n, c ∈ lastDayChars := Decimal.forall_mem_numeral (by decide) n
  have hback : ∀ c ∈ " day".toList, c ∈ lastDayChars := Text.forall_of_all (by decide)
  apply Pattern.isAbsent_of_cannotRead h
  rw [lastDayText_eq]
  exact List.forall_mem_append.2 ⟨hfront, List.forall_mem_append.2 ⟨hdigits, hback⟩⟩

/-- Nor is one without blanks that can read neither of the two words nor a number. -/
theorem absent_lastDayText_of_words {p : Pattern} (hblank : p.cannotContain ' ' = true)
    (hlast : p.cannotRead "last".toList = true) (hdigits : p.cannotRead Decimal.digits = true)
    (hday : p.cannotRead "day".toList = true) : p.IsAbsent (lastDayText n) := by
  have hnumeral : ∀ c ∈ numeral n, c ∈ Decimal.digits :=
    fun c hc => Decimal.mem_digits_of_isDigit (Decimal.isDigit_of_mem_numeral hc)
  have htext : lastDayText n = "last".toList ++ ' ' :: (numeral n ++ ' ' :: "day".toList) := by
    rw [lastDayText_eq]
    rfl
  rw [htext]
  exact Pattern.isAbsent_append_cons hblank (Pattern.isAbsent_of_cannotRead hlast fun _ h => h)
    (Pattern.isAbsent_append_cons hblank (Pattern.isAbsent_of_cannotRead hdigits hnumeral)
      (Pattern.isAbsent_of_cannotRead hday fun _ h => h))

/-- Unless it is one of the years, the number of days is no year. -/
theorem isIn_yearWord_lastDayText (hn : ¬(2024 ≤ n ∧ n ≤ 2026)) :
    yearWord.isIn (lastDayText n) = false := by
  have hstart : ∀ c ∈ "last ".toList, yearWord.cannotStart c = true :=
    Text.forall_of_all (by decide)
  have hback : yearWord.cannotRead " day".toList = true := by decide
  rw [lastDayText_eq]
  exact isIn_yearWord_eq_false hstart rfl (Pattern.isAbsent_of_cannotRead hback fun _ h => h) hn

/-- A message for the last days in the singular does not pass the gate, unless their number is a
year. -/
theorem not_admits_lastDayText (hn : ¬(2024 ≤ n ∧ n ≤ 2026)) :
    Gate.admits (lastDayText n) = false := by
  -- the letters would spell `days`, but none of the three words does
  have hcannot : ∀ p ∈ Gate.signs ++ Category.all.map Category.mention,
      p = yearWord ∨ p.cannotRead lastDayChars = true ∨
        (p.cannotContain ' ' = true ∧ p.cannotRead "last".toList = true ∧
          p.cannotRead Decimal.digits = true ∧ p.cannotRead "day".toList = true) := by
    decide
  apply Gate.not_admits
  intro p hp
  rcases hcannot p hp with rfl | h | ⟨hblank, hlast, hdigits, hday⟩
  · exact isIn_yearWord_lastDayText hn
  · exact (absent_lastDayText h).isIn
  · exact (absent_lastDayText_of_words hblank hlast hdigits hday).isIn

/-- The phrase for the last days reads the number. -/
theorem reaches_lastDaysPhrase (hn : n ≤ 9999) :
    lastDaysPhrase.reaches ⟨⟨[], "last ".toList ++ (numeral n ++ " day".toList)⟩, []⟩ =
      [⟨⟨"day".toList.reverse ++ ' ' :: ((numeral n).reverse ++ "last ".toList.reverse), []⟩,
        [⟨1, 5, numeral n⟩]⟩] := by
  -- the word, the number and the unit, with the gaps between them
  have hparts : Pattern.phrase [.oneOfWords ["last", "past", "previous"],
      .capture 1 (.upToMore 3 .digit), .plural "day"] =
      .both (.oneOfWords ["last", "past", "previous"]) (.both .gap
        (.both (.capture 1 (.upToMore 3 .digit)) (.both .gap (.plural "day")))) := rfl
  have hlast : (Pattern.oneOfWords ["last", "past", "previous"]).reaches
      ⟨⟨[], "last ".toList ++ (numeral n ++ " day".toList)⟩, []⟩ =
      [⟨⟨"last".toList.reverse, ' ' :: (numeral n ++ " day".toList)⟩, []⟩] := rfl
  have hnumber : (Pattern.upToMore 3 .digit).ReadsWhole (numeral n) " day".toList := by
    refine Pattern.readsWhole_upToMore (Decimal.numeral_ne_nil n) ?_ Text.isDigit_of_mem_numeral ?_
    · exact length_numeral_le (by decide) (by omega)
    · rintro _ ⟨⟩
      rfl
  rw [lastDaysPhrase, whole, Pattern.inOrder_cons, Pattern.reaches_edge_both_of_edge rfl,
    Pattern.inOrder_cons, hparts, Pattern.reaches_both_assoc,
    Pattern.reaches_both_of_singleton hlast, Pattern.reaches_both_assoc,
    Pattern.reaches_both_of_singleton (Pattern.reaches_gap Decimal.isBlank_of_mem_head?),
    Pattern.reaches_both_assoc, Pattern.reaches_capture_both hnumber, Pattern.reaches_both_assoc]
  · have hday : (Pattern.spelled "day").reaches
        ⟨⟨' ' :: ((numeral n).reverse ++ "last ".toList.reverse), "day".toList⟩,
          [⟨1, 5, numeral n⟩]⟩ =
        [⟨⟨"day".toList.reverse ++ ' ' :: ((numeral n).reverse ++ "last ".toList.reverse), []⟩,
          [⟨1, 5, numeral n⟩]⟩] := Pattern.reaches_spelled "day"
    have hletter : ∀ c ∈ "day".toList.head?, Text.isBlank c = false := by
      rintro _ ⟨⟩
      rfl
    have hgap := @Pattern.reaches_gap ((numeral n).reverse ++ "last ".toList.reverse) "day".toList
      [⟨1, 5, numeral n⟩] hletter
    refine (Pattern.reaches_both_of_singleton hgap).trans ?_
    rw [Pattern.plural, Pattern.reaches_both_assoc, Pattern.reaches_both_of_singleton hday]
    exact Pattern.reaches_optional_edge_end rfl rfl
  · -- no gap starts inside the number
    intro a c b captures hsplit _
    have hstart : ∀ c ∈ numeral n,
        Pattern.cannotStart c (.both (.both .gap (.plural "day")) .edge) = true :=
      Decimal.forall_mem_numeral (by decide) n
    exact Pattern.reaches_eq_nil_of_cannotStart (hstart c (by rw [hsplit]; simp))

/-- The message is about the last days. -/
theorem period?_lastDayText (hn : n ≤ 9999) : period? (lastDayText n) = some (.lastDays n) := by
  have hcannot : ∀ p ∈ periodPhrases, p.2.cannotRead lastDayChars = true := by decide
  have hnone : (periodPhrases.find? fun p => p.2.isIn (lastDayText n)) = none := by
    rw [List.find?_eq_none]
    intro p hp
    simp [(absent_lastDayText (hcannot p hp)).isIn]
  have hmatch := Pattern.matchAt?_eq_some (reaches_lastDaysPhrase hn)
  rw [← lastDayText_eq] at hmatch
  have hnumber : number? (numeral n) = some n := Decimal.natUpTo?_numeral (by omega)
  simp [period?, hnone, Pattern.find?, Pattern.findFrom?_eq_some hmatch, Match.group,
    Match.capture?, hnumber]

/-- A message for the last days in the singular is about them, unless their number is a year. -/
theorem find?_lastDayText {now : Moment} {w : Window} (hn : n ≤ 9999)
    (hyear : ¬(2024 ≤ n ∧ n ≤ 2026)) (hw : (Period.lastDays n).window? now = some w) :
    find? (lastDayText n) now = some (relative (.lastDays n) w) := by
  -- none of the phrases for a day can be read from the characters of this text
  have hcannot : ∀ p ∈ [fromTo, numericDate, isoDate, monthAndYear],
      p.cannotRead lastDayChars = true := by decide
  have habsent : ∀ p ∈ [fromTo, numericDate, isoDate, monthAndYear], p.IsAbsent (lastDayText n) :=
    fun p hp => absent_lastDayText (hcannot p hp)
  simp only [List.forall_mem_cons] at habsent
  obtain ⟨hfromTo, hnumeric, hiso, hmonth, -⟩ := habsent
  have hrange : findRange? (lastDayText n) = none := by
    simp [findRange?, endpoints?, hfromTo.find?]
  have hday : findDay? (lastDayText n) = none := by
    simp [findDay?, hnumeric.all, hiso.all]
  have hnoMonth : findMonth? (lastDayText n) = none := by
    simp [findMonth?, hmonth.find?]
  have hnoYear : findYear? (lastDayText n) = none := by
    have hfind : yearWord.find? (lastDayText n) = none :=
      Option.not_isSome_iff_eq_none.1 (Bool.eq_false_iff.1 (isIn_yearWord_lastDayText hyear))
    rw [findYear?, bareYear?, withoutDates, hnumeric.replaceAll, hiso.replaceAll, hfind]
    rfl
  simp [find?, hrange, hday, hnoMonth, hnoYear, findRelative?, period?_lastDayText hn, hw]

end

/-! ## What passes -/

/-- A message that is about some dates passes the gate, unless they are a day of a year that is none
of 2024 to 2026, written the ISO way, or the last so many days in the singular. On its own every
such day and every such number of days is understood but does not pass. -/
theorem dates_pass (now : Moment) :
    (∀ text p, find? text now = some p → Gate.admits text = true ∨ IsOverlooked text p) ∧
    (∀ d : Date, 0 ≤ d.year ∧ d.year ≤ 9999 →
      find? d.written.toList now = some (day d) ∧
        (Gate.admits d.written.toList = true ↔ 2024 ≤ d.year ∧ d.year ≤ 2026)) ∧
    (∀ n w, n ≤ 9999 → ¬(2024 ≤ n ∧ n ≤ 2026) → (Period.lastDays n).window? now = some w →
      find? (lastDayText n) now = some (relative (.lastDays n) w) ∧
        Gate.admits (lastDayText n) = false) := by
  refine ⟨fun _ _ => admits_or_overlooked, fun d hfour => ⟨?_, ?_⟩,
    fun n w hn hyear hw => ⟨?_, ?_⟩⟩
  · exact find?_written hfour now
  · exact admits_written hfour
  · exact find?_lastDayText hn hyear hw
  · exact not_admits_lastDayText hyear

/-- A day in June 2023. -/
def june2023 : Date := ⟨2023, 6, 15, by decide⟩

/-- A day of 2023 and the last seven days are understood, but neither message passes the gate. -/
theorem day_of_2023_does_not_pass :
    (find? "2023-06-15".toList (.startOf june2023) = some (day june2023) ∧
      Gate.admits "2023-06-15".toList = false ∧
      IsOverlooked "2023-06-15".toList (day june2023)) ∧
    (∃ w, find? "last 7 day".toList (.startOf june2023) = some (relative (.lastDays 7) w) ∧
      Gate.admits "last 7 day".toList = false) := by
  obtain ⟨hdates, hdays, hlast⟩ := dates_pass (.startOf june2023)
  obtain ⟨hfind, hadmits⟩ := hdays june2023 (by decide)
  have hrefused : Gate.admits "2023-06-15".toList = false := by
    rw [Bool.eq_false_iff]
    exact fun h => absurd (hadmits.1 h) (by decide)
  refine ⟨⟨hfind, hrefused, ?_⟩, ?_⟩
  · rcases hdates _ _ hfind with h | h
    · exact absurd h (by rw [Bool.not_eq_true]; exact hrefused)
    · exact h
  · obtain ⟨w, hw⟩ := Option.isSome_iff_exists.1
      (by decide +kernel : ((Period.lastDays 7).window? (.startOf june2023)).isSome = true)
    exact ⟨w, hlast 7 w (by decide) (by decide) hw⟩

end DatePhrase

end AskLedger
