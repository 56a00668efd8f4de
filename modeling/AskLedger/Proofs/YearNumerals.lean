import AskLedger.Proofs.GateDates
import AskLedger.Proofs.MessagePhrases
import AskLedger.Proofs.ReadNumerals

/-!
# The numeral of a year

A message without a date in it is about the first year from 2024 to 2026 that stands apart once its
numeric dates have been taken out. Nothing but dates is taken out, so the numeral of that year may
be read as an amount or as a count as well. It is then not cut out of a longer number: it is all of
the number, or of the part of it between two commas or points.

* `DatePhrase.yearPlace?`: where in a message its year stands.
* `DatePhrase.exists_place_of_bareYear?`: the year stands apart there.
* `Capture.IsNumeralOf.groups`: a year that overlaps a numeral is one of its groups.
* `DatePhrase.year_among_numerals`: years and the numerals of amounts and counts.
-/

namespace AskLedger

open Decimal (numeral)
open Text (isDigit isWordChar)

/-! ## Years within numerals -/

/-- Whether a year is one of those that are looked for. -/
def IsBareYear (n : Nat) : Prop := 2024 ≤ n ∧ n ≤ 2026

instance (n : Nat) : Decidable (IsBareYear n) := inferInstanceAs (Decidable (_ ∧ _))

namespace Capture

/-- Whether a remembered stretch shares a character with `length` characters behind `offset`. -/
def Overlaps (c : Capture) (offset length : Nat) : Prop :=
  c.offset < offset + length ∧ offset < c.offset + c.text.length

/-- Whether a stretch that starts behind `offset` characters of the text is one of the groups of
digits between the commas and points of a remembered numeral. -/
def HasGroup (c : Capture) (offset : Nat) (s : List Char) : Prop :=
  ∃ front back, c.text = front ++ (s ++ back) ∧ offset = c.offset + front.length ∧
    (∀ d ∈ front.getLast?, d = ',' ∨ d = '.') ∧ ∀ d ∈ back.head?, d = ',' ∨ d = '.'

variable {c : Capture} {text front s back : List Char}

/-- A run of digits that stands apart and overlaps a numeral is one of its groups. -/
theorem IsNumeralOf.groups (hc : c.IsNumeralOf text) (htext : text = front ++ (s ++ back))
    (hs : ∀ d ∈ s, isDigit d = true) (hfront : front.getLast?.any isWordChar = false)
    (hback : back.head?.any isWordChar = false) (h : c.Overlaps front.length s.length) :
    c.HasGroup front.length s := by
  obtain ⟨hchars, before, after, hsplit, hoffset, hbefore, hafter⟩ := hc
  obtain ⟨hstart, hstop⟩ := h
  rw [← hoffset] at hstart hstop
  have heq : before ++ (c.text ++ after) = front ++ (s ++ back) := hsplit.symm.trans htext
  -- the numeral does not start within the run, where there would be a digit in front of it
  obtain ⟨pre, rfl, hrest⟩ :
      ∃ pre, front = before ++ pre ∧ c.text ++ after = pre ++ (s ++ back) := by
    rcases List.append_eq_append_iff.1 heq with ⟨pre, rfl, hrest⟩ | ⟨t, rfl, hrest⟩
    · exact ⟨pre, rfl, hrest⟩
    · cases hlast : t.getLast? with
      | none =>
        obtain rfl := List.getLast?_eq_none_iff.1 hlast
        exact ⟨[], by simp, by simpa using hrest.symm⟩
      | some d =>
        rw [List.getLast?_append, hlast, Option.some_or, Option.any_some] at hbefore
        have hmem : d ∈ s := by
          rcases List.append_eq_append_iff.1 hrest with ⟨u, rfl, -⟩ | ⟨u, rfl, -⟩
          · rw [List.length_append, List.length_append] at hstart
            have hnil : u = [] := List.length_eq_zero_iff.1 (by omega)
            simpa [hnil] using List.mem_of_getLast? hlast
          · exact List.mem_append_left _ (List.mem_of_getLast? hlast)
        rw [hs d hmem] at hbefore
        cases hbefore
  rw [List.length_append] at hstop
  -- nor does it end in front of the run, which it overlaps
  obtain ⟨u, hu, hrest⟩ : ∃ u, c.text = pre ++ u ∧ u ++ after = s ++ back := by
    rcases List.append_eq_append_iff.1 hrest with ⟨t, rfl, -⟩ | ⟨u, hu, hrest⟩
    · rw [List.length_append] at hstop
      omega
    · exact ⟨u, hu, hrest.symm⟩
  have hne : u ≠ [] := by
    rintro rfl
    rw [hu, List.append_nil] at hstop
    omega
  -- nor does it break off within the run, between two digits
  obtain ⟨post, rfl, rfl⟩ : ∃ post, u = s ++ post ∧ back = post ++ after := by
    rcases List.append_eq_append_iff.1 hrest with ⟨v, rfl, rfl⟩ | ⟨post, rfl, hpost⟩
    · cases v with
      | nil => exact ⟨[], by simp, rfl⟩
      | cons d v =>
        have hlast : c.text.getLast?.any isDigit = true := by
          rw [hu, List.getLast?_append_of_ne_nil _ hne, List.getLast?_eq_some_getLast hne]
          exact hs _ (List.mem_append_left _ (List.getLast_mem hne))
        have hnext := hafter hlast
        rw [List.cons_append, List.head?_cons, Option.any_some,
          hs d (List.mem_append_right _ List.mem_cons_self)] at hnext
        cases hnext
    · exact ⟨post, rfl, hpost⟩
  -- so what stands beside the run within the numeral is no word character
  have hmark : ∀ d ∈ c.text, isWordChar d = false → d = ',' ∨ d = '.' := by
    intro d hd hword
    refine (hchars d hd).resolve_left fun hdigit => ?_
    rw [Text.isDigit_of_not_isWordChar hword] at hdigit
    cases hdigit
  refine ⟨pre, post, hu, by rw [List.length_append, hoffset], ?_, ?_⟩
  · intro d hd
    rw [List.getLast?_append, Option.mem_def.1 hd] at hfront
    exact hmark d (by rw [hu]; exact List.mem_append_left _ (List.mem_of_getLast? hd)) hfront
  · intro d hd
    rw [List.head?_append, Option.mem_def.1 hd] at hback
    exact hmark d (by
      rw [hu]
      exact List.mem_append_right _ (List.mem_append_right _ (List.mem_of_head? hd))) hback

/-- If the numeral is of digits only, it is the run. -/
theorem HasGroup.eq_of_digits {offset : Nat} (h : c.HasGroup offset s)
    (hdigits : ∀ d ∈ c.text, isDigit d = true) : c.text = s ∧ c.offset = offset := by
  have hmark : ∀ d, d = ',' ∨ d = '.' → isDigit d = false := by
    rintro d (rfl | rfl) <;> rfl
  obtain ⟨front, back, htext, hoffset, hfront, hback⟩ := h
  -- what stands around the group is marks, of which a text of digits has none
  have hfrontNil : front = [] := by
    rw [← List.getLast?_eq_none_iff, Option.eq_none_iff_forall_ne_some]
    intro d hd
    have hno := hmark d (hfront d hd)
    rw [hdigits d (by rw [htext]; exact List.mem_append_left _ (List.mem_of_getLast? hd))] at hno
    cases hno
  have hbackNil : back = [] := by
    rw [← List.head?_eq_none_iff, Option.eq_none_iff_forall_ne_some]
    intro d hd
    have hno := hmark d (hback d hd)
    rw [hdigits d (by
      rw [htext]
      exact List.mem_append_right _ (List.mem_append_right _ (List.mem_of_head? hd)))] at hno
    cases hno
  subst hfrontNil hbackNil
  exact ⟨by simpa using htext, by simpa using hoffset.symm⟩

end Capture

/-! ## The place of a year -/

namespace DatePhrase

/-- How many characters of a message precede its year. -/
def yearPlace? (text : List Char) : Option Nat :=
  (yearWord.find? (withoutDates text)).bind fun m => (m.capture? 1).bind fun c =>
    -- ISO dates are taken out last
    ((isoDate.origins [' '] (numericDate.replaceAll [' '] text))[c.offset]?).join.bind fun offset =>
      ((numericDate.origins [' '] text)[offset]?).join

/-- What is found as a year is the numeral of one, which is remembered. -/
theorem exists_numeral_of_yearWord {m : Match} (h : m.stop ∈ yearWord.reaches ⟨m.start, []⟩) :
    ∃ n rest, IsBareYear n ∧ m.start.after = numeral n ++ rest ∧
      m.capture? 1 = some ⟨1, m.start.offset, numeral n⟩ ∧ number? (m.group 1) = some n ∧
      m.start.before.head?.any isWordChar = false ∧ rest.head?.any isWordChar = false := by
  obtain ⟨hbefore, hafter⟩ := Pattern.outside_of_leads_whole (by decide) (by decide)
    (Pattern.leads_of_mem_reaches h)
  obtain ⟨_, s, rest, rfl, hs, hsplit, hcapture, hplace, -⟩ :=
    Pattern.exists_capture [.edge] [.edge] (by decide) h
  rw [← hplace] at hafter
  simp only [List.nil_append, List.length_nil, Nat.add_zero] at hsplit hcapture
  obtain ⟨n, hfirst, hlast, rfl⟩ := eq_numeral_of_describes_yearWord (s := s)
    ⟨[], s, rfl, rfl, s, [], by simp, hs, rfl⟩
  have hnumber : number? (m.group 1) = some n := by
    rw [Match.group, hcapture]
    exact Decimal.natUpTo?_numeral (by omega)
  exact ⟨n, rest, ⟨hfirst, hlast⟩, hsplit, hcapture, hnumber, hbefore, hafter⟩

/-- The year of a message stands apart in its place. -/
theorem exists_place_of_bareYear? {text : List Char} {y : Int} (h : bareYear? text = some y) :
    ∃ (n : Nat) (front back : List Char), y = n ∧ IsBareYear n ∧
      text = front ++ (numeral n ++ back) ∧ yearPlace? text = some front.length ∧
      front.getLast?.any isWordChar = false ∧ back.head?.any isWordChar = false := by
  obtain ⟨m, hm, hnumber⟩ := Option.bind_eq_some_iff.1 h
  obtain ⟨hwhole, hstop⟩ := Pattern.mem_reaches_of_find? hm
  obtain ⟨n, rest, hn, hsplit, hcapture, hgroup, hbefore, hafter⟩ :=
    exists_numeral_of_yearWord hstop
  have hy : y = n := by
    rw [hgroup] at hnumber
    exact (Option.some.inj hnumber).symm
  have hword : ∀ c ∈ numeral n, isWordChar c = true := Text.isWordChar_of_mem_numeral
  have hne := Decimal.numeral_ne_nil n
  -- ISO dates have been taken out last
  have hout : isoDate.replaceAll [' '] (numericDate.replaceAll [' '] text) =
      m.start.before.reverse ++ numeral n ++ rest := by
    have hsame : withoutDates text = m.start.whole := hwhole.symm
    rw [withoutDates] at hsame
    rw [hsame, Place.whole, hsplit, List.append_assoc]
  obtain ⟨front₁, back₁, htext₁, hfront₁, hback₁, horigin₁⟩ :=
    Pattern.exists_origin_of_replaceAll (by decide) (by decide) hword hne hout
      (by rwa [List.reverse_reverse]) hafter
  obtain ⟨front, back, htext, hfront, hback, horigin⟩ :=
    Pattern.exists_origin_of_replaceAll (by decide) (by decide) hword hne htext₁ hfront₁ hback₁
  have hlength : m.start.before.reverse.length = m.start.offset := by simp [Place.offset]
  rw [hlength] at horigin₁
  have hiso : (isoDate.origins [' '] (numericDate.replaceAll [' '] text))[m.start.offset]? =
      some (some front₁.length) := horigin₁
  have hnumeric : (numericDate.origins [' '] text)[front₁.length]? = some (some front.length) :=
    horigin
  refine ⟨n, front, back, hy, hn, by rw [htext, List.append_assoc], ?_,
    by rwa [← List.head?_reverse], hback⟩
  rw [yearPlace?, hm, Option.bind_some, hcapture, Option.bind_some]
  simp [hiso, hnumeric]

/-! ## Messages about amounts and counts -/

/-- A message without ranges, days and months is about a year exactly if one stands apart in it. -/
theorem exists_year_iff {text : List Char} {now : Moment}
    (h : ∀ p ∈ dayPhrases, p.IsAbsent text) :
    (∃ y, find? text now = some (year y)) ↔ yearWord.isIn text = true := by
  rw [find?_of_no_days h]
  cases hyear : yearWord.find? text with
  | none =>
    -- a period is no year
    have hno : ∀ y, findRelative? text now ≠ some (year y) := by
      intro y hy
      rw [findRelative?] at hy
      split at hy
      · obtain ⟨w, -, hw⟩ := Option.map_eq_some_iff.1 hy
        cases hw
      · cases hy
    simp [Pattern.isIn, hyear, hno]
  | some m =>
    obtain ⟨n, -, -, -, -, hgroup, -⟩ :=
      exists_numeral_of_yearWord (Pattern.mem_reaches_of_find? hyear).2
    simp [Pattern.isIn, hyear, hgroup]

/-- A search for a year stops at the numeral of one and passes over others. -/
theorem isSome_findFrom?_numeral {n : Nat} {before front rest : List Char}
    (hfront : ∀ c ∈ front, yearWord.cannotStart c = true)
    (hlast : (front.reverse ++ before).head?.any isWordChar = false)
    (hrest : rest.head?.any isWordChar = false) :
    (yearWord.findFrom? before (front ++ (numeral n ++ rest))).isSome = true ↔
      IsBareYear n ∨
        (yearWord.findFrom? ((numeral n).reverse ++ (front.reverse ++ before)) rest).isSome =
          true := by
  rw [Pattern.findFrom?_append_of_cannotStart _ _ hfront]
  by_cases hn : IsBareYear n
  · obtain ⟨m, hm, -⟩ := matchAt?_yearWord_numeral hlast hrest hn
    simp [Pattern.findFrom?_eq_some hm, hn]
  · rw [findFrom?_yearWord_numeral hrest hn]
    simp [hn]

/-- No year is found where none can start. -/
theorem findFrom?_yearWord_eq_none {back : List Char} (before : List Char)
    (hback : ∀ c ∈ back, yearWord.cannotStart c = true) :
    yearWord.findFrom? before back = none := by
  have hskip := Pattern.findFrom?_append_of_cannotStart before [] hback
  rw [List.append_nil] at hskip
  rw [hskip]
  exact Pattern.matchAt?_eq_none (Pattern.reaches_eq_nil_of_takesSome rfl)

/-- A message of some letters and one number is about a year exactly if the number is one. -/
theorem exists_year_iff_of_numeral {front back : List Char} {n : Nat} {now : Moment}
    (habsent : ∀ p ∈ dayPhrases,
      p.cannotRead (front ++ back ++ Decimal.digits) = true)
    (hfront : front.all (fun c => yearWord.cannotStart c) = true)
    (hback : back.all (fun c => yearWord.cannotStart c) = true)
    (hlast : front.getLast?.any isWordChar = false) (hnext : back.head?.any isWordChar = false) :
    (∃ y, find? (front ++ (numeral n ++ back)) now = some (year y)) ↔ IsBareYear n := by
  have hchars : ∀ c ∈ front ++ (numeral n ++ back), c ∈ front ++ back ++ Decimal.digits := by
    have hdigits : ∀ c ∈ numeral n, c ∈ Decimal.digits :=
      fun c hc => Decimal.mem_digits_of_isDigit (Decimal.isDigit_of_mem_numeral hc)
    intro c hc
    simp only [List.mem_append] at hc ⊢
    rcases hc with hc | hc | hc
    · exact .inl (.inl hc)
    · exact .inr (hdigits c hc)
    · exact .inl (.inr hc)
  -- no phrase for a day fits these characters, so only the year word is left to look for
  have hno := findFrom?_yearWord_eq_none ((numeral n).reverse ++ (front.reverse ++ []))
    (List.all_eq_true.1 hback)
  rw [exists_year_iff fun p hp => Pattern.isAbsent_of_cannotRead (habsent p hp) hchars,
    Pattern.isIn, Pattern.find?, isSome_findFrom?_numeral (List.all_eq_true.1 hfront)
      (by rwa [List.append_nil, List.head?_reverse]) hnext, hno]
  simp

/-- A bound is read as a year if it is one of the years. -/
theorem exists_year_over (n : Nat) (now : Moment) :
    (∃ y, find? ("over ₹" ++ toString n).toList now = some (year y)) ↔ IsBareYear n := by
  have htext : ("over ₹" ++ toString n).toList = "over ₹".toList ++ (numeral n ++ []) := by
    rw [String.toList_append, Decimal.numeral_eq_toString, List.append_nil]
  rw [htext]
  exact exists_year_iff_of_numeral (by decide +kernel) (by decide +kernel) (by decide)
    (by decide +kernel) rfl

/-- A count is read as a year if it is one of the years. -/
theorem exists_year_top (n : Nat) (now : Moment) :
    (∃ y, find? ("top " ++ toString n).toList now = some (year y)) ↔ IsBareYear n := by
  have htext : ("top " ++ toString n).toList = "top ".toList ++ (numeral n ++ []) := by
    rw [String.toList_append, Decimal.numeral_eq_toString, List.append_nil]
  rw [htext]
  exact exists_year_iff_of_numeral (by decide) (by decide) (by decide) rfl rfl

/-- A number of days is read as a year if it is one of the years. -/
theorem exists_year_lastDays (n : Nat) (now : Moment) :
    (∃ y, find? ("last " ++ toString n ++ " days").toList now = some (year y)) ↔ IsBareYear n := by
  have htext : ("last " ++ toString n ++ " days").toList =
      "last ".toList ++ (numeral n ++ " days".toList) := by
    simp only [String.toList_append, Decimal.numeral_eq_toString, List.append_assoc]
  rw [htext]
  exact exists_year_iff_of_numeral (by decide) (by decide) (by decide) rfl rfl

/-- Two amounts are read as a year if one of them is one of the years. -/
theorem exists_year_between (a b : Nat) (now : Moment) :
    (∃ y, find? ("between ₹" ++ toString a ++ " and ₹" ++ toString b).toList now =
      some (year y)) ↔ IsBareYear a ∨ IsBareYear b := by
  have htext : ("between ₹" ++ toString a ++ " and ₹" ++ toString b).toList =
      "between ₹".toList ++ (numeral a ++ (" and ₹".toList ++ (numeral b ++ []))) := by
    simp only [String.toList_append, Decimal.numeral_eq_toString, List.append_assoc,
      List.append_nil]
  -- one alphabet for the whole text rules out every phrase for a day at once
  have hdigits : ∀ n, ∀ c ∈ numeral n, c ∈ "between ₹and0123456789".toList :=
    fun n => Decimal.forall_mem_numeral (by decide) n
  have hfirst : ∀ c ∈ "between ₹".toList, c ∈ "between ₹and0123456789".toList :=
    Text.forall_of_all (by decide)
  have hsecond : ∀ c ∈ " and ₹".toList, c ∈ "between ₹and0123456789".toList :=
    Text.forall_of_all (by decide)
  have hchars : ∀ c ∈ "between ₹".toList ++ (numeral a ++ (" and ₹".toList ++ (numeral b ++ []))),
      c ∈ "between ₹and0123456789".toList := by
    simp only [List.forall_mem_append]
    exact ⟨hfirst, hdigits a, hsecond, hdigits b, fun c hc => nomatch hc⟩
  have habsent : ∀ p ∈ dayPhrases,
      p.cannotRead "between ₹and0123456789".toList = true := by
    decide +kernel
  have hfrontStart : ∀ c ∈ "between ₹".toList, yearWord.cannotStart c = true :=
    Text.forall_of_all (by decide +kernel)
  have hmiddleStart : ∀ c ∈ " and ₹".toList, yearWord.cannotStart c = true :=
    Text.forall_of_all (by decide +kernel)
  have hrupee : isWordChar '₹' = false := by decide +kernel
  rw [htext, exists_year_iff fun p hp => Pattern.isAbsent_of_cannotRead (habsent p hp) hchars,
    Pattern.isIn, Pattern.find?, isSome_findFrom?_numeral hfrontStart hrupee rfl,
    isSome_findFrom?_numeral hmiddleStart hrupee rfl,
    findFrom?_yearWord_eq_none _ (List.forall_mem_nil _)]
  simp

/-- The year of a message and the numerals that are read as amounts or counts: one that overlaps the
year has it as one of its groups of digits, and is the year if it is a count. Messages that are just
about an amount or a count are about a year exactly if the number is one. -/
theorem year_among_numerals :
    (∀ (text : List Char) (y : Int), bareYear? text = some y →
      ∃ (n place : Nat), y = n ∧ IsBareYear n ∧ yearPlace? text = some place ∧
        (∃ front back, text = front ++ (numeral n ++ back) ∧ place = front.length) ∧
        (∀ c ∈ readAmounts text, c.Overlaps place 4 → c.HasGroup place (numeral n)) ∧
        ∀ c ∈ readCounts text, c.Overlaps place 4 → c.text = numeral n ∧ c.offset = place) ∧
    ∀ (a b n : Nat) (now : Moment),
      ((∃ y, find? ("over ₹" ++ toString n).toList now = some (year y)) ↔ IsBareYear n) ∧
      ((∃ y, find? ("between ₹" ++ toString a ++ " and ₹" ++ toString b).toList now =
        some (year y)) ↔ IsBareYear a ∨ IsBareYear b) ∧
      ((∃ y, find? ("top " ++ toString n).toList now = some (year y)) ↔ IsBareYear n) ∧
      ((∃ y, find? ("last " ++ toString n ++ " days").toList now = some (year y)) ↔
        IsBareYear n) := by
  refine ⟨?_, fun a b n now => ⟨exists_year_over n now, exists_year_between a b now,
    exists_year_top n now, exists_year_lastDays n now⟩⟩
  intro text y h
  obtain ⟨n, front, back, hy, hn, htext, hplace, hfront, hback⟩ := exists_place_of_bareYear? h
  have hlength : (numeral n).length = 4 := by
    obtain rfl | rfl | rfl : n = 2024 ∨ n = 2025 ∨ n = 2026 := by
      unfold IsBareYear at hn
      omega
    all_goals rfl
  -- a year stands apart, so that a numeral over it has it as one of its groups of digits
  have hgroups : ∀ c : Capture, c.IsNumeralOf text → c.Overlaps front.length 4 →
      c.HasGroup front.length (numeral n) :=
    fun c hc hover => hc.groups htext Text.isDigit_of_mem_numeral hfront hback (hlength ▸ hover)
  refine ⟨n, front.length, hy, hn, hplace, ⟨front, back, htext, rfl⟩, ?_, ?_⟩
  · exact fun c hc => hgroups c (isNumeralOf_of_mem_readAmounts hc)
  · intro c hc hover
    obtain ⟨hnumeral, hdigits⟩ := isNumeralOf_of_mem_readCounts hc
    exact (hgroups c hnumeral hover).eq_of_digits hdigits

/-- A bound that is a year. -/
def overYear : List Char := "over ₹2024".toList

/-- Its numeral, as the bound is remembered. -/
def overYearBound : Capture := ⟨4, 6, "2024".toList⟩

/-- The year is all of the bound. -/
theorem year_of_bound_is_group : bareYear? overYear = some 2024 ∧
    overYearBound ∈ readAmounts overYear ∧ overYearBound.Overlaps 6 4 ∧
    overYearBound.HasGroup 6 (numeral 2024) := by
  have hyear : bareYear? overYear = some 2024 := by decide +kernel
  have hplace : yearPlace? overYear = some 6 := by decide +kernel
  have hread : overYearBound ∈ readAmounts overYear := by decide +kernel
  have hover : overYearBound.Overlaps 6 4 := ⟨by decide, by decide⟩
  obtain ⟨n, place, hn, -, hplace', -, hamounts, -⟩ := year_among_numerals.1 overYear 2024 hyear
  obtain rfl : 6 = place := Option.some.inj (hplace.symm.trans hplace')
  obtain rfl : 2024 = n := by omega
  exact ⟨hyear, hread, hover, hamounts _ hread hover⟩

/-- The bound and the year of the message are the same numeral, and the message is about that
year. -/
theorem bound_is_year : (AmountPhrase.bound? overYear).isSome = true ∧
    (AmountPhrase.bound.find? overYear).bind (·.capture? 4) = some overYearBound ∧
    bareYear? overYear = some 2024 ∧ yearPlace? overYear = some overYearBound.offset ∧
    find? overYear (.startOf ⟨2025, 6, 15, by decide⟩) = some (year 2024) := by
  decide +kernel

end DatePhrase

end AskLedger
