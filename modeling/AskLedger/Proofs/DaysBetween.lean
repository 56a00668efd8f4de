import AskLedger.Proofs.AmountPhrases
import AskLedger.Proofs.PeriodWindows
import AskLedger.Proofs.StableOrder

/-!
# Two numbers with everything between them

A message with `between` and two numbers states a range of amounts or a range of days of the present
month. Days have an ordinal ending at one of the numbers and a currency mark at none, and they are
whole numbers up to 31. So the filter for amounts and the one for dates never read one phrase both,
and one of them reads it unless the message has a range of dates as well or the calendar ends.

Both days may lie behind the end of the month. They are moved back to its last day, so their window
is not empty, however long the month is.

* `AmountPhrase.rangePhrase?`: the phrase, of which `AmountPhrase.isWrittenIn_of_rangePhrase?` shows
  how it is written.
* `AmountPhrase.bind_days?_eq_some_iff`: when the numbers are days.
* `Window.daysOfMonth?_eq_some_iff`: the window of two days of a month.
* `DatePhrase.amounts_or_days`: what the two filters make of the phrase.
-/

namespace AskLedger

/-! ## Days as numbers -/

namespace Amount

variable {a b x y : Float}

theorem lt_congr (hx : (a == x) = true) (hy : (b == y) = true) : a < b ↔ x < y := by
  simp only [lt_iff, beq_iff, Position.order_eq_lt, Position.order_eq_eq] at hx hy ⊢
  simp only [hx.1, hx.2.1, hy.1, hy.2.1, true_and]
  omega

/-- Whole numbers up to 31 are ordered as numbers of double precision. -/
theorem ofNat_lt_ofNat_iff : ∀ m < 32, ∀ n < 32, Float.ofNat m < Float.ofNat n ↔ m < n := by
  decide +kernel

end Amount

namespace AmountPhrase

variable {slot n : Nat} {s : List Char} {g : List Capture}

/-- A day of a month is a whole number from 1 through 31. -/
theorem dayOfMonth?_eq_some_iff {x : Float} : dayOfMonth? x = some n ↔
    (1 ≤ n ∧ n ≤ 31) ∧ (Float.ofNat n == x) = true := by
  have hmem : ∀ {k}, k ∈ List.range' 1 31 ↔ 1 ≤ k ∧ k ≤ 31 := by
    intro k
    rw [List.mem_range'_1]
    omega
  have hfound : ∀ {k}, dayOfMonth? x = some k →
      (1 ≤ k ∧ k ≤ 31) ∧ (Float.ofNat k == x) = true := by
    intro k hk
    have hkx := List.find?_some hk
    exact ⟨hmem.1 (List.mem_of_find?_eq_some hk), hkx⟩
  constructor
  · exact hfound
  · rintro ⟨hn, hx⟩
    obtain ⟨k, hk⟩ : ∃ k, dayOfMonth? x = some k := by
      rw [← Option.isSome_iff_exists, dayOfMonth?, List.find?_isSome]
      exact ⟨n, hmem.2 hn, hx⟩
    obtain ⟨hkmem, hkx⟩ := hfound hk
    -- no two days are the same number
    rcases Nat.lt_trichotomy k n with hlt | rfl | hlt
    · have hfloat := (Amount.ofNat_lt_ofNat_iff k (by omega) n (by omega)).2 hlt
      exact absurd hfloat (Amount.not_lt_of_beq hkx hx)
    · exact hk
    · have hfloat := (Amount.ofNat_lt_ofNat_iff n (by omega) k (by omega)).2 hlt
      exact absurd hfloat (Amount.not_lt_of_beq hx hkx)

/-! ## Phrases -/

/-- Whether a text is the word `the` with blanks behind it, or nothing. -/
def IsArticle (s : List Char) : Prop :=
  s = [] ∨ ∃ word gap, Text.Spells "the" word ∧ Text.IsGap gap ∧ s = word ++ gap

/-- Whether a text is the ending of an ordinal number or, without an ending, nothing. -/
def IsEnding : Option (List Char) → List Char → Prop
  | none, s => s = []
  | some ending, s => s = ending ∧ ∃ w ∈ ["st", "nd", "rd", "th"], Text.Spells w ending

/-- One of the two numbers of a phrase. -/
structure RangeEnd where
  /-- Its currency mark. -/
  mark? : Option (List Char)
  /-- The number, as it is written. -/
  number : List Char
  /-- Its ordinal ending. -/
  ending? : Option (List Char)
  deriving DecidableEq

namespace RangeEnd

/-- Whether a text is a number with its mark and its ending, possibly with an article. -/
def IsWrittenAs (e : RangeEnd) (s : List Char) : Prop :=
  ∃ article mark ending, s = article ++ (mark ++ (e.number ++ ending)) ∧ IsArticle article ∧
    IsMarked e.mark? mark ∧ IsNumber e.number ∧ IsEnding e.ending? ending

/-- Whether the number is that of a day of a month. -/
def IsDay (e : RangeEnd) (n : Nat) : Prop :=
  ∃ x, read? e.number = some x ∧ (Float.ofNat n == x) = true

/-- What is remembered of a number, its mark and its ending. -/
def captures (e : RangeEnd) (markSlot numberSlot endingSlot : Nat) (offsets : Nat × Nat × Nat) :
    List Capture :=
  remembered endingSlot offsets.2.2 e.ending? ++
    ⟨numberSlot, offsets.2.1, e.number⟩ :: remembered markSlot offsets.1 e.mark?

end RangeEnd

theorem describes_article : article.Describes s ↔ IsArticle s := by
  have hthe : (Pattern.both (.spelled "the") .gap).Describes s ↔
      ∃ word gap, Text.Spells "the" word ∧ Text.IsGap gap ∧ s = word ++ gap := by
    simp only [Pattern.Describes, Pattern.describes_spelled_iff, Pattern.describes_gap]
    constructor
    · rintro ⟨word, gap, rfl, hword, hgap⟩
      exact ⟨word, gap, hword, hgap, rfl⟩
    · rintro ⟨word, gap, hword, hgap, rfl⟩
      exact ⟨word, gap, rfl, hword, hgap⟩
  rw [IsArticle, ← hthe, or_comm]
  exact Iff.rfl

/-- An ordinal ending is captured if there is one. -/
theorem reads_ordinal : (ordinal slot).Reads n s g ↔
    ∃ ending?, IsEnding ending? s ∧ g = remembered slot n ending? := by
  rw [ordinal, Pattern.optional, Pattern.Reads, reads_capture (by decide),
    Pattern.describes_oneOfWords_iff]
  constructor
  · rintro (⟨hword, rfl⟩ | ⟨rfl, rfl⟩)
    · exact ⟨some s, ⟨rfl, hword⟩, rfl⟩
    · exact ⟨none, rfl, rfl⟩
  · rintro ⟨_ | ending, hs, rfl⟩
    · exact .inr ⟨hs, rfl⟩
    · obtain ⟨rfl, hword⟩ := hs
      exact .inl ⟨hword, rfl⟩

/-- In front of a pattern a number is read with everything around it. -/
theorem exists_rangeEnd_of_reads {q : Pattern} {markSlot numberSlot endingSlot : Nat}
    (h : (Pattern.both article (.both (currency markSlot) (.both (number numberSlot)
      (.both (ordinal endingSlot) q)))).Reads n s g) :
    ∃ (e : RangeEnd) (s₁ s₂ : List Char) (n' : Nat) (g' : List Capture) (offsets : Nat × Nat × Nat),
      s = s₁ ++ s₂ ∧ e.IsWrittenAs s₁ ∧ q.Reads n' s₂ g' ∧
        g = g' ++ e.captures markSlot numberSlot endingSlot offsets := by
  obtain ⟨art, _, _, _, rfl, rfl, hart, mark, _, _, _, rfl, rfl, hmark, digits, _, _, _, rfl, rfl,
    hdigits, ending, s₂, _, g', rfl, rfl, hending, hq⟩ := h
  obtain ⟨harticle, rfl⟩ := (Pattern.reads_of_slots_eq_nil (by decide)).1 hart
  obtain ⟨mark?, hmarked, rfl⟩ := reads_currency.1 hmark
  obtain ⟨hnumber, rfl⟩ := reads_number.1 hdigits
  obtain ⟨ending?, hordinal, rfl⟩ := reads_ordinal.1 hending
  exact ⟨⟨mark?, digits, ending?⟩, art ++ (mark ++ (digits ++ ending)), s₂, _, g',
    (n + art.length, n + art.length + mark.length, n + art.length + mark.length + digits.length),
    by simp, ⟨art, mark, ending, rfl, describes_article.1 harticle, hmarked, hnumber, hordinal⟩,
    hq, by simp [RangeEnd.captures]⟩

/-- A phrase for everything between two numbers. -/
structure RangePhrase where
  /-- The number in front. -/
  first : RangeEnd
  /-- The other number. -/
  second : RangeEnd
  deriving DecidableEq

namespace RangePhrase

/-- Whether a phrase stands in a text, at a word boundary. -/
def IsWrittenIn (p : RangePhrase) (text : List Char) : Prop :=
  ∃ front word gap s gap' connector gap'' s' back,
    text = front ++ (word ++ (gap ++ (s ++ (gap' ++ (connector ++ (gap'' ++ (s' ++ back))))))) ∧
    front.getLast?.any Text.isWordChar = false ∧ Text.Spells "between" word ∧ Text.IsGap gap ∧
    p.first.IsWrittenAs s ∧ Text.IsGap gap' ∧
    (∃ w ∈ ["and", "to", "&"], Text.Spells w connector) ∧ Text.IsGap gap'' ∧
    p.second.IsWrittenAs s'

/-- What a match of the pattern for two numbers says. -/
def ofMatch (m : Match) : RangePhrase where
  first := ⟨(m.capture? 1).map (·.text), m.group 2, (m.capture? 3).map (·.text)⟩
  second := ⟨(m.capture? 4).map (·.text), m.group 5, (m.capture? 6).map (·.text)⟩

end RangePhrase

/-- The phrase of a message for everything between two numbers, the leftmost one. -/
def rangePhrase? (text : List Char) : Option RangePhrase :=
  (between.find? text).map .ofMatch

/-- What a match of the pattern for two numbers says is a phrase in the text. -/
theorem isWrittenIn_ofMatch_between {text : List Char} {m : Match}
    (hwhole : m.start.whole = text) (h : m.stop ∈ between.reaches ⟨m.start, []⟩) :
    (RangePhrase.ofMatch m).IsWrittenIn text := by
  have hbefore := Pattern.before_of_mem_reaches (by decide +kernel) h
  obtain ⟨s, g, hreads, hafter, -, hcaptures⟩ := Pattern.reads_of_mem_reaches h
  obtain ⟨_, _, _, _, rfl, rfl, ⟨rfl, rfl⟩, word, _, _, _, rfl, rfl, hword, gap, _, _, _, rfl, rfl,
    hgap, hfirst⟩ := hreads
  obtain ⟨e, s₁, s₂, n₁, g₁, offsets, rfl, he, hmiddle, rfl⟩ := exists_rangeEnd_of_reads hfirst
  obtain ⟨gap', _, _, _, rfl, rfl, hgap', connector, _, _, _, rfl, rfl, hconnector, gap'', _, _, _,
    rfl, rfl, hgap'', hsecond⟩ := hmiddle
  obtain ⟨e', s₃, s₄, n₃, g₃, offsets', rfl, he', ⟨rfl, rfl⟩, rfl⟩ :=
    exists_rangeEnd_of_reads hsecond
  -- what stands between the numbers is not remembered
  obtain ⟨hbetween, rfl⟩ := (Pattern.reads_of_slots_eq_nil (by decide)).1 hword
  obtain ⟨hisGap, rfl⟩ := (Pattern.reads_of_slots_eq_nil (by decide)).1 hgap
  obtain ⟨hisGap', rfl⟩ := (Pattern.reads_of_slots_eq_nil (by decide)).1 hgap'
  obtain ⟨hisConnector, rfl⟩ := (Pattern.reads_of_slots_eq_nil (by decide)).1 hconnector
  obtain ⟨hisGap'', rfl⟩ := (Pattern.reads_of_slots_eq_nil (by decide)).1 hgap''
  have hphrase : RangePhrase.ofMatch m = ⟨e, e'⟩ := by
    obtain ⟨mark?, digits, ending?⟩ := e
    obtain ⟨mark'?, digits', ending'?⟩ := e'
    cases mark? <;> cases ending? <;> cases mark'? <;> cases ending'? <;>
      simp [RangePhrase.ofMatch, Match.group, Match.capture?, hcaptures, RangeEnd.captures,
        remembered]
  rw [hphrase]
  refine ⟨m.start.before.reverse, word, gap, s₁, gap', connector, gap'', s₃, m.stop.place.after, ?_,
    by rwa [List.getLast?_reverse], Pattern.describes_spelled_iff.1 hbetween,
    Pattern.describes_gap.1 hisGap, he, Pattern.describes_gap.1 hisGap',
    Pattern.describes_oneOfWords_iff.1 hisConnector, Pattern.describes_gap.1 hisGap'', he'⟩
  rw [← hwhole, Place.whole, hafter]
  simp

/-- The range that is found is written in the text. -/
theorem isWrittenIn_of_rangePhrase? {text : List Char} {p : RangePhrase}
    (h : rangePhrase? text = some p) : p.IsWrittenIn text := by
  obtain ⟨m, hm, rfl⟩ := Option.map_eq_some_iff.1 h
  obtain ⟨hwhole, hstop⟩ := Pattern.mem_reaches_of_find? hm
  exact isWrittenIn_ofMatch_between hwhole hstop

/-! ## Amounts or days -/

/-- Whether a phrase speaks of days of a month, given by their smaller and their larger number: no
number has a currency mark and one has an ordinal ending. -/
structure RangePhrase.IsDays (p : RangePhrase) (low high : Nat) : Prop where
  /-- Days have no currency mark. -/
  unmarked : p.first.mark? = none ∧ p.second.mark? = none
  /-- One of them has an ordinal ending. -/
  ordinal : p.first.ending? ≠ none ∨ p.second.ending? ≠ none
  /-- They are days of the longest months. -/
  bounds : 1 ≤ low ∧ low ≤ high ∧ high ≤ 31
  /-- They may stand in either order. -/
  days : p.first.IsDay low ∧ p.second.IsDay high ∨ p.first.IsDay high ∧ p.second.IsDay low

/-- The two numbers of a message as its first phrase gives them. -/
theorem between?_eq (text : List Char) : between? text = (rangePhrase? text).bind fun p =>
    (read? p.first.number).bind fun x => (read? p.second.number).map fun y =>
      ⟨if y < x then y else x, if y < x then x else y,
        p.first.mark?.isSome || p.second.mark?.isSome,
        p.first.ending?.isSome || p.second.ending?.isSome⟩ := by
  rw [between?, rangePhrase?]
  cases hm : between.find? text with
  | none => rfl
  | some m =>
    simp only [Option.map_some, Option.bind_some, RangePhrase.ofMatch, Option.isSome_map,
      Match.has]
    cases read? (m.group 2) with
    | none => rfl
    | some x =>
      cases read? (m.group 5) with
      | none => rfl
      | some y => by_cases hyx : y < x <;> simp [hyx]

/-- Two numbers are days if one has an ordinal ending, none a mark, and both are days of a month. -/
theorem Between.days?_eq_some_iff {b : Between} {low high : Nat} :
    b.days? = some (low, high) ↔ (b.ordinal = true ∧ b.currency = false) ∧
      dayOfMonth? b.low = some low ∧ dayOfMonth? b.high = some high := by
  rw [Between.days?]
  cases b.ordinal <;> cases b.currency <;> cases dayOfMonth? b.low <;>
    cases dayOfMonth? b.high <;> simp

/-- Two numbers are days, the smaller one first, exactly if they are the same days in either
order. -/
theorem dayOfMonth?_inOrder_iff {x y : Float} {low high : Nat} :
    dayOfMonth? (if y < x then y else x) = some low ∧
        dayOfMonth? (if y < x then x else y) = some high ↔
      (1 ≤ low ∧ low ≤ high ∧ high ≤ 31) ∧
        ((Float.ofNat low == x) = true ∧ (Float.ofNat high == y) = true ∨
          (Float.ofNat high == x) = true ∧ (Float.ofNat low == y) = true) := by
  -- days and the numbers that they equal are in the same order
  have hlt : ∀ {i j x y}, (1 ≤ i ∧ i ≤ 31) → (1 ≤ j ∧ j ≤ 31) → (Float.ofNat i == x) = true →
      (Float.ofNat j == y) = true → (x < y ↔ i < j) := fun hi hj hx hy =>
    (Amount.lt_congr hx hy).symm.trans (Amount.ofNat_lt_ofNat_iff _ (by omega) _ (by omega))
  constructor
  · intro h
    split at h
    · next hyx =>
      obtain ⟨⟨hlow, hy⟩, hhigh, hx⟩ := h.imp dayOfMonth?_eq_some_iff.1 dayOfMonth?_eq_some_iff.1
      have horder := (hlt hlow hhigh hy hx).1 hyx
      exact ⟨by omega, .inr ⟨hx, hy⟩⟩
    · next hyx =>
      obtain ⟨⟨hlow, hx⟩, hhigh, hy⟩ := h.imp dayOfMonth?_eq_some_iff.1 dayOfMonth?_eq_some_iff.1
      rw [hlt hhigh hlow hy hx] at hyx
      exact ⟨by omega, .inl ⟨hx, hy⟩⟩
  · rintro ⟨⟨hone, hle, hlast⟩, ⟨hx, hy⟩ | ⟨hx, hy⟩⟩
    · have hyx : ¬y < x := by
        rw [hlt ⟨by omega, hlast⟩ ⟨hone, by omega⟩ hy hx]
        omega
      rw [if_neg hyx, if_neg hyx]
      exact ⟨dayOfMonth?_eq_some_iff.2 ⟨⟨hone, by omega⟩, hx⟩,
        dayOfMonth?_eq_some_iff.2 ⟨⟨by omega, hlast⟩, hy⟩⟩
    · have hyx : y < x ↔ low < high := hlt ⟨hone, by omega⟩ ⟨by omega, hlast⟩ hy hx
      have hlowDay : dayOfMonth? y = some low := dayOfMonth?_eq_some_iff.2 ⟨⟨hone, by omega⟩, hy⟩
      have hhighDay : dayOfMonth? x = some high := dayOfMonth?_eq_some_iff.2 ⟨⟨by omega, hlast⟩, hx⟩
      rcases Nat.lt_or_eq_of_le hle with hlt' | rfl
      · rw [if_pos (hyx.2 hlt'), if_pos (hyx.2 hlt')]
        exact ⟨hlowDay, hhighDay⟩
      · rw [if_neg (by simp [hyx]), if_neg (by simp [hyx])]
        exact ⟨hhighDay, hlowDay⟩

/-- The numbers of a message are days exactly if its first phrase speaks of them. -/
theorem bind_days?_eq_some_iff {text : List Char} {low high : Nat} :
    (between? text).bind Between.days? = some (low, high) ↔
      ∃ p, rangePhrase? text = some p ∧ p.IsDays low high := by
  have hdays : ∀ {p : RangePhrase} {x y}, read? p.first.number = some x →
      read? p.second.number = some y → (Between.days? ⟨if y < x then y else x,
        if y < x then x else y, p.first.mark?.isSome || p.second.mark?.isSome,
        p.first.ending?.isSome || p.second.ending?.isSome⟩ = some (low, high) ↔
          p.IsDays low high) := by
    intro p x y hx hy
    have hisDay : ∀ {e : RangeEnd} {x n}, read? e.number = some x →
        (e.IsDay n ↔ (Float.ofNat n == x) = true) := by
      intro e x n hread
      simp [RangeEnd.IsDay, hread]
    rw [Between.days?_eq_some_iff, dayOfMonth?_inOrder_iff]
    constructor
    · rintro ⟨⟨hordinal, hmark⟩, hbounds, hdays⟩
      refine ⟨by simpa using hmark, by simpa [Option.isSome_iff_ne_none] using hordinal, hbounds,
        ?_⟩
      rwa [hisDay hx, hisDay hy, hisDay hx, hisDay hy]
    · rintro ⟨hmark, hordinal, hbounds, hdays⟩
      refine ⟨⟨by simpa [Option.isSome_iff_ne_none] using hordinal, by simpa using hmark⟩, hbounds,
        ?_⟩
      rwa [hisDay hx, hisDay hy, hisDay hx, hisDay hy] at hdays
  rw [between?_eq]
  constructor
  · intro h
    simp only [Option.bind_eq_some_iff, Option.map_eq_some_iff] at h
    obtain ⟨b, ⟨p, hp, x, hx, y, hy, rfl⟩, hb⟩ := h
    exact ⟨p, hp, (hdays hx hy).1 hb⟩
  · rintro ⟨p, hp, hp'⟩
    -- both numbers of days can be read
    obtain ⟨x, y, hx, hy⟩ :
        ∃ x y, read? p.first.number = some x ∧ read? p.second.number = some y := by
      rcases hp'.days with ⟨⟨x, hx, -⟩, y, hy, -⟩ | ⟨⟨x, hx, -⟩, y, hy, -⟩ <;>
        exact ⟨x, y, hx, hy⟩
    rw [hp, Option.bind_some, hx, Option.bind_some, hy, Option.map_some, Option.bind_some]
    exact (hdays hx hy).2 hp'

end AmountPhrase

/-! ## The window of two days -/

section
variable {today : Date} {low high : Nat} {w : Window}

/-- Whether a date is a day of the month of another one, or the last day of that month if there is
no such day. -/
def Date.IsDayOfMonth (d today : Date) (n : Nat) : Prop :=
  d.year = today.year ∧ d.month = today.month ∧ d.day = min n (daysIn today.year today.month)

/-- Whether the first day behind the month of a date lies in the calendar. -/
def Date.HasNextMonth (today : Date) : Prop :=
  (ofCivil? (nextMonth today.year today.month).1 (nextMonth today.year today.month).2 1).isSome =
    true

/-- A day beyond the end of the month counts as the last day. -/
theorem Date.ofCivil?_min_eq_some_iff {n : Nat} {d : Date} :
    ofCivil? today.year today.month (min n (daysIn today.year today.month)) = some d ↔
      d.IsDayOfMonth today n := by
  rw [DatePhrase.ofCivil?_eq_some_iff, IsDayOfMonth]
  exact and_congr eq_comm (and_congr eq_comm eq_comm)

/-- Every month has its days, if one counts its last day for those behind it. -/
theorem Date.exists_isDayOfMonth (today : Date) {n : Nat} (hn : 1 ≤ n) :
    ∃ d : Date, d.IsDayOfMonth today n := by
  have hcivil := today.isCivil
  exact ⟨⟨today.year, today.month, min n (daysIn today.year today.month),
    hcivil.1, hcivil.2.1, by omega⟩, rfl, rfl, rfl⟩

theorem Date.lastOfMonth?_eq_some_iff_isDayOfMonth {d : Date} :
    lastOfMonth? today.year today.month = some d ↔
      today.HasNextMonth ∧ d.IsDayOfMonth today (daysIn today.year today.month) := by
  rw [← ofCivil?_min_eq_some_iff, Nat.min_self, HasNextMonth]
  simp only [lastOfMonth?, previousMonth_nextMonth today.isCivil.2.1]
  split
  · next next hnext => simp [hnext]
  · next hnext => simp [hnext]

/-- The window of two days exists in every month but the last one of the calendar. Both are moved
back to the last day of the month. -/
theorem Window.daysOfMonth?_eq_some_iff : daysOfMonth? today low high = some w ↔
    today.HasNextMonth ∧
      ∃ a b : Date, w = days a b ∧ a.IsDayOfMonth today low ∧ b.IsDayOfMonth today high := by
  rw [daysOfMonth?]
  constructor
  · intro h
    split at h
    · next monthEnd hend =>
      obtain ⟨hnext, -, -, hday⟩ := Date.lastOfMonth?_eq_some_iff_isDayOfMonth.1 hend
      rw [Nat.min_self] at hday
      split at h
      · next a b ha hb =>
        rw [hday, Date.ofCivil?_min_eq_some_iff] at ha hb
        exact ⟨hnext, a, b, (Option.some.inj h).symm, ha, hb⟩
      · cases h
    · cases h
  · rintro ⟨hnext, a, b, rfl, ha, hb⟩
    obtain ⟨monthEnd, hend⟩ := today.exists_isDayOfMonth (daysIn_pos today.isCivil.2.1)
    have hday := hend.2.2
    rw [Nat.min_self] at hday
    simp only [Date.lastOfMonth?_eq_some_iff_isDayOfMonth.2 ⟨hnext, hend⟩, hday,
      Date.ofCivil?_min_eq_some_iff.2 ha, Date.ofCivil?_min_eq_some_iff.2 hb]

/-- The days from one day of a month to a later one are days of that month. -/
theorem Date.between_isDayOfMonth {a b d : Date} (ha : a.IsDayOfMonth today low)
    (hb : b.IsDayOfMonth today high) (had : a ≤ d) (hdb : d ≤ b) :
    d.year = today.year ∧ d.month = today.month := by
  have haCivil := a.isCivil
  have hdCivil := d.isCivil
  have hbCivil := b.isCivil
  have haDays := daysIn_le a.year a.month
  have hdDays := daysIn_le d.year d.month
  have hbDays := daysIn_le b.year b.month
  obtain ⟨hay, ham, -⟩ := ha
  obtain ⟨hby, hbm, -⟩ := hb
  rw [le_def, serial, serial] at had hdb
  have hyear : d.year = today.year := by omega
  exact ⟨hyear, by omega⟩

/-- Days of one month are ordered by their numbers. -/
theorem Date.le_of_isDayOfMonth {a b : Date} (ha : a.IsDayOfMonth today low)
    (hb : b.IsDayOfMonth today high) (h : low ≤ high) : a ≤ b := by
  obtain ⟨hay, ham, had⟩ := ha
  obtain ⟨hby, hbm, hbd⟩ := hb
  rw [le_def, serial, serial]
  omega

end

/-! ## The two filters -/

namespace DatePhrase

/-- Whether the range of dates that a message states is that of two days of the month. -/
def IsDaysWindow (text : List Char) (now : Moment) (w : Window) : Prop :=
  endpoints? text = none ∧ rangeWindow? text now = some w

variable {text : List Char} {now : Moment} {w : Window}

/-- The window of two days, by what the message says. -/
theorem isDaysWindow_iff : IsDaysWindow text now w ↔ endpoints? text = none ∧
    now.date.HasNextMonth ∧ ∃ p low high, AmountPhrase.rangePhrase? text = some p ∧
      p.IsDays low high ∧ ∃ a b : Date, w = .days a b ∧ a.IsDayOfMonth now.date low ∧
        b.IsDayOfMonth now.date high := by
  rw [IsDaysWindow]
  refine and_congr_right fun hends => ?_
  simp only [rangeWindow?, hends]
  constructor
  · intro h
    split at h
    · next low high hdays =>
      obtain ⟨p, hp, hp'⟩ := AmountPhrase.bind_days?_eq_some_iff.1 hdays
      obtain ⟨hnext, hw⟩ := Window.daysOfMonth?_eq_some_iff.1 h
      exact ⟨hnext, p, low, high, hp, hp', hw⟩
    · cases h
  · rintro ⟨hnext, p, low, high, hp, hp', hw⟩
    rw [AmountPhrase.bind_days?_eq_some_iff.2 ⟨p, hp, hp'⟩]
    exact Window.daysOfMonth?_eq_some_iff.2 ⟨hnext, hw⟩

/-- The filter for amounts reads the phrase unless its numbers are days. -/
theorem isSome_amountRange_iff : (Filter.amountRange.test? text now).isSome = true ↔
    (∃ p x y, AmountPhrase.rangePhrase? text = some p ∧
      AmountPhrase.read? p.first.number = some x ∧ AmountPhrase.read? p.second.number = some y) ∧
    ¬∃ p low high, AmountPhrase.rangePhrase? text = some p ∧ p.IsDays low high := by
  -- the phrase gives amounts if both its numbers can be read and it does not speak of days
  have hread : (AmountPhrase.between? text).isSome = true ↔
      ∃ p x y, AmountPhrase.rangePhrase? text = some p ∧
        AmountPhrase.read? p.first.number = some x ∧
        AmountPhrase.read? p.second.number = some y := by
    rw [AmountPhrase.between?_eq]
    simp [Option.isSome_bind, Option.any_eq_true, Option.isSome_iff_exists]
  have hdays : (∃ p low high, AmountPhrase.rangePhrase? text = some p ∧ p.IsDays low high) ↔
      ((AmountPhrase.between? text).bind AmountPhrase.Between.days?).isSome = true := by
    simp only [Option.isSome_iff_exists, Prod.exists, AmountPhrase.bind_days?_eq_some_iff]
    constructor
    · rintro ⟨p, low, high, hp⟩
      exact ⟨low, high, p, hp⟩
    · rintro ⟨low, high, p, hp⟩
      exact ⟨p, low, high, hp⟩
  rw [← hread, hdays, Filter.amountRange, Option.isSome_map, AmountPhrase.range?]
  cases AmountPhrase.between? text with
  | none => simp
  | some b => simp [Option.isSome_filter]

/-- A message with two numbers and everything between them states a range of amounts or a range of
days of the present month, but never both. If its numbers can be read, it states one of them, unless
it has a range of dates as well or no month follows the present one. Days are moved back to the last
day of the month, so that their window is never empty. -/
theorem amounts_or_days (text : List Char) (now : Moment) :
    (∀ p, AmountPhrase.rangePhrase? text = some p → p.IsWrittenIn text) ∧
    ¬((Filter.amountRange.test? text now).isSome = true ∧ ∃ w, IsDaysWindow text now w) ∧
    (∀ p x y, AmountPhrase.rangePhrase? text = some p →
      AmountPhrase.read? p.first.number = some x → AmountPhrase.read? p.second.number = some y →
      endpoints? text = none → now.date.HasNextMonth →
      (Filter.amountRange.test? text now).isSome = true ∨ ∃ w, IsDaysWindow text now w) ∧
    (∀ p low high, AmountPhrase.rangePhrase? text = some p → p.IsDays low high →
      endpoints? text = none → now.date.HasNextMonth → ∃ w, IsDaysWindow text now w) ∧
    ∀ w, IsDaysWindow text now w →
      (∃ p low high, AmountPhrase.rangePhrase? text = some p ∧ p.IsDays low high ∧
        ∃ a b : Date, w = .days a b ∧ a.IsDayOfMonth now.date low ∧
          b.IsDayOfMonth now.date high) ∧
      w.holds w.first = true ∧
      ∀ m, w.holds m = true → m.year = now.year ∧ m.month = now.month := by
  -- a number beyond the end of the month means its last day, so either bound is a day of the month
  have hexists : ∀ p low high, AmountPhrase.rangePhrase? text = some p → p.IsDays low high →
      endpoints? text = none → now.date.HasNextMonth → ∃ w, IsDaysWindow text now w := by
    intro p low high hp hp' hends hnext
    have hbounds := hp'.bounds
    obtain ⟨a, ha⟩ := now.date.exists_isDayOfMonth (n := low) (by omega)
    obtain ⟨b, hb⟩ := now.date.exists_isDayOfMonth (n := high) (by omega)
    exact ⟨.days a b,
      isDaysWindow_iff.2 ⟨hends, hnext, p, low, high, hp, hp', a, b, rfl, ha, hb⟩⟩
  refine ⟨fun p => AmountPhrase.isWrittenIn_of_rangePhrase?, ?_, ?_, hexists, ?_⟩
  · rintro ⟨hamounts, w, hw⟩
    obtain ⟨-, -, p, low, high, hp, hp', -⟩ := isDaysWindow_iff.1 hw
    exact (isSome_amountRange_iff.1 hamounts).2 ⟨p, low, high, hp, hp'⟩
  · intro p x y hp hx hy hends hnext
    by_cases hdays : ∃ p low high, AmountPhrase.rangePhrase? text = some p ∧ p.IsDays low high
    · obtain ⟨p', low, high, hp', hdays⟩ := hdays
      exact .inr (hexists p' low high hp' hdays hends hnext)
    · exact .inl (isSome_amountRange_iff.2 ⟨⟨p, x, y, hp, hx, hy⟩, hdays⟩)
  · intro w hw
    obtain ⟨-, -, p, low, high, hp, hp', a, b, rfl, ha, hb⟩ := isDaysWindow_iff.1 hw
    refine ⟨⟨p, low, high, hp, hp', a, b, rfl, ha, hb⟩, ?_, ?_⟩
    · have hab : a ≤ b := Date.le_of_isDayOfMonth ha hb hp'.bounds.2.1
      exact Window.days_holds_iff.2 ⟨⟨Int.le_refl _, hab⟩, fun h => by cases h.2⟩
    · intro m hm
      obtain ⟨had, hdb⟩ := Window.days_holds_of hm
      exact Date.between_isDayOfMonth ha hb had hdb

/-- Two days, the larger one first. -/
def monthEnd : List Char := "between the 31st and 25th".toList

/-- A day in February. -/
def february10 : Moment := .startOf ⟨2025, 2, 10, by decide⟩

/-- The phrase for the two days. -/
def monthEndPhrase : AmountPhrase.RangePhrase :=
  ⟨⟨none, "31".toList, some "st".toList⟩, ⟨none, "25".toList, some "th".toList⟩⟩

theorem isDays_monthEndPhrase : monthEndPhrase.IsDays 25 31 where
  unmarked := ⟨rfl, rfl⟩
  ordinal := .inl (by decide)
  bounds := by decide
  days := .inr ⟨⟨31, by decide +kernel, by decide +kernel⟩,
    ⟨25, by decide +kernel, by decide +kernel⟩⟩

/-- In February the larger day is moved back. -/
theorem monthEnd_of_february :
    AmountPhrase.rangePhrase? monthEnd = some monthEndPhrase ∧ monthEndPhrase.IsDays 25 31 ∧
    endpoints? monthEnd = none ∧ february10.date.HasNextMonth ∧
    ∃ w, IsDaysWindow monthEnd february10 w ∧ w.last = .endOf ⟨2025, 2, 28, by decide⟩ := by
  have hphrase : AmountPhrase.rangePhrase? monthEnd = some monthEndPhrase := by decide +kernel
  have hends : endpoints? monthEnd = none := by decide +kernel
  have hnext : february10.date.HasNextMonth := by rw [Date.HasNextMonth]; decide
  obtain ⟨w, hw⟩ := (amounts_or_days monthEnd february10).2.2.2.1 _ _ _ hphrase
    isDays_monthEndPhrase hends hnext
  refine ⟨hphrase, isDays_monthEndPhrase, hends, hnext, w, hw, ?_⟩
  have hfound : rangeWindow? monthEnd february10 =
      some (.days ⟨2025, 2, 25, by decide⟩ ⟨2025, 2, 28, by decide⟩) := by decide +kernel
  obtain rfl := Option.some.inj (hw.2.symm.trans hfound)
  rfl

end DatePhrase

end AskLedger
