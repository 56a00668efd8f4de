import AskLedger.Proofs.Replacements
import AskLedger.Proofs.SpelledDates
import AskLedger.Proofs.YearNumerals

/-!
# Years beside dates

Before a year is looked for in a message, its numeric dates are taken out and then its ISO dates.
Dates may share characters, though, and of numeric dates that do only the first one is taken out, so
a date that has lost some of its characters is not taken out as a whole and its year is left. Apart
from such dates a year that is found belongs to no date.

* `Stretch.IsDateIn`: the dates of a message.
* `DatePhrase.exists_takenOut_of_overlaps`: a date whose year is left shares characters with one
  that is taken out.
* `DatePhrase.isSome_bareYear?_of_free`: a year that belongs to no date is found, or another one.
* `DatePhrase.year_beside_dates`: both of this together.
-/

namespace AskLedger

open Decimal (numeral)
open Text (isDigit isWordChar)

/-! ## Dates of a text -/

/-- Whether a stretch is a numeric date or an ISO date of a text, without a word character next to
it. It may be one that the calendar does not have. -/
def Stretch.IsDateIn (d : Stretch) (text : List Char) : Prop :=
  d.StandsIn text ∧ ∃ r : DigitRuns, (r.IsNumeric ∨ r.IsIso) ∧ d.text = r.text

namespace Stretch

variable {s d : Stretch} {text : List Char}

/-- A part of a stretch stands apart if no word character of the stretch is next to it. -/
theorem StandsIn.part {u w v : List Char} (h : d.StandsIn text) (hd : d.text = u ++ (w ++ v))
    (hu : u.getLast?.any isWordChar = false) (hv : v.head?.any isWordChar = false) :
    StandsIn ⟨d.offset + u.length, w⟩ text := by
  obtain ⟨front, back, htext, hoffset, hfront, hback⟩ := h
  refine ⟨front ++ u, v ++ back, by simp [htext, hd], by simp [hoffset], ?_,
    Text.head?_any_append hv hback⟩
  rw [← List.head?_reverse] at hfront hu ⊢
  rw [List.reverse_append]
  exact Text.head?_any_append hu hfront

/-- A year of four digits that stands apart and overlaps an ISO date is the year of that date. -/
theorem eq_year_of_overlaps {r : DigitRuns} (hs : ∀ c ∈ s.text, isDigit c = true)
    (hlength : s.text.length = 4) (hsText : s.StandsIn text) (hr : r.IsIso) (hd : d.text = r.text)
    (hdText : d.StandsIn text) (h : d.Overlaps s) : s = ⟨d.offset, r.first⟩ := by
  have hmark : ∀ c ∈ dateMarks, isWordChar c = false := Text.forall_of_all (by decide)
  have hmarkHead : ∀ {c : Char} {rest : List Char}, c ∈ dateMarks →
      (c :: rest).head?.any isWordChar = false := fun hc => hmark _ hc
  have hmarkLast : ∀ {c : Char} {front : List Char}, c ∈ dateMarks →
      (front ++ [c]).getLast?.any isWordChar = false := by
    intro c front hc
    simpa using hmark c hc
  have hword : ∀ {s : List Char}, (∀ c ∈ s, isDigit c = true) → ∀ c ∈ s, isWordChar c = true :=
    fun hs c hc => Text.isWordChar_of_isDigit (hs c hc)
  obtain ⟨hfirst, hsecond, hthird⟩ := r.areDigits
  obtain ⟨hmark₁, hmark₂⟩ := r.areMarks
  obtain ⟨hfour, hshort, hshort', -⟩ := hr
  -- each run of the date stands apart, so it is the year or shares no character with it
  have hsecondText : d.text = (r.first ++ [r.mark]) ++ (r.second ++ r.mark' :: r.third) := by
    simp [hd, DigitRuns.text]
  have hthirdText : d.text =
      (r.first ++ r.mark :: r.second ++ [r.mark']) ++ (r.third ++ []) := by
    simp [hd, DigitRuns.text]
  have hfirstStands := hdText.part (u := []) hd rfl (hmarkHead hmark₁)
  have hsecondStands := hdText.part hsecondText (hmarkLast hmark₁) (hmarkHead hmark₂)
  have hthirdStands := hdText.part hthirdText (hmarkLast hmark₂) rfl
  have hdLength : d.text.length = r.first.length + r.second.length + r.third.length + 2 := by
    rw [hd, DigitRuns.text]
    simp
    omega
  have hsame : ∀ {t : Stretch}, (∀ c ∈ t.text, isDigit c = true) → t.StandsIn text →
      s.Overlaps t → s = t := fun ht htText hover =>
    eq_of_overlaps (hword hs) (hword ht) hsText htText hover
  -- four characters reach from the marks into a run
  have hover : s.Overlaps ⟨d.offset, r.first⟩ ∨
      s.Overlaps ⟨d.offset + (r.first ++ [r.mark]).length, r.second⟩ ∨
      s.Overlaps ⟨d.offset + (r.first ++ r.mark :: r.second ++ [r.mark']).length, r.third⟩ := by
    simp only [Overlaps, stop, hdLength, hlength, List.length_append, List.length_cons,
      List.length_nil] at h ⊢
    omega
  rcases hover with hover | hover | hover
  · exact hsame hfirst hfirstStands hover
  · have hlong : r.second.length = 4 := by rw [← hlength, hsame hsecond hsecondStands hover]
    omega
  · have hlong : r.third.length = 4 := by rw [← hlength, hsame hthird hthirdStands hover]
    omega

end Stretch

namespace DatePhrase

namespace ReadsRuns

variable {p : Pattern} {Allowed : DigitRuns → Prop} {text : List Char} (hp : ReadsRuns p Allowed)
include hp

theorem takesSome_whole : (Pattern.whole p).takesSome = true := by
  simp [Pattern.whole, Pattern.inOrder, Pattern.takesSome,
    Pattern.takesSome_of_startsInWord hp.startsInWord]

/-- Matches are runs that stand apart in their places. -/
theorem standsIn_of_mem_all {m : Match} (h : m ∈ (Pattern.whole p).all text) :
    m.stretch.StandsIn text ∧ ∃ r, Allowed r ∧ m.stretch.text = r.text := by
  obtain ⟨hwhole, hstop⟩ := Pattern.mem_reaches_of_mem_all h
  obtain ⟨hbefore, hafter⟩ := Pattern.outside_of_leads_whole hp.startsInWord hp.endsInWord
    (Pattern.leads_of_mem_reaches hstop)
  obtain ⟨s, g, hreads, hs, hplace, -⟩ := Pattern.reads_of_mem_reaches hstop
  obtain ⟨r, hr, rfl, -⟩ := hp.reads_iff.1 hreads
  have hread : m.text = r.text := by
    rw [Match.text, Place.upTo, Place.offset, Place.offset, hplace, hs]
    simp
  refine ⟨⟨m.start.before.reverse, m.stop.place.after, ?_, by simp [Match.stretch, Place.offset],
    by rwa [List.getLast?_reverse], hafter⟩, r, hr, hread⟩
  rw [← hwhole, Place.whole, hs, Match.stretch, hread]

/-- Runs of its kind that stand apart overlap one of the matches. -/
theorem exists_overlaps {d : Stretch} {r : DigitRuns} (hr : Allowed r) (hd : d.text = r.text)
    (h : d.StandsIn text) : ∃ m ∈ (Pattern.whole p).all text, m.stretch.Overlaps d := by
  by_contra hnone
  have hfree : ∀ m ∈ (Pattern.whole p).all text, ¬m.stretch.Overlaps d :=
    fun m hm hover => hnone ⟨m, hm, hover⟩
  obtain ⟨front, back, rfl, hoffset, hfront, hback⟩ := h
  have hne : d.text ≠ [] := by simp [hd, DigitRuns.text]
  have hstretch : d = ⟨front.length, d.text⟩ := Stretch.ext hoffset rfl
  rw [hstretch] at hfree
  obtain ⟨out, found, hpasses⟩ :=
    Pattern.exists_passes_of_free hp.takesSome_whole (by simp) hne hfree
  -- the search gets to the runs and reads them
  obtain ⟨m, hm, htext, -⟩ := @matchAt?_text _ _ hp r front.reverse back hr
    (by rwa [List.head?_reverse]) hback
  rw [← hd] at hm
  obtain ⟨rest, -, -, hplace, -, hall⟩ := Pattern.step_of_match hp.takesSome_whole hm
  have hmem : m ∈ (Pattern.whole p).all (front ++ (d.text ++ back)) := by
    rw [Pattern.all, (hpasses.split hp.takesSome_whole).2, List.append_nil, hall]
    exact List.mem_append_right _ List.mem_cons_self
  refine hfree m hmem ?_
  have hsame : m.stretch = ⟨front.length, d.text⟩ :=
    Stretch.ext (by simpa [Match.stretch] using hplace) (htext.trans hd.symm)
  have hpos := List.length_pos_of_ne_nil hne
  rw [hsame]
  simp only [Stretch.Overlaps, Stretch.stop]
  omega

/-- Taking runs out of a text does not change what stands apart in it. -/
theorem edges_of_kept {front s back out outBack : List Char}
    (h : (Pattern.whole p).Kept front s back out outBack) (hs : Text.IsWordlike s) :
    (out.getLast?.any isWordChar = false ∧ outBack.head?.any isWordChar = false) ↔
      front.getLast?.any isWordChar = false ∧ back.head?.any isWordChar = false :=
  h.edges_iff hp.startsInWord hp.endsInWord hs

end ReadsRuns

/-- The numeric dates that are taken out of a message before its ISO dates and its year are looked
for. -/
def takenOut (text : List Char) : List Stretch := (numericDate.all text).map Match.stretch

variable {text : List Char}

/-- What is taken out is a date of the text. -/
theorem isDateIn_of_mem_takenOut {t : Stretch} (h : t ∈ takenOut text) : t.IsDateIn text := by
  obtain ⟨m, hm, rfl⟩ := List.mem_map.1 h
  obtain ⟨hstands, r, hr, htext⟩ := readsRuns_numericDate.standsIn_of_mem_all hm
  exact ⟨hstands, r, .inl hr, htext⟩

/-- The numeral of a year is four digits. -/
theorem year_chars {n : Nat} (h : IsBareYear n) :
    (numeral n).length = 4 ∧ Text.IsWordlike (numeral n) := by
  obtain rfl | rfl | rfl : n = 2024 ∨ n = 2025 ∨ n = 2026 := by
    unfold IsBareYear at h
    omega
  all_goals exact ⟨rfl, by decide, rfl, rfl⟩

/-- An ISO date starts and ends with a digit. -/
theorem isWordlike_isoDate {r : DigitRuns} (hr : r.IsIso) : Text.IsWordlike r.text := by
  obtain ⟨hdigits, -, hdigits'⟩ := r.areDigits
  obtain ⟨hfour, -, hshort, -⟩ := hr
  obtain ⟨c, first, hfirst⟩ := List.exists_cons_of_ne_nil
    (List.ne_nil_of_length_pos (by omega : 0 < r.first.length))
  have hthird := List.ne_nil_of_length_pos (by omega : 0 < r.third.length)
  have hhead : isWordChar c = true :=
    Text.isWordChar_of_isDigit (hdigits c (by rw [hfirst]; exact List.mem_cons_self))
  have hlast : isWordChar (r.third.getLast hthird) = true :=
    Text.isWordChar_of_isDigit (hdigits' _ (List.getLast_mem hthird))
  refine ⟨fun h => ?_, by simp [DigitRuns.text, hfirst, hhead], ?_⟩
  · have hblank := DigitRuns.isBlank_of_mem_text h
    cases hblank
  · have htext : r.text = (r.first ++ r.mark :: (r.second ++ [r.mark'])) ++ r.third := by
      simp [DigitRuns.text]
    rw [htext, List.getLast?_append_of_ne_nil _ hthird, List.getLast?_eq_some_getLast hthird]
    exact hlast

/-- If an ISO date stands in a text but not where its front comes out, it shares characters with
a numeric date that has been taken out. -/
theorem exists_takenOut_of_isoDate {front s back back' out outBack : List Char} {r : DigitRuns}
    (hr : r.IsIso) (h : numericDate.Kept front s back out outBack)
    (htext : s ++ back = r.text ++ back') (hfront : front.getLast?.any isWordChar = false)
    (hback' : back'.head?.any isWordChar = false)
    (hnone : isoDate.matchAt? ⟨out.reverse, s ++ outBack⟩ = none) :
    ∃ t ∈ takenOut (front ++ (s ++ back)), t.Overlaps ⟨front.length, r.text⟩ := by
  by_contra hno
  have hwordlike := isWordlike_isoDate hr
  have hfree : ∀ m ∈ numericDate.all (front ++ (r.text ++ back')),
      ¬m.stretch.Overlaps ⟨front.length, r.text⟩ := fun m hm hover =>
    hno ⟨m.stretch, List.mem_map_of_mem (htext ▸ hm), hover⟩
  -- otherwise it is kept as a whole
  obtain ⟨out', outBack', h'⟩ :=
    Pattern.exists_kept_of_free readsRuns_numericDate.takesSome_whole hwordlike hfree
  obtain rfl := h.out_unique readsRuns_numericDate.takesSome_whole h' htext
  have hout : out ++ (r.text ++ outBack') = out ++ (s ++ outBack) :=
    h'.replaceAll_eq.symm.trans (htext ▸ h.replaceAll_eq)
  obtain ⟨hlastOut, hheadOut⟩ :=
    (readsRuns_numericDate.edges_of_kept h' hwordlike).2 ⟨hfront, hback'⟩
  obtain ⟨m, hm, -⟩ := @ReadsRuns.matchAt?_text _ _ readsRuns_isoDate r out.reverse outBack' hr
    (by rwa [List.head?_reverse]) hheadOut
  rw [List.append_cancel_left hout] at hm
  exact absurd (hm.symm.trans hnone) (by simp)

/-- A date whose year is left shares characters with a date that is taken out. -/
theorem exists_takenOut_of_overlaps {y : Int} (h : bareYear? text = some y) :
    ∃ (n : Nat) (s : Stretch), y = n ∧ IsBareYear n ∧ s.text = numeral n ∧ s.StandsIn text ∧
      (∀ t ∈ takenOut text, ¬t.Overlaps s) ∧
      ∀ d : Stretch, d.IsDateIn text → d.Overlaps s → ∃ t ∈ takenOut text, t.Overlaps d := by
  obtain ⟨m, hm, hnumber⟩ := Option.bind_eq_some_iff.1 h
  obtain ⟨hwhole, hstop⟩ := Pattern.mem_reaches_of_find? hm
  obtain ⟨n, rest, hn, hsplit, -, hgroup, hbefore, hafter⟩ := exists_numeral_of_yearWord hstop
  have hy : y = n := by
    rw [hgroup] at hnumber
    exact (Option.some.inj hnumber).symm
  obtain ⟨hlength, hwordlike⟩ := year_chars hn
  -- from the place where it is found back to the one in the message
  have hout : isoDate.replaceAll [' '] (numericDate.replaceAll [' '] text) =
      m.start.before.reverse ++ (numeral n ++ rest) := by
    rw [← hsplit]
    exact hwhole.symm
  obtain ⟨out, outBack, hout', hiso⟩ :=
    Pattern.exists_kept_of_replaceAll readsRuns_isoDate.takesSome_whole hwordlike hout
  obtain ⟨front, back, rfl, hnumeric⟩ :=
    Pattern.exists_kept_of_replaceAll readsRuns_numericDate.takesSome_whole hwordlike hout'
  have hedges := (readsRuns_isoDate.edges_of_kept hiso hwordlike).1
    ⟨by rwa [List.getLast?_reverse], hafter⟩
  obtain ⟨hfront, hback⟩ := (readsRuns_numericDate.edges_of_kept hnumeric hwordlike).1 hedges
  have hstands : Stretch.StandsIn ⟨front.length, numeral n⟩ (front ++ (numeral n ++ back)) :=
    ⟨front, back, rfl, rfl, hfront, hback⟩
  refine ⟨n, ⟨front.length, numeral n⟩, hy, hn, rfl, hstands, ?_, ?_⟩
  · intro t ht
    obtain ⟨m', hm', rfl⟩ := List.mem_map.1 ht
    exact hnumeric.free m' hm'
  · rintro d ⟨hdText, r, hr | hr, hd⟩ hover
    · obtain ⟨m', hm', hover'⟩ := readsRuns_numericDate.exists_overlaps hr hd hdText
      exact ⟨m'.stretch, List.mem_map_of_mem hm', hover'⟩
    · have hyear := Stretch.eq_year_of_overlaps Text.isDigit_of_mem_numeral hlength hstands hr hd
        hdText hover
      obtain ⟨front', back', htext, hoffset, hfront', hback'⟩ := hdText
      have hplace : front.length = d.offset := congrArg Stretch.offset hyear
      obtain ⟨rfl, htext'⟩ := List.append_inj htext (hplace.trans hoffset)
      rw [hd] at htext'
      obtain ⟨t, ht, hover'⟩ := exists_takenOut_of_isoDate hr hnumeric htext' hfront hback'
        hiso.noMatch
      exact ⟨t, ht, by rwa [show d = ⟨front.length, r.text⟩ from Stretch.ext hoffset hd]⟩

/-- What comes out of a text from which numeric dates are taken out has no ISO dates of its own: one
that overlaps a year there is one of the text as well. -/
theorem exists_isoDate_of_kept {front back out outBack : List Char} {n : Nat} {m : Match}
    (hn : IsBareYear n) (h : numericDate.Kept front (numeral n) back out outBack)
    (hstands : Stretch.StandsIn ⟨out.length, numeral n⟩ (out ++ (numeral n ++ outBack)))
    (hm : m ∈ isoDate.all (out ++ (numeral n ++ outBack)))
    (hover : m.stretch.Overlaps ⟨out.length, numeral n⟩) :
    ∃ d : Stretch, d.IsDateIn (front ++ (numeral n ++ back)) ∧
      d.Overlaps ⟨front.length, numeral n⟩ := by
  obtain ⟨hdText, r, hr, hd⟩ := readsRuns_isoDate.standsIn_of_mem_all hm
  have hyear := Stretch.eq_year_of_overlaps Text.isDigit_of_mem_numeral (year_chars hn).1 hstands hr
    hd hdText hover
  obtain ⟨out', outBack', htext, hoffset, hlastOut, hheadOut⟩ := hdText
  have hplace : out.length = m.stretch.offset := congrArg Stretch.offset hyear
  obtain ⟨rfl, -⟩ := List.append_inj htext (hplace.trans hoffset)
  -- it was kept in front of the same place
  have hwordlike := isWordlike_isoDate hr
  rw [hd] at htext
  obtain ⟨front', back', htext', h'⟩ := Pattern.exists_kept_of_replaceAll
    readsRuns_numericDate.takesSome_whole hwordlike (h.replaceAll_eq.trans htext)
  obtain rfl := h.front_unique h' htext'
  obtain ⟨hfront, hback⟩ :=
    (readsRuns_numericDate.edges_of_kept h' hwordlike).1 ⟨hlastOut, hheadOut⟩
  refine ⟨⟨front.length, r.text⟩, ⟨⟨front, back', htext', rfl, hfront, hback⟩, r, .inr hr, rfl⟩, ?_⟩
  have hpos := List.length_pos_of_ne_nil hwordlike.ne_nil
  have hlength := (year_chars hn).1
  simp only [Stretch.Overlaps, Stretch.stop]
  omega

/-- A message in which some year belongs to no date is about a year. -/
theorem isSome_bareYear?_of_free {n : Nat} {s : Stretch} (hn : IsBareYear n)
    (hs : s.text = numeral n) (hsText : s.StandsIn text)
    (hfree : ∀ d : Stretch, d.IsDateIn text → ¬d.Overlaps s) : (bareYear? text).isSome = true := by
  obtain ⟨front, back, rfl, hoffset, hfront, hback⟩ := hsText
  obtain rfl : s = ⟨front.length, numeral n⟩ := Stretch.ext hoffset hs
  have hwordlike := (year_chars hn).2
  -- neither the numeric dates nor what is left of the ISO dates reach it
  obtain ⟨out, outBack, hnumeric⟩ := Pattern.exists_kept_of_free
    readsRuns_numericDate.takesSome_whole hwordlike fun m hm =>
      hfree _ (isDateIn_of_mem_takenOut (List.mem_map_of_mem hm))
  obtain ⟨hlastOut, hheadOut⟩ :=
    (readsRuns_numericDate.edges_of_kept hnumeric hwordlike).2 ⟨hfront, hback⟩
  have hfreeOut : ∀ m ∈ isoDate.all (out ++ (numeral n ++ outBack)),
      ¬m.stretch.Overlaps ⟨out.length, numeral n⟩ := by
    intro m hm hover
    obtain ⟨d, hd, hover'⟩ := exists_isoDate_of_kept hn hnumeric
      ⟨out, outBack, rfl, rfl, hlastOut, hheadOut⟩ hm hover
    exact hfree d hd hover'
  obtain ⟨out', outBack', hiso⟩ :=
    Pattern.exists_kept_of_free readsRuns_isoDate.takesSome_whole hwordlike hfreeOut
  obtain ⟨hlastOut', hheadOut'⟩ :=
    (readsRuns_isoDate.edges_of_kept hiso hwordlike).2 ⟨hlastOut, hheadOut⟩
  have hwithout : withoutDates (front ++ (numeral n ++ back)) = out' ++ (numeral n ++ outBack') :=
    (congrArg (isoDate.replaceAll [' ']) hnumeric.replaceAll_eq).trans hiso.replaceAll_eq
  obtain ⟨m, hm, -⟩ := @matchAt?_yearWord_numeral _ out'.reverse outBack'
    (by rwa [List.head?_reverse]) hheadOut' hn
  have hfound : yearWord.isIn (withoutDates (front ++ (numeral n ++ back))) = true :=
    Pattern.isIn_iff.2 ⟨out', numeral n ++ outBack', hwithout, by rw [hm]; rfl⟩
  obtain ⟨m', hm'⟩ := Option.isSome_iff_exists.1 hfound
  obtain ⟨k, -, -, -, -, hgroup, -⟩ :=
    exists_numeral_of_yearWord (Pattern.mem_reaches_of_find? hm').2
  rw [bareYear?, hm', Option.bind_some, hgroup]
  rfl

/-- The year of a message stands apart and belongs to no numeric date that is taken out. It may
belong to other dates, but each of them shares characters with one that is taken out; so it belongs
to none if no dates of the message share characters. Conversely, a message in which some year
belongs to no date is about a year. -/
theorem year_beside_dates (text : List Char) :
    (∀ y, bareYear? text = some y → ∃ (n : Nat) (s : Stretch), y = n ∧ IsBareYear n ∧
      s.text = numeral n ∧ s.StandsIn text ∧
      (∀ t ∈ takenOut text, t.IsDateIn text ∧ ¬t.Overlaps s) ∧
      (∀ d : Stretch, d.IsDateIn text → d.Overlaps s →
        ∃ t ∈ takenOut text, t ≠ d ∧ t.Overlaps d) ∧
      ((∀ d d' : Stretch, d.IsDateIn text → d'.IsDateIn text → d.Overlaps d' → d = d') →
        ∀ d : Stretch, d.IsDateIn text → ¬d.Overlaps s)) ∧
    ∀ (n : Nat) (s : Stretch), IsBareYear n → s.text = numeral n → s.StandsIn text →
      (∀ d : Stretch, d.IsDateIn text → ¬d.Overlaps s) → (bareYear? text).isSome = true := by
  refine ⟨?_, fun n s hn hs hsText hfree => isSome_bareYear?_of_free hn hs hsText hfree⟩
  intro y h
  obtain ⟨n, s, hy, hn, hs, hsText, hleft, hbroken⟩ := exists_takenOut_of_overlaps h
  -- a date that overlaps the year was itself broken by another one, which was taken out before it
  have hother : ∀ d : Stretch, d.IsDateIn text → d.Overlaps s →
      ∃ t ∈ takenOut text, t ≠ d ∧ t.Overlaps d := by
    intro d hd hover
    obtain ⟨t, ht, hover'⟩ := hbroken d hd hover
    exact ⟨t, ht, fun heq => hleft t ht (heq ▸ hover), hover'⟩
  refine ⟨n, s, hy, hn, hs, hsText, fun t ht => ⟨isDateIn_of_mem_takenOut ht, hleft t ht⟩, hother,
    ?_⟩
  intro hapart d hd hover
  obtain ⟨t, ht, hne, hover'⟩ := hother d hd hover
  exact hne (hapart t d (isDateIn_of_mem_takenOut ht) hd hover')

/-- An ISO date that shares its month and its day with a numeric date. -/
def brokenText : List Char := "2024-1-2-23".toList

/-- The ISO date. -/
def brokenDate : Stretch := ⟨0, "2024-1-2".toList⟩

theorem isDateIn_brokenDate : brokenDate.IsDateIn brokenText :=
  ⟨⟨[], "-23".toList, rfl, rfl, rfl, rfl⟩,
    ⟨numeral 2024, numeral 1, numeral 2, '-', '-',
      ⟨Text.isDigit_of_mem_numeral, Text.isDigit_of_mem_numeral, Text.isDigit_of_mem_numeral⟩,
      by decide⟩,
    .inr (by unfold DigitRuns.IsIso; decide), rfl⟩

/-- The numeric date is taken out, and the year of the ISO date is found. -/
theorem year_of_brokenDate : bareYear? brokenText = some 2024 ∧ brokenDate.IsDateIn brokenText ∧
    (∀ s : Stretch, s.text = numeral 2024 → s.StandsIn brokenText → brokenDate.Overlaps s) ∧
    ∃ t ∈ takenOut brokenText, t ≠ brokenDate ∧ t.Overlaps brokenDate := by
  have hyear : bareYear? brokenText = some 2024 := by decide +kernel
  -- the ISO date is too long for a year beside it
  have hover : ∀ s : Stretch, s.text = numeral 2024 → s.StandsIn brokenText →
      brokenDate.Overlaps s := by
    rintro s hs ⟨front, back, htext, hoffset, -, -⟩
    have hlength := congrArg List.length htext
    have hfour : s.text.length = 4 := by rw [hs]; rfl
    rw [List.length_append, List.length_append, hfour, ← hoffset] at hlength
    have heleven : brokenText.length = 11 := rfl
    have height : brokenDate.stop = 8 := rfl
    have hzero : brokenDate.offset = 0 := rfl
    simp only [Stretch.Overlaps, height, hzero]
    rw [Stretch.stop, hfour]
    omega
  obtain ⟨n, s, hn, -, hs, hsText, -, hother, -⟩ := (year_beside_dates brokenText).1 2024 hyear
  obtain rfl : n = 2024 := by omega
  exact ⟨hyear, isDateIn_brokenDate, hover, hother _ isDateIn_brokenDate (hover s hs hsText)⟩

end DatePhrase

end AskLedger
