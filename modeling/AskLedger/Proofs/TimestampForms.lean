import Mathlib.Data.List.TakeWhile
import AskLedger.Proofs.LayoutTexts
import AskLedger.Proofs.OuterBlanks

/-!
# Forms of a timestamp

A moment can be written in several forms: with a `T` or a space between the date and the time, with
a fraction of a second where it has one, or without the second where it is a whole minute; any
number of `Z` may follow, and blanks may surround it. Every form of every moment is read back as
that moment, leap seconds and years of more than four digits included.

* `Moment.fraction_cases`: what a written fraction looks like.
* `Moment.readAs?_secondForm`, `Moment.readAs?_minuteForm`: a form is read by its own layout.
* `Moment.read?_of_body`: what stands around a form does not matter.
* `Moment.forms_read_back`: every form is read back.
-/

namespace AskLedger

open Decimal (numeral length_numeral_le)

/-! ## Reading the parts of a form -/

/-- A fraction that is not written is zero; a written one has three, six or nine digits. -/
theorem Moment.fraction_cases {n : Nat} (h : n < 1000000000) :
    (n = 0 ∧ fraction n = "") ∨ ∃ w k, fraction n = "." ++ padded w k ∧
      (numeral k).length ≤ w ∧ w ≤ 9 ∧ k * Nat.pow 10 (9 - w) = n := by
  unfold fraction
  split
  · next hzero => exact .inl ⟨hzero, rfl⟩
  · split
    · next hthree =>
      refine .inr ⟨3, n / 1000000, rfl, length_numeral_le (by decide) ?_, by decide, ?_⟩
      · omega
      · show n / 1000000 * 1000000 = n
        omega
    · split
      · next hsix =>
        refine .inr ⟨6, n / 1000, rfl, length_numeral_le (by decide) ?_, by decide, ?_⟩
        · omega
        · show n / 1000 * 1000 = n
          omega
      · exact .inr ⟨9, n, rfl, length_numeral_le (by decide) h, by decide, Nat.mul_one n⟩

namespace Layout

variable {r : Reading}

/-- The digits of a written fraction stand for its nanoseconds. -/
theorem fractionValue_padded {w k : Nat} (hk : (numeral k).length ≤ w) (hw : w ≤ 9) :
    fractionValue (padded w k).toList = k * Nat.pow 10 (9 - w) := by
  have hlength : (padded w k).toList.length = w := length_padded hk
  rw [fractionValue, List.take_of_length_le (by omega), digitsValue_padded, hlength]

/-- A written fraction is read back. -/
theorem read?_fraction {n : Nat} (hn : n < 1000000000) (hr : r.nano = 0) :
    read? [.fraction] r (Moment.fraction n).toList = some { r with nano := n } := by
  rcases Moment.fraction_cases hn with ⟨rfl, hfraction⟩ | ⟨w, k, hfraction, hk, hw, rfl⟩
  · rw [hfraction, ← hr]
    rfl
  · have hdigits : (padded w k).toList.takeWhile Char.isDigit = (padded w k).toList :=
      List.takeWhile_eq_self_iff.2 isDigit_of_mem_padded
    have hrest : (padded w k).toList.dropWhile Char.isDigit = [] :=
      List.dropWhile_eq_nil_iff.2 isDigit_of_mem_padded
    have hne : (padded w k).toList.isEmpty = false := List.isEmpty_eq_false_iff.2 padded_ne_nil
    have hpart : readPart? .fraction r ('.' :: (padded w k).toList) =
        some ({ r with nano := k * Nat.pow 10 (9 - w) }, []) := by
      simp only [readPart?, hdigits, hrest, hne, fractionValue_padded hk hw, Bool.false_eq_true,
        if_false]
    have htext : ("." ++ padded w k).toList = '.' :: (padded w k).toList := by simp
    rw [hfraction, htext, read?_cons hpart]
    rfl

end Layout

/-! ## Forms -/

namespace Moment

/-- The date and the time to the second, with a fraction where there is one. -/
def secondForm (separator : Char) (m : Moment) : List Char :=
  m.date.written.toList ++ separator :: (m.clock ++ fraction m.shownNano).toList

/-- The date and the time to the minute. -/
def minuteForm (separator : Char) (m : Moment) : List Char :=
  m.date.written.toList ++ separator :: (padded 2 m.hour ++ ":" ++ padded 2 m.minute).toList

/-- What is shown of a second is less than one. -/
theorem shownNano_lt (m : Moment) : m.shownNano < 1000000000 := Nat.mod_lt _ (by decide)

/-- A part of a layout that reads what stands between the date and the time. -/
inductive Separates : LayoutPart → Char → Prop
  /-- A `T` is read as a mark. -/
  | letter : Separates (.mark 'T') 'T'
  /-- A space is read as a stretch of blanks. -/
  | space : Separates .blanks ' '

variable {part : LayoutPart} {separator : Char} {m : Moment}

/-- A mark between date and time is read as such. -/
theorem Separates.readPart? (h : Separates part separator) {rest : List Char}
    (hrest : ∀ c ∈ rest.head?, Text.isBlank c = false) (r : Reading) :
    Layout.readPart? part r (separator :: rest) = some (r, rest) := by
  cases h with
  | letter => simp [Layout.readPart?]
  | space =>
    have htrim : Text.trimStart (' ' :: rest) = rest := by
      rw [Text.trimStart_cons_of_blank (by decide), Text.trimStart, Text.dropWhile_of_head? hrest]
    rw [Layout.readPart?, htrim]

/-- Behind the date, the separator is read and then the time. -/
theorem read?_dateAndSeparator (h : Separates part separator) (m : Moment) {time : List Char}
    (htime : ∀ c ∈ time.head?, Text.isBlank c = false) (parts : List LayoutPart) :
    Layout.read? (Layout.date ++ part :: parts) {} (m.date.written.toList ++ separator :: time) =
      Layout.read? parts { year := m.year, month := m.month, day := m.date.day } time := by
  have hmark : ∀ c ∈ (separator :: time).head?, c.isDigit = false := by
    cases h <;> simp
  rw [Layout.read?_date hmark, Layout.read?_cons (h.readPart? htime _)]
  rfl

/-- The time starts with the hour. -/
theorem isBlank_head?_hour (m : Moment) (rest : List Char) :
    ∀ c ∈ ((padded 2 m.hour).toList ++ rest).head?, Text.isBlank c = false := by
  intro c hc
  rw [List.head?_append_of_ne_nil _ padded_ne_nil] at hc
  exact Text.isBlank_of_isDigit (isDigit_of_mem_padded c (List.mem_of_mem_head? hc))

/-- A moment with seconds is read back. -/
theorem readAs?_secondForm (h : Separates part separator) (m : Moment) :
    readAs? (Layout.date ++ part :: Layout.anySecond) (m.secondForm separator) = some m := by
  have hnano := m.shownNano_lt
  have hfraction : ∀ c ∈ (fraction m.shownNano).toList.head?, c.isDigit = false := by
    rcases fraction_cases hnano with ⟨-, hnone⟩ | ⟨w, k, hsome, -⟩
    · simp [hnone]
    · simp [hsome]
  have htime : (m.clock ++ fraction m.shownNano).toList = (padded 2 m.hour).toList ++ ':' ::
      ((padded 2 m.minute).toList ++ ':' ::
        ((padded 2 m.shownSecond).toList ++ (fraction m.shownNano).toList)) := by
    simp [clock]
  have hlayout : Layout.anySecond =
      Layout.hourMinute ++ [.mark ':', .field .second, .fraction] := rfl
  rw [readAs?, secondForm, htime, read?_dateAndSeparator h m (isBlank_head?_hour m _), hlayout,
    Layout.read?_hourMinute (by simp), Layout.read?_mark,
    Layout.read?_field hfraction (by decide) m.shownSecond_lt, Layout.read?_fraction hnano rfl]
  exact moment?_inFull m

/-- A whole minute may be written without its second. -/
theorem readAs?_minuteForm (h : Separates part separator) (hsecond : m.shownSecond = 0)
    (hnano : m.shownNano = 0) :
    readAs? (Layout.date ++ part :: Layout.hourMinute) (m.minuteForm separator) = some m := by
  have htime : (padded 2 m.hour ++ ":" ++ padded 2 m.minute).toList =
      (padded 2 m.hour).toList ++ ':' :: ((padded 2 m.minute).toList ++ []) := by
    simp
  have hread := moment?_inFull m
  rw [Layout.written, hsecond, hnano] at hread
  rw [readAs?, minuteForm, htime, read?_dateAndSeparator h m (isBlank_head?_hour m _),
    ← List.append_nil Layout.hourMinute, Layout.read?_hourMinute (by simp)]
  exact hread

/-! ## What stands around a form -/

/-- Blanks around a text, and before them any number of `Z` behind it, are ignored. -/
theorem read?_of_body {u v s : List Char} (hu : ∀ c ∈ u, Text.isBlank c = true)
    (hv : ∀ c ∈ v, Text.isBlank c = true) (zones : Nat)
    (hfirst : ∀ c ∈ s.head?, Text.isBlank c = false) (hlast : ∀ c ∈ s.getLast?, c.isDigit = true) :
    read? (u ++ (s ++ List.replicate zones 'Z') ++ v) = layouts.findSome? (readAs? · s) := by
  have hzone : ∀ c ∈ (List.replicate zones 'Z').head?, Text.isBlank c = false := by
    intro c hc
    obtain rfl := List.eq_of_mem_replicate (List.mem_of_mem_head? hc)
    rfl
  have htrim : Text.trim (s ++ List.replicate zones 'Z') = s ++ List.replicate zones 'Z' := by
    apply Text.trim_of_ends
    · intro c hc
      rw [List.head?_append, Option.mem_def, Option.or_eq_some_iff] at hc
      exact hc.elim (hfirst c) fun hc => hzone c hc.2
    · intro c hc
      rw [List.getLast?_append, Option.mem_def, Option.or_eq_some_iff, ← List.head?_reverse,
        List.reverse_replicate] at hc
      exact hc.elim (hzone c) fun hc => Text.isBlank_of_isDigit (hlast c hc.2)
  -- a body that ends in a digit has no zone mark of its own to lose
  have hbody : ((s ++ List.replicate zones 'Z').reverse.dropWhile (· == 'Z')).reverse = s := by
    rw [List.reverse_append, List.reverse_replicate, List.dropWhile_append_of_pos (by simp),
      Text.dropWhile_of_head?, List.reverse_reverse]
    intro c hc
    rw [List.head?_reverse] at hc
    rw [beq_eq_false_iff_ne]
    rintro rfl
    cases hlast 'Z' hc
  rw [read?, Text.trim_blanks hu hv, htrim, hbody]

/-- A written date starts with a digit or a sign. -/
theorem isBlank_head?_date (d : Date) (rest : List Char) :
    ∀ c ∈ (d.written.toList ++ rest).head?, Text.isBlank c = false := by
  intro c hc
  have htext : d.written.toList ++ rest =
      (writtenYear d.year).toList ++ ("-" ++ padded 2 d.month ++ "-" ++ padded 2 d.day).toList ++
        rest := by
    simp [Date.written]
  rw [htext, List.append_assoc, List.head?_append_of_ne_nil _ (writtenYear_ne_nil _)] at hc
  exact isBlank_of_mem_writtenYear (List.mem_of_mem_head? hc)

theorem isDigit_getLast?_padded (s : List Char) (w k : Nat) :
    ∀ c ∈ (s ++ (padded w k).toList).getLast?, c.isDigit = true := by
  intro c hc
  rw [List.getLast?_append_of_ne_nil _ padded_ne_nil] at hc
  exact isDigit_of_mem_padded c (List.mem_of_getLast? hc)

theorem isDigit_getLast?_secondForm (separator : Char) (m : Moment) :
    ∀ c ∈ (m.secondForm separator).getLast?, c.isDigit = true := by
  -- the last number is that of the fraction or, without one, of the second
  rcases fraction_cases m.shownNano_lt with ⟨-, hnone⟩ | ⟨w, k, hsome, -⟩
  · have htext : m.secondForm separator = (m.date.written.toList ++ separator ::
        (padded 2 m.hour ++ ":" ++ padded 2 m.minute ++ ":").toList) ++
          (padded 2 m.shownSecond).toList := by
      simp [secondForm, hnone, clock]
    rw [htext]
    exact isDigit_getLast?_padded _ 2 m.shownSecond
  · have htext : m.secondForm separator =
        (m.date.written.toList ++ separator :: (m.clock ++ ".").toList) ++ (padded w k).toList := by
      simp [secondForm, hsome]
    rw [htext]
    exact isDigit_getLast?_padded _ w k

theorem isDigit_getLast?_minuteForm (separator : Char) (m : Moment) :
    ∀ c ∈ (m.minuteForm separator).getLast?, c.isDigit = true := by
  have htext : m.minuteForm separator = (m.date.written.toList ++ separator ::
      (padded 2 m.hour ++ ":").toList) ++ (padded 2 m.minute).toList := by
    simp [minuteForm]
  rw [htext]
  exact isDigit_getLast?_padded _ 2 m.minute

/-- Every moment is read back from its date and its time to the second, with its fraction and with a
`T` or a space in between, and from its time to the minute if it is a whole minute; any number of
`Z` may follow, and blanks may stand around it all. -/
theorem forms_read_back {u v : List Char} (hu : ∀ c ∈ u, Text.isBlank c = true)
    (hv : ∀ c ∈ v, Text.isBlank c = true) (zones : Nat) {separator : Char}
    (hseparator : separator ∈ ['T', ' ']) (m : Moment) :
    read? (u ++ (m.secondForm separator ++ List.replicate zones 'Z') ++ v) = some m ∧
      (m.shownSecond = 0 → m.shownNano = 0 →
        read? (u ++ (m.minuteForm separator ++ List.replicate zones 'Z') ++ v) = some m) := by
  -- each of the two separators has its layouts
  obtain ⟨part, hpart, hsecond, hminute⟩ : ∃ part, Separates part separator ∧
      Layout.date ++ part :: Layout.anySecond ∈ layouts ∧
      Layout.date ++ part :: Layout.hourMinute ∈ layouts := by
    simp only [List.mem_cons, List.not_mem_nil, or_false] at hseparator
    rcases hseparator with rfl | rfl
    · exact ⟨_, .letter, by decide, by decide⟩
    · exact ⟨_, .space, by decide, by decide⟩
  constructor
  · have hfirst : ∀ c ∈ (m.secondForm separator).head?, Text.isBlank c = false :=
      isBlank_head?_date _ _
    rw [read?_of_body hu hv zones hfirst (isDigit_getLast?_secondForm separator m)]
    exact findSome?_layouts hsecond (readAs?_secondForm hpart m)
  · intro hwhole hnano
    have hfirst : ∀ c ∈ (m.minuteForm separator).head?, Text.isBlank c = false :=
      isBlank_head?_date _ _
    rw [read?_of_body hu hv zones hfirst (isDigit_getLast?_minuteForm separator m)]
    exact findSome?_layouts hminute (readAs?_minuteForm hpart hwhole hnano)

/-- A quarter of a second into the leap second at the end of a year before the year 0. -/
def leapSecond : Moment := ⟨⟨-26, 12, 31, by decide⟩, 86399, 1250000000, by decide⟩

/-- The first day that needs five digits for its year. -/
def afterYear9999 : Moment := startOf ⟨10000, 1, 1, by decide⟩

/-- The one is read back with its fraction, the other without its second. -/
theorem leapSecond_is_read :
    read? ("\t\u00A0".toList ++ ("-0026-12-31 23:59:60.250".toList ++ "ZZ".toList) ++ "\n".toList) =
        some leapSecond ∧
      read? ("+10000-01-01T00:00".toList ++ "Z".toList) = some afterYear9999 := by
  have hfront : ∀ c ∈ "\t\u00A0".toList, Text.isBlank c = true :=
    List.all_eq_true.1 (by decide)
  have hback : ∀ c ∈ "\n".toList, Text.isBlank c = true :=
    List.all_eq_true.1 (by decide)
  have hleap : leapSecond.secondForm ' ' = "-0026-12-31 23:59:60.250".toList := by decide +kernel
  have hday : afterYear9999.minuteForm 'T' = "+10000-01-01T00:00".toList := by decide +kernel
  obtain ⟨hsecond, -⟩ := forms_read_back hfront hback 2 (by decide : ' ' ∈ ['T', ' ']) leapSecond
  obtain ⟨-, hminute⟩ := @forms_read_back [] [] (by simp) (by simp) 1 'T' (by decide) afterYear9999
  rw [hleap] at hsecond
  rw [hday] at hminute
  exact ⟨hsecond, hminute rfl rfl⟩

end Moment

end AskLedger
