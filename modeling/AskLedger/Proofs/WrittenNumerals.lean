import AskLedger.Json.Reader
import AskLedger.Proofs.Numerals

/-!
# Written numerals

A numeral in the notation of JSON is read back digit for digit, whatever follows it, as long as that
does not continue it. The shortest digits of a finite number of double precision are such a numeral
in both of their notations: without an exponent they have a digit on either side of the point, and a
zero in front stands alone.

* `Json.readNumber?_written`: a sound numeral is read back.
* `Binary.isNormal_shortest`: the shortest digits are zero only for zero.
* `Numeral.sound_ofBinary?`: the numeral of a number is sound.
-/

namespace AskLedger

open Decimal (numeral numeral_ne_nil)

/-! ## Sound numerals -/

namespace Numeral

/-- What a numeral has to look like in a text. -/
structure Sound (n : Numeral) : Prop where
  /-- There is a digit before the point. -/
  whole_ne_nil : n.whole ≠ []
  /-- Only digits stand before the point. -/
  whole_isDigit : ∀ c ∈ n.whole, c.isDigit = true
  /-- A zero in front stands alone. -/
  lone_zero : n.whole.head? = some '0' → n.whole.length = 1
  /-- Only digits stand behind the point. -/
  fraction_isDigit : ∀ c ∈ n.fraction, c.isDigit = true
  /-- An exponent has a digit. -/
  exponent_ne_nil : ∀ e ∈ n.exponent, e.2 ≠ []
  /-- Only digits stand in an exponent, behind its sign. -/
  exponent_isDigit : ∀ e ∈ n.exponent, ∀ c ∈ e.2, c.isDigit = true

/-- The point and the digits behind it, if there are any. -/
def fractionPart (fraction : List Char) : List Char :=
  if fraction.isEmpty then [] else '.' :: fraction

theorem fractionPart_of_ne_nil {ds : List Char} (h : ds ≠ []) : fractionPart ds = '.' :: ds :=
  if_neg fun hempty => h (List.isEmpty_iff.1 hempty)

theorem eq_point_of_head?_fractionPart {ds : List Char} {c : Char}
    (h : c ∈ (fractionPart ds).head?) : c = '.' := by
  unfold fractionPart at h
  split at h
  · cases h
  · exact (Option.mem_some_iff.1 h).symm

theorem drop_fractionPart (ds : List Char) : (fractionPart ds).drop 1 = ds := by
  unfold fractionPart
  split
  · next hempty => simp [List.isEmpty_iff.1 hempty]
  · rfl

/-- The exponent with its mark, if there is one. -/
def exponentPart : Option (Bool × List Char) → List Char
  | some (negative, ds) => 'e' :: ((if negative then ['-'] else []) ++ ds)
  | none => []

/-- A written number: sign, digits, fraction and exponent. -/
theorem toList_written (n : Numeral) :
    n.written.toList = (if n.negative then ['-'] else []) ++
      (n.whole ++ (fractionPart n.fraction ++ exponentPart n.exponent)) := by
  obtain ⟨negative, whole, fraction, exponent⟩ := n
  rcases exponent with - | ⟨sign, ds⟩ <;> cases negative <;> cases fraction <;>
    simp [written, fractionPart, exponentPart]
  · cases sign <;> rfl
  · cases sign <;> rfl
  · cases sign <;> rfl
  · cases sign <;> rfl

end Numeral

/-! ## Reading numerals -/

namespace Json

open Numeral (fractionPart exponentPart)

/-- A text that does not continue a number. -/
def EndsNumber (rest : List Char) : Prop :=
  ∀ c ∈ rest.head?, c.isDigit = false ∧ c ∉ ['.', 'e', 'E']

theorem endsNumber_nil : EndsNumber [] := by
  simp [EndsNumber]

variable {rest : List Char}

/-- A written fraction is read back. -/
theorem readFraction?_fractionPart {ds : List Char} (hds : ∀ c ∈ ds, c.isDigit = true)
    (hrest : ∀ c ∈ rest.head?, c.isDigit = false ∧ c ≠ '.') :
    readFraction? (fractionPart ds ++ rest) = some (ds, rest) := by
  by_cases hempty : ds = []
  · subst hempty
    cases rest with
    | nil => rfl
    | cons c rest =>
      have hc : c ≠ '.' := (hrest c rfl).2
      simp [fractionPart, readFraction?, hc]
  · have hdigit : ∀ c ∈ rest.head?, c.isDigit = false := fun c hc => (hrest c hc).1
    simp [Numeral.fractionPart_of_ne_nil hempty, readFraction?, hempty,
      Text.takeWhile_run hds hdigit, Text.dropWhile_run hds hdigit]

/-- A written exponent is read back. -/
theorem readExponent?_exponentPart {e : Option (Bool × List Char)}
    (hne : ∀ x ∈ e, x.2 ≠ []) (hdigits : ∀ x ∈ e, ∀ c ∈ x.2, c.isDigit = true)
    (hrest : EndsNumber rest) :
    readExponent? (exponentPart e ++ rest) = some (e, rest) := by
  rcases e with - | ⟨negative, ds⟩
  · cases rest with
    | nil => rfl
    | cons c rest =>
      -- without an exponent, what follows must not look like one
      have hc : c ≠ 'e' ∧ c ≠ 'E' := by
        have hmark := (hrest c rfl).2
        simp only [List.mem_cons, not_or] at hmark
        exact hmark.2.imp_right And.left
      simp [exponentPart, readExponent?, hc]
  · have hds : ∀ c ∈ ds, c.isDigit = true := hdigits (negative, ds) rfl
    have hdigit : ∀ c ∈ rest.head?, c.isDigit = false := fun c hc => (hrest c hc).1
    obtain ⟨d, ds, rfl⟩ := List.exists_cons_of_ne_nil (hne (negative, ds) rfl)
    have htake := Text.takeWhile_run hds hdigit
    have hdrop := Text.dropWhile_run hds hdigit
    rw [List.cons_append] at htake hdrop
    cases negative with
    | true => simp [exponentPart, readExponent?, htake, hdrop]
    | false =>
      have hsign : d ≠ '-' ∧ d ≠ '+' := by
        have hd : d.isDigit = true := hds d List.mem_cons_self
        constructor <;> (rintro rfl; exact absurd hd (by decide))
      simp [exponentPart, readExponent?, hsign, htake, hdrop]

/-- The tail of a sound numeral continues neither its digits nor its fraction. -/
theorem head?_exponentPart (e : Option (Bool × List Char)) (hrest : EndsNumber rest) :
    ∀ c ∈ (exponentPart e ++ rest).head?, c.isDigit = false ∧ c ≠ '.' := by
  rcases e with - | ⟨negative, ds⟩
  · intro c hc
    obtain ⟨hdigit, hmark⟩ := hrest c hc
    exact ⟨hdigit, fun h => hmark (by simp [h])⟩
  · simp [exponentPart]

/-- A sound numeral is read back. -/
theorem readNumber?_written {n : Numeral} (h : n.Sound) (hrest : EndsNumber rest) :
    readNumber? (n.written.toList ++ rest) = some (n, rest) := by
  have hbehind := head?_exponentPart n.exponent hrest
  have hfraction : readFraction? (fractionPart n.fraction ++ (exponentPart n.exponent ++ rest)) =
      some (n.fraction, exponentPart n.exponent ++ rest) :=
    readFraction?_fractionPart h.fraction_isDigit hbehind
  have hexponent : readExponent? (exponentPart n.exponent ++ rest) = some (n.exponent, rest) :=
    readExponent?_exponentPart h.exponent_ne_nil h.exponent_isDigit hrest
  have htail : ∀ c ∈ (fractionPart n.fraction ++ (exponentPart n.exponent ++ rest)).head?,
      c.isDigit = false := by
    unfold fractionPart
    split
    · exact fun c hc => (hbehind c hc).1
    · simp
  have htake := Text.takeWhile_run h.whole_isDigit htail
  have hdrop := Text.dropWhile_run h.whole_isDigit htail
  have hlone := h.lone_zero
  obtain ⟨d, ds, hwhole⟩ := List.exists_cons_of_ne_nil h.whole_ne_nil
  have hd : d ≠ '-' := by
    rintro rfl
    exact absurd (h.whole_isDigit '-' (by rw [hwhole]; exact List.mem_cons_self)) (by decide)
  obtain ⟨negative, whole, fraction, exponent⟩ := n
  simp only at hwhole hfraction hexponent htake hdrop hlone
  subst hwhole
  rw [Numeral.toList_written]
  simp only [List.append_assoc]
  rw [List.cons_append] at htake hdrop
  -- the first character tells whether there is a sign
  cases negative with
  | true => simpa [readNumber?, htake, hdrop, hfraction, hexponent] using hlone
  | false => simpa [readNumber?, hd, htake, hdrop, hfraction, hexponent] using hlone

end Json

/-! ## Digits in front -/

/-- Only the numeral of zero starts with a zero. -/
theorem Decimal.eq_zero_of_head?_numeral {n : Nat} (h : (numeral n).head? = some '0') : n = 0 := by
  induction n using Nat.strongRecOn with
  | _ n ih =>
    by_cases hsmall : n < 10
    · rw [numeral, Nat.toDigits_of_lt_base hsmall, List.head?_cons, Option.some.injEq,
        Nat.digitChar_eq_zero] at h
      exact h
    · -- the digits in front of the last one are a numeral, and not that of zero
      obtain ⟨c, front, hc⟩ := List.exists_cons_of_ne_nil (numeral_ne_nil (n / 10))
      have hnumeral : numeral n = numeral (n / 10) ++ [(n % 10).digitChar] :=
        Nat.toDigits_of_base_le (by decide) (Nat.le_of_not_lt hsmall)
      rw [hnumeral, hc, List.cons_append, List.head?_cons, Option.some.injEq] at h
      have hfront : n / 10 = 0 := ih (n / 10) (by omega) (by rw [hc, h, List.head?_cons])
      omega

/-! ## Shortest digits -/

/-- Zero is not scaled. -/
def Scaled.IsNormal (s : Scaled) : Prop := s.digits = 0 → s.scale = 0

namespace Shortest

/-- A grid is left with digits that are not zero. -/
theorem digits_ne_zero_of_onGrid? {i : Interval} {scale : Int} {s : Scaled}
    (h : onGrid? i scale = some s) : s.digits ≠ 0 := by
  simp only [onGrid?] at h
  grind

/-- The shortest decimal has no zeros at its ends. -/
theorem isNormal_search (i : Interval) (scale : Int) (fuel : Nat) :
    (search i scale fuel).IsNormal := by
  induction fuel generalizing scale with
  | zero => exact fun _ => rfl
  | succ fuel ih =>
    rw [search]
    cases h : onGrid? i scale with
    | some s => exact fun hzero => absurd hzero (digits_ne_zero_of_onGrid? h)
    | none => exact ih (scale - 1)

end Shortest

/-- The shortest digits are zero only for zero. -/
theorem Binary.isNormal_shortest (b : Binary) : b.shortest.IsNormal := by
  unfold Binary.shortest
  split
  · exact fun _ => rfl
  · exact Shortest.isNormal_search _ _ _

/-! ## Numerals of numbers -/

namespace Numeral

theorem bne_of_isDigit {c d : Char} (hc : c.isDigit = true) (hd : d.isDigit = false) :
    (c != d) = true := by
  refine bne_iff_ne.2 ?_
  rintro rfl
  exact absurd hc (by rw [hd]; decide)

/-- In front of the exponent its mark does not occur. -/
theorem bne_mark_of_mem {n : Numeral} (h : n.Sound) :
    ∀ c ∈ n.whole ++ fractionPart n.fraction, (c != 'e') = true := by
  intro c hc
  rcases List.mem_append.1 hc with hc | hc
  · exact bne_of_isDigit (h.whole_isDigit c hc) rfl
  · unfold fractionPart at hc
    split at hc
    · cases hc
    · rcases List.mem_cons.1 hc with rfl | hc
      · rfl
      · exact bne_of_isDigit (h.fraction_isDigit c hc) rfl

/-- A sound numeral is taken apart as it was put together. -/
theorem ofWritten_written {n : Numeral} (h : n.Sound) (hpositive : n.negative = false)
    (negative : Bool) : ofWritten negative n.written.toList = { n with negative } := by
  have hmark : ∀ c ∈ (exponentPart n.exponent).head?, (c != 'e') = false := by
    unfold exponentPart
    split <;> simp
  have hwhole : ∀ c ∈ n.whole, (c != '.') = true :=
    fun c hc => bne_of_isDigit (h.whole_isDigit c hc) rfl
  have hpoint : ∀ c ∈ (fractionPart n.fraction).head?, (c != '.') = false := by
    intro c hc
    rw [eq_point_of_head?_fractionPart hc]
    rfl
  have htext : n.written.toList =
      (n.whole ++ fractionPart n.fraction) ++ exponentPart n.exponent := by
    simp [toList_written, hpositive]
  rw [ofWritten, htext, Text.takeWhile_run (bne_mark_of_mem h) hmark,
    Text.dropWhile_run (bne_mark_of_mem h) hmark, Text.takeWhile_run hwhole hpoint,
    Text.dropWhile_run hwhole hpoint, drop_fractionPart]
  obtain ⟨sign, whole, fraction, exponent⟩ := n
  rcases exponent with - | ⟨sign, ds⟩
  · rfl
  · cases sign with
    | true => rfl
    | false =>
      -- a digit is not taken for the sign
      obtain ⟨d, ds, rfl⟩ := List.exists_cons_of_ne_nil (h.exponent_ne_nil (false, ds) rfl)
      have hd : d ≠ '-' := by
        rintro rfl
        exact absurd (h.exponent_isDigit _ rfl '-' List.mem_cons_self) (by decide)
      simp [exponentPart, hd]

section
variable (s : Scaled)

/-- A whole number gets zeros behind its digits. -/
theorem exists_sound_positional_of_nonneg (h : s.IsNormal) (hscale : 0 ≤ s.scale) :
    ∃ n : Numeral, n.Sound ∧ n.negative = false ∧
      (s.positional true).toList = n.written.toList := by
  refine ⟨⟨false, numeral s.digits ++ List.replicate s.scale.toNat '0', ['0'], none⟩,
    ⟨?_, ?_, ?_, ?_, ?_, ?_⟩, rfl, ?_⟩
  · exact List.append_ne_nil_of_left_ne_nil (numeral_ne_nil _) _
  · exact List.forall_mem_append.2
      ⟨fun c hc => Decimal.isDigit_of_mem_numeral hc, Decimal.isDigit_of_mem_replicate⟩
  · intro hhead
    -- only zero starts with a zero, and it is not scaled
    have hzero : s.digits = 0 := by
      apply Decimal.eq_zero_of_head?_numeral
      rw [← hhead]
      obtain ⟨c, ds, hc⟩ := List.exists_cons_of_ne_nil (numeral_ne_nil s.digits)
      rw [hc]
      rfl
    simp [hzero, h hzero, numeral, Nat.toDigits_zero]
  · exact Decimal.isDigit_of_mem_replicate (k := 1)
  · simp
  · simp
  · simp [Scaled.positional, hscale, toList_written, fractionPart, exponentPart, numeral]

/-- A number with places gets zeros in front of its digits until one stands before the point. -/
theorem exists_sound_positional_of_neg (h : s.IsNormal) (hscale : ¬0 ≤ s.scale) :
    ∃ n : Numeral, n.Sound ∧ n.negative = false ∧
      (s.positional true).toList = n.written.toList := by
  obtain ⟨places, hplaces⟩ : ∃ places, places = (-s.scale).toNat := ⟨_, rfl⟩
  obtain ⟨filled, hfilled⟩ : ∃ filled, filled =
      List.replicate (places + 1 - (numeral s.digits).length) '0' ++ numeral s.digits := ⟨_, rfl⟩
  have htext : (s.positional true).toList = filled.take (filled.length - places) ++
      '.' :: filled.drop (filled.length - places) := by
    simp [Scaled.positional, hscale, hfilled, hplaces, numeral]
  have hlength : filled.length = places + 1 - (numeral s.digits).length +
      (numeral s.digits).length := by
    rw [hfilled, List.length_append, List.length_replicate]
  have hdigits : ∀ c ∈ filled, c.isDigit = true := by
    rw [hfilled]
    exact List.forall_mem_append.2
      ⟨Decimal.isDigit_of_mem_replicate, fun c hc => Decimal.isDigit_of_mem_numeral hc⟩
  -- the digits are filled up with zeros to one more than the places, so both sides have some
  have hfraction : filled.drop (filled.length - places) ≠ [] := by
    rw [ne_eq, List.drop_eq_nil_iff]
    omega
  refine ⟨⟨false, filled.take (filled.length - places), filled.drop (filled.length - places),
    none⟩, ⟨?_, ?_, ?_, ?_, ?_, ?_⟩, rfl, ?_⟩
  · refine List.ne_nil_of_length_pos ?_
    rw [List.length_take]
    omega
  · exact fun c hc => hdigits c (List.mem_of_mem_take hc)
  · intro hhead
    by_cases hshort : (numeral s.digits).length ≤ places
    · -- the zeros in front leave one of them before the point
      rw [List.length_take]
      omega
    · have hnone : filled = numeral s.digits := by
        have hcount : places + 1 - (numeral s.digits).length = 0 := by omega
        simp [hfilled, hcount]
      have hzero : s.digits = 0 := by
        apply Decimal.eq_zero_of_head?_numeral
        rwa [List.head?_take, if_neg (by omega), hnone] at hhead
      exact absurd (h hzero) (by omega)
  · exact fun c hc => hdigits c (List.mem_of_mem_drop hc)
  · simp
  · simp
  · rw [htext, toList_written, fractionPart_of_ne_nil hfraction]
    simp [exponentPart]

/-- An integer is its numeral, with a sign if it is negative. -/
theorem toList_toString_int (i : Int) :
    (toString i).toList = (if decide (i < 0) then ['-'] else []) ++ numeral i.natAbs := by
  cases i with
  | ofNat n => exact Nat.toList_repr
  | negSucc n =>
    have hneg : toString (Int.negSucc n) = "-" ++ (n + 1).repr := rfl
    rw [hneg, String.toList_append, Nat.toList_repr, decide_eq_true (Int.negSucc_lt_zero n)]
    rfl

/-- Scientific notation has one digit before the point. -/
theorem exists_sound_scientific :
    ∃ n : Numeral, n.Sound ∧ n.negative = false ∧ s.scientific.toList = n.written.toList := by
  have hdigits : ∀ c ∈ numeral s.digits, c.isDigit = true :=
    fun c hc => Decimal.isDigit_of_mem_numeral hc
  have hpositive : 0 < (numeral s.digits).length := List.length_pos_iff.2 (numeral_ne_nil _)
  obtain ⟨exponent, hexponent⟩ : ∃ e, e = s.scale + ((numeral s.digits).length : Int) - 1 :=
    ⟨_, rfl⟩
  refine ⟨⟨false, (numeral s.digits).take 1, (numeral s.digits).drop 1,
    some (decide (exponent < 0), numeral exponent.natAbs)⟩, ⟨?_, ?_, ?_, ?_, ?_, ?_⟩, rfl, ?_⟩
  · refine List.ne_nil_of_length_pos ?_
    rw [List.length_take]
    omega
  · exact fun c hc => hdigits c (List.mem_of_mem_take hc)
  · intro _
    rw [List.length_take]
    omega
  · exact fun c hc => hdigits c (List.mem_of_mem_drop hc)
  · simp [numeral_ne_nil]
  · intro e he c hc
    obtain rfl := Option.mem_some_iff.1 he
    exact Decimal.isDigit_of_mem_numeral hc
  · have htext : s.scientific.toList = (numeral s.digits).take 1 ++
        ((if (numeral s.digits).length = 1 then [] else ['.']) ++
          ((numeral s.digits).drop 1 ++ 'e' :: (toString exponent).toList)) := by
      rw [Scaled.scientific, ← numeral, ← hexponent]
      split <;> simp
    -- a single digit is written without a point
    have hpoint : (if (numeral s.digits).length = 1 then [] else ['.']) ++
        (numeral s.digits).drop 1 = fractionPart ((numeral s.digits).drop 1) := by
      split
      · next hone => simp [fractionPart, List.drop_eq_nil_of_le (Nat.le_of_eq hone)]
      · next hmore =>
        have hne : (numeral s.digits).drop 1 ≠ [] := by
          rw [ne_eq, List.drop_eq_nil_iff]
          omega
        exact (fractionPart_of_ne_nil hne).symm
    rw [htext, toList_written, ← List.append_assoc _ (List.drop 1 _), hpoint, toList_toString_int]
    rfl

end

/-- The numeral of a number is sound. -/
theorem sound_ofBinary? {range : PositionalRange} {v : BinaryValue} {n : Numeral}
    (h : ofBinary? range v = some n) : n.Sound := by
  cases v with
  | nan => cases h
  | infinite negative => cases h
  | finite b =>
    obtain ⟨m, hm, hpositive, htext⟩ : ∃ m : Numeral, m.Sound ∧ m.negative = false ∧
        (range.write b.shortest).toList = m.written.toList := by
      simp only [PositionalRange.write]
      split
      · by_cases hscale : 0 ≤ b.shortest.scale
        · exact exists_sound_positional_of_nonneg _ b.isNormal_shortest hscale
        · exact exists_sound_positional_of_neg _ b.isNormal_shortest hscale
      · exact exists_sound_scientific _
    rw [ofBinary?, Option.some.injEq, htext, ofWritten_written hm hpositive] at h
    subst h
    -- soundness does not depend on the sign
    exact ⟨hm.1, hm.2, hm.3, hm.4, hm.5, hm.6⟩

end Numeral

end AskLedger
