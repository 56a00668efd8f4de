import AskLedger.Decimal.Reading
import AskLedger.Proofs.Rounding

/-!
# Decimal numbers in double precision

A decimal number is rounded to a finite number of double precision exactly if it is less than the
middle between the largest of these and `2 ^ 1024`. Few digits with a small power of ten are
multiplied or divided as they are, which makes no number that large; all others are rounded once.
The result has a plus and is never what is not a number.

A number with a plus is not below zero, and one with a minus only if it is zero.

* `Amount.isFinite_ofScientific_iff`, `Decimal.isFinite_nearest_iff`: when a decimal number has a
  finite nearest number.
* `Amount.isFromOne_ofScientific`: whole numbers from one on stay there.
* `Amount.nonneg_abs_iff`: a magnitude is not below zero if there is a number at all.
-/

namespace AskLedger.Amount

open Float.Model (UnpackedFloat)
open Float.Model.Format (binary64)
open Float.Model.UnpackedFloat

/-! ## One rounding -/

/-- The least number that is rounded to infinity, `2 ^ 1024 - 2 ^ 970`, halfway between the largest
finite number and the power of two above it. -/
@[irreducible] def overflow : Nat := (2 ^ 54 - 1) * 2 ^ 970

theorem overflow_le : (overflow : Rat) ≤ 10 ^ (400 : Int) := by
  have hnat : overflow ≤ 10 ^ 400 := by decide +kernel
  calc (overflow : Rat) ≤ ((10 ^ 400 : Nat) : Rat) := Nat.cast_le.2 hnat
    _ = 10 ^ (400 : Int) := by rw [Nat.cast_pow, Nat.cast_ofNat]; exact (zpow_natCast 10 400).symm

/-- Natural numbers of this size do not overflow. -/
theorem lt_overflow {n : Nat} (h : n ≤ 2 ^ 53 * 10 ^ 22) : (n : Rat) < overflow := by
  have hnat : 2 ^ 53 * 10 ^ 22 < overflow := by decide +kernel
  exact Nat.cast_lt.2 (Nat.lt_of_le_of_lt h hnat)

/-- Digits of which the first one stands far in front of the point are too large. -/
theorem overflow_le_of_digits {m k : Nat} {e : Int} (hm : 10 ^ k ≤ m) (he : 400 ≤ k + e) :
    (overflow : Rat) ≤ m * 10 ^ e := by
  have hdigits : ((10 ^ k : Nat) : Rat) ≤ m := Nat.cast_le.2 hm
  calc (overflow : Rat) ≤ 10 ^ (400 : Int) := overflow_le
    _ ≤ 10 ^ (k + e) := zpow_le_zpow_right₀ (by norm_num) he
    _ = ((10 ^ k : Nat) : Rat) * 10 ^ e := by
        rw [zpow_add₀ (by norm_num), zpow_natCast, Nat.cast_pow, Nat.cast_ofNat]
    _ ≤ m * 10 ^ e := by gcongr

/-- Digits that all stand behind the point are not. -/
theorem lt_overflow_of_digits {m k : Nat} {e : Int} (hm : m < 10 ^ k) (he : k + e ≤ 0) :
    (m : Rat) * 10 ^ e < overflow := by
  have hdigits : (m : Rat) ≤ ((10 ^ k : Nat) : Rat) := Nat.cast_le.2 (Nat.le_of_lt hm)
  calc (m : Rat) * 10 ^ e ≤ ((10 ^ k : Nat) : Rat) * 10 ^ e := by gcongr
    _ = 10 ^ (k + e) := by rw [zpow_add₀ (by norm_num), zpow_natCast, Nat.cast_pow, Nat.cast_ofNat]
    _ ≤ 10 ^ (0 : Int) := zpow_le_zpow_right₀ (by norm_num) he
    _ = ((1 : Nat) : Rat) := by simp
    _ < overflow := lt_overflow (by decide)

theorem isFinite_round_neg_iff {s : Sign} {m : Nat} {a : Accuracy} (k : Nat) :
    (stored (roundWithAccuracy binary64 s m (-k) a)).isFinite = true ↔ m < overflow * 2 ^ k := by
  have hexponent : (970 - (-k : Int)).toNat = 970 + k := by omega
  have hvalue : (2 ^ 54 - 1) * 2 ^ (970 + k) = overflow * 2 ^ k := by
    unfold overflow
    generalize 2 ^ 54 - 1 = c
    generalize 970 = n
    rw [Nat.pow_add, Nat.mul_assoc]
  rw [isFinite_round_iff (by omega), hexponent, hvalue]

section
variable (m : Nat) (e : Int)

theorem unpack_ofScientific : (Float.Model.ofScientific m e).unpack =
    stored (UnpackedFloat.ofScientific binary64 m e) := rfl

theorem sign?_ofScientific : sign? (Float.Model.ofScientific m e).unpack = some .positive := by
  rw [unpack_ofScientific, sign?_stored, UnpackedFloat.ofScientific]
  split
  · rfl
  split
  · rfl
  split
  · rfl
  split
  · exact sign?_roundWithAccuracy ..
  · exact sign?_roundWithAccuracy ..

/-- A product with a power of ten is exact before it is rounded. -/
theorem mul_power (k : Nat) {h h'} :
    UnpackedFloat.mul binary64 (.finite .positive (m <<< binary64.mantissaBits)
      (-binary64.mantissaBits) h) (.finite .positive (10 ^ k) 0 h') =
      roundWithAccuracy binary64 .positive (m * 10 ^ k * 2 ^ 53) (-(53 : Nat)) .exact := by
  rw [← Nat.mul_right_comm, ← Nat.shiftLeft_eq]
  rfl

/-- A quotient by a power of ten is finite if the number lies below the overflow. -/
theorem isFinite_quotient_iff (k : Nat) {h h'} :
    (stored (UnpackedFloat.div binary64 (.finite .positive m 0 h)
      (.finite .positive (10 ^ k) 0 h'))).isFinite = true ↔ m < overflow * 10 ^ k := by
  -- the quotient is cut off at some exponent, which is not above zero
  have hle : (divCore binary64 m 0 (10 ^ k) 0).2.1 ≤ 0 := Int.min_le_left ..
  obtain ⟨n, hn⟩ : ∃ n : Nat, (divCore binary64 m 0 (10 ^ k) 0).2.1 = -n :=
    ⟨(-(divCore binary64 m 0 (10 ^ k) 0).2.1).toNat, by omega⟩
  have hquotient : (divCore binary64 m 0 (10 ^ k) 0).1 = m <<< n / 10 ^ k := by
    have hshift : (0 - 0 - (-n : Int)).toNat = n := by omega
    rw [← hshift, ← hn]
    rfl
  have hdiv : UnpackedFloat.div binary64 (.finite .positive m 0 h)
      (.finite .positive (10 ^ k) 0 h') =
      roundWithAccuracy binary64 .positive (divCore binary64 m 0 (10 ^ k) 0).1
        (divCore binary64 m 0 (10 ^ k) 0).2.1 (divCore binary64 m 0 (10 ^ k) 0).2.2 := rfl
  rw [hdiv, hn, hquotient, isFinite_round_neg_iff, Nat.shiftLeft_eq,
    Nat.div_lt_iff_lt_mul (by positivity), Nat.mul_right_comm _ _ (10 ^ k)]
  exact Nat.mul_lt_mul_right (Nat.two_pow_pos _)

theorem zpow_of_nonneg {e : Int} (h : 0 ≤ e) : (10 : Rat) ^ e = ((10 ^ e.toNat : Nat) : Rat) := by
  rw [Nat.cast_pow, Nat.cast_ofNat, ← zpow_natCast, Int.toNat_of_nonneg h]

/-- Digits with an exponent are rounded to a finite number exactly if they are below the middle that
is rounded to infinity. -/
theorem isFinite_ofScientific_iff :
    (Float.Model.ofScientific m e).unpack.isFinite = true ↔ (m : Rat) * 10 ^ e < overflow := by
  rw [unpack_ofScientific, UnpackedFloat.ofScientific]
  split
  · next hm =>
    subst hm
    rw [stored_zero, Nat.cast_zero, zero_mul]
    exact iff_of_true rfl (lt_overflow (n := 0) (by decide))
  next hm =>
  split
  · next he =>
    -- so many places that even a single digit is too large
    rw [stored_infinity]
    refine iff_of_false Bool.false_ne_true (not_lt.2 ?_)
    exact overflow_le_of_digits (k := 0) (Nat.one_le_iff_ne_zero.2 hm) (by simp at he ⊢; omega)
  split
  · next he =>
    -- so far behind the point that nothing is left of it
    have hdigits : m < 10 ^ (m.log2 + 1) :=
      Nat.lt_of_lt_of_le Nat.lt_log2_self (Nat.pow_le_pow_left (by decide) _)
    rw [stored_zero]
    exact iff_of_true rfl (lt_overflow_of_digits hdigits (by simp at he ⊢; omega))
  split
  · next he =>
    rw [mul_power, isFinite_round_neg_iff, zpow_of_nonneg he, ← Nat.cast_mul, Nat.cast_lt]
    exact Nat.mul_lt_mul_right (Nat.two_pow_pos 53)
  · next he =>
    have hpow : (10 : Rat) ^ e = ((10 ^ (-e).toNat : Nat) : Rat)⁻¹ := by
      rw [← zpow_of_nonneg (by omega), ← zpow_neg, Int.neg_neg]
    rw [isFinite_quotient_iff, hpow, ← div_eq_mul_inv, div_lt_iff₀ (by positivity),
      ← Nat.cast_mul, Nat.cast_lt]

end

/-- A whole number from one on stays one if it is finite. -/
theorem isFromOne_ofScientific {m k : Nat} (hm : m ≠ 0)
    (hfinite : (Float.Model.ofScientific m k).unpack.isFinite = true) :
    IsFromOne (Float.Model.ofScientific m k).unpack := by
  rw [unpack_ofScientific, UnpackedFloat.ofScientific, dif_neg hm] at hfinite ⊢
  split at hfinite
  · rw [stored_infinity] at hfinite
    cases hfinite
  · next hle =>
    rw [if_neg hle, if_neg (by omega), if_pos (by omega)]
    rw [if_neg (by omega), if_pos (by omega)] at hfinite
    rw [mul_power] at hfinite ⊢
    have hpos : m * 10 ^ (k : Int).toNat ≠ 0 := by positivity
    have hlog := log2_shiftLeft hpos 53
    rw [Nat.shiftLeft_eq] at hlog
    obtain ⟨m', e', hm', heq, hle, -⟩ :=
      exists_stored_round .positive .exact (by omega) (by omega) hfinite
    rw [heq]
    exact ⟨rfl, by omega⟩

/-! ## Small powers of ten -/

theorem isWithin_ofUInt64 (n : UInt64) : IsWithin 65 n.toFloat.toModel.unpack := by
  have hmodel : n.toFloat.toModel =
      Float.Model.pack (UnpackedFloat.normalize binary64 n.toNat 0 .positive) := rfl
  have hn : n.toNat < 2 ^ 64 := n.toNat_lt
  rw [hmodel, UnpackedFloat.normalize]
  split
  · next h => exact absurd (Int.compare_eq_lt.1 h) (by omega)
  · exact isWithin_zero _
  · next h =>
    have hpos : n.toNat ≠ 0 := by
      have := Int.compare_eq_gt.1 h
      omega
    have hlog : n.toNat.log2 < 64 := (Nat.log2_lt hpos).2 hn
    obtain ⟨k, hk⟩ : ∃ k, k = (0 - binary64.targetExponent
        (Float.Model.totalExponent n.toNat 0)).toNat := ⟨_, rfl⟩
    -- the digits are shifted to where they are rounded, which changes nothing of the number
    have hround : UnpackedFloat.round binary64 .positive (n.toNat : Int).toNat 0 =
        roundWithAccuracy binary64 .positive (n.toNat <<< k) (0 - k) .exact := by
      rw [hk]
      rfl
    rw [hround]
    refine isWithin_round _ (by decide) (by omega) ?_
    rw [log2_shiftLeft hpos]
    omega

/-- The powers of ten that are kept ready. -/
theorem power_bounds {k : Nat} (h : k < Float.exactlyRepresentablePowersOfTen.size) :
    IsWithin 73 (Float.exactlyRepresentablePowersOfTen[k]).toModel.unpack ∧
      IsFromOne (Float.exactlyRepresentablePowersOfTen[k]).toModel.unpack := by
  have hall : ∀ x ∈ Float.exactlyRepresentablePowersOfTen.toList,
      IsWithin 73 x.toModel.unpack ∧ IsFromOne x.toModel.unpack := by decide +kernel
  exact hall _ (by simp)

/-- Few digits times a small power of ten, or divided by one. -/
theorem isWithin_float {m k : Nat} (s : Bool) (h : m < 2 ^ 53 ∧ k ≤ 22) :
    IsWithin 191 (Float.ofScientific m s k).toModel.unpack := by
  rw [Float.ofScientific, dif_pos h]
  obtain ⟨hwithin, hone⟩ := power_bounds (k := k) (Nat.lt_succ_of_le h.2)
  cases s with
  | true => exact ((isWithin_ofUInt64 _).div hone (by decide)).mono (by decide)
  | false => exact (isWithin_ofUInt64 _).mul hwithin (by decide)

theorem sign?_float (m : Nat) (s : Bool) (k : Nat) :
    sign? (Float.ofScientific m s k).toModel.unpack = some .positive := by
  by_cases h : m < 2 ^ 53 ∧ k ≤ 22
  · exact (isWithin_float s h).sign?_eq
  · rw [Float.ofScientific, dif_neg h]
    exact sign?_ofScientific ..

/-- A decimal is held as a finite number if it lies below the overflow. -/
theorem isFinite_float_iff (m : Nat) (s : Bool) (k : Nat) :
    (Float.ofScientific m s k).isFinite = true ↔
      (m : Rat) * 10 ^ (if s then -(k : Int) else k) < overflow := by
  by_cases h : m < 2 ^ 53 ∧ k ≤ 22
  · -- both sides hold: these numbers are far from being too large
    refine iff_of_true (isWithin_float s h).isFinite ?_
    have hpower : (10 : Rat) ^ (if s then -(k : Int) else k) ≤ ((10 ^ 22 : Nat) : Rat) := by
      rw [Nat.cast_pow, Nat.cast_ofNat, ← zpow_natCast]
      refine zpow_le_zpow_right₀ (by norm_num) ?_
      split <;> omega
    calc (m : Rat) * 10 ^ (if s then -(k : Int) else k) ≤ m * ((10 ^ 22 : Nat) : Rat) := by gcongr
      _ = ((m * 10 ^ 22 : Nat) : Rat) := (Nat.cast_mul ..).symm
      _ < overflow := lt_overflow (Nat.mul_le_mul_right _ (Nat.le_of_lt h.1))
  · have hexponent : (if s = true then Int.negOfNat k else Int.ofNat k) =
        if s then -(k : Int) else k := by
      cases s with
      | true => exact Int.negOfNat_eq
      | false => rfl
    rw [← hexponent, ← isFinite_ofScientific_iff, Float.ofScientific, dif_neg h]
    rfl

end AskLedger.Amount

/-! ## Nearest numbers -/

namespace AskLedger.Decimal

open AskLedger.Amount

/-- The number nearest to a decimal without a sign is not negative. -/
theorem sign?_nearest (d : Nat) (e : Int) :
    sign? (nearest d e).toModel.unpack = some .positive := by
  unfold nearest
  simp only
  split
  · rfl
  split
  · rfl
  split
  · rfl
  · exact sign?_float ..

/-- The first digit of a number is not zero. -/
theorem digits_bounds {d : Nat} (hd : d ≠ 0) :
    10 ^ ((Nat.toDigits 10 d).length - 1) ≤ d ∧ d < 10 ^ (Nat.toDigits 10 d).length := by
  have hpos : 0 < (Nat.toDigits 10 d).length := List.length_pos_iff.2 Nat.toDigits_ne_nil
  have hsize : ∀ k, 0 < k → ((Nat.toDigits 10 d).length ≤ k ↔ d < 10 ^ k) :=
    fun k hk => Nat.length_toDigits_le_iff (by decide) hk
  refine ⟨?_, (hsize _ hpos).1 (Nat.le_refl _)⟩
  rcases Nat.eq_zero_or_pos ((Nat.toDigits 10 d).length - 1) with hone | hmore
  · rw [hone]
    exact Nat.one_le_iff_ne_zero.2 hd
  · have hnot := mt (hsize _ hmore).2 (by omega)
    exact Nat.le_of_not_lt hnot

/-- A decimal number has a finite nearest number of double precision exactly if it is less than the
least number that is rounded to infinity. -/
theorem isFinite_nearest_iff (d : Nat) (e : Int) :
    (nearest d e).isFinite = true ↔ (d : Rat) * 10 ^ e < overflow := by
  unfold nearest
  simp only
  split
  · next hd =>
    subst hd
    rw [Nat.cast_zero, zero_mul]
    exact iff_of_true rfl (lt_overflow (n := 0) (by decide))
  next hd =>
  have hsize := digits_bounds hd
  generalize (Nat.toDigits 10 d).length = size at hsize
  split
  · next he =>
    -- the size of the digits tells the far ends, and only between them a number is made
    refine iff_of_false (by decide) (not_lt.2 ?_)
    exact overflow_le_of_digits hsize.1 (by omega)
  split
  · next he => exact iff_of_true (by decide) (lt_overflow_of_digits hsize.2 (by omega))
  · rw [isFinite_float_iff]
    have hexponent : (if decide (e < 0) = true then -(e.natAbs : Int) else e.natAbs) = e := by
      by_cases hneg : e < 0
      · rw [decide_eq_true hneg, if_pos rfl]
        omega
      · rw [decide_eq_false hneg, if_neg Bool.false_ne_true]
        omega
    rw [hexponent]

end AskLedger.Decimal

/-! ## Signs -/

namespace AskLedger.Amount

open Float.Model (UnpackedFloat)
open Float.Model.Format (binary64)

variable {x : Float}

/-- What is no number has no sign. -/
theorem isNaN_iff : x.isNaN = true ↔ sign? x.toModel.unpack = none := by
  rw [Float.isNaN, Float.Model.isNaN]
  cases x.toModel.unpack <;> simp [sign?, UnpackedFloat.isNaN]

/-- What has a plus is not below zero, and what has a minus only if it is zero. -/
theorem nonneg_iff {s : UnpackedFloat.Sign} (h : sign? x.toModel.unpack = some s) :
    0 ≤ x ↔ s = .positive ∨ (x == 0) = true := by
  have hnan : x.isNaN = false := by
    rw [Bool.eq_false_iff, Ne, isNaN_iff, h]
    exact Option.some_ne_none s
  have hzero : position (0 : Float).toModel.unpack = ⟨0, 0, 0⟩ := rfl
  have hnot : (0 : Float).isNaN = false := rfl
  rw [le_iff, beq_iff, hnan, hnot, Ne, Position.order_eq_lt, Position.order_eq_eq, place, place,
    hzero]
  cases hx : x.toModel.unpack with
  | notANumber =>
    rw [hx] at h
    cases h
  | infinity t | zero t | finite t m e hm =>
    obtain rfl : t = s := by simpa [hx, sign?] using h
    cases t <;> simp [position]

/-- A finite number that is held stays finite with either sign. -/
theorem isFinite_stored_of_finite {s : UnpackedFloat.Sign} {m : Nat} {e : Int}
    {h : 0 < m} (hx : x.toModel.unpack = .finite s m e h) (t : UnpackedFloat.Sign) :
    (stored (.finite t m e h)).isFinite = true := by
  have hstored : stored (.finite s m e h) = .finite s m e h :=
    hx ▸ congrArg Float.Model.unpack (pack_unpack_self x.toModel)
  rw [isFinite_stored_iff, ← isFinite_stored_iff s m e h, hstored]
  rfl

/-- The magnitude of a number has a plus. -/
theorem sign?_abs :
    sign? x.abs.toModel.unpack = (sign? x.toModel.unpack).map fun _ => .positive := by
  change sign? (stored x.toModel.unpack.abs) = _
  rw [sign?_stored]
  cases x.toModel.unpack <;> rfl

theorem isFinite_abs : x.abs.isFinite = x.isFinite := by
  change (stored x.toModel.unpack.abs).isFinite = x.toModel.unpack.isFinite
  cases hx : x.toModel.unpack with
  | notANumber => rfl
  | infinity s => cases s <;> rfl
  | zero s => cases s <;> rfl
  | finite s m e h => exact isFinite_stored_of_finite hx .positive

theorem isNaN_abs : x.abs.isNaN = x.isNaN := by
  rw [Bool.eq_iff_iff, isNaN_iff, isNaN_iff, sign?_abs, Option.map_eq_none_iff]

/-- A magnitude is never below zero, if there is a number at all. -/
theorem nonneg_abs_iff : 0 ≤ x.abs ↔ x.isNaN = false := by
  constructor
  · intro h
    rw [← isNaN_abs]
    exact (le_iff.1 h).2.1
  · intro h
    obtain ⟨s, hs⟩ : ∃ s, sign? x.toModel.unpack = some s :=
      Option.ne_none_iff_exists'.1 fun hnone => by
        rw [isNaN_iff.2 hnone] at h
        cases h
    have habs : sign? x.abs.toModel.unpack = some .positive := by
      rw [sign?_abs, hs]
      rfl
    exact (nonneg_iff habs).2 (.inl rfl)

/-- The opposite of a number has the other sign. -/
theorem sign?_neg : sign? (-x).toModel.unpack = (sign? x.toModel.unpack).map (-·) := by
  change sign? (stored x.toModel.unpack.neg) = _
  rw [sign?_stored]
  cases x.toModel.unpack <;> rfl

theorem isFinite_neg : (-x).isFinite = x.isFinite := by
  change (stored x.toModel.unpack.neg).isFinite = x.toModel.unpack.isFinite
  cases hx : x.toModel.unpack with
  | notANumber => rfl
  | infinity s => cases s <;> rfl
  | zero s => cases s <;> rfl
  | finite s m e h => exact isFinite_stored_of_finite hx (-s)

theorem isNaN_neg : (-x).isNaN = x.isNaN := by
  rw [Bool.eq_iff_iff, isNaN_iff, isNaN_iff, sign?_neg, Option.map_eq_none_iff]

end AskLedger.Amount
