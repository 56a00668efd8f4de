import AskLedger.Json.Decode
import AskLedger.Proofs.NearestNumbers

/-!
# Scaled numerals

The digits of a numeral are read as a count, and that is multiplied by a power of ten or divided by
some. A product that would be infinite is refused, and no quotient grows. So a numeral stands for a
finite number, which has a minus exactly if the numeral has one.

* `Numeral.scaleFloat?_sound`: scaling a count gives a finite number with a plus.
* `Numeral.toFloat?_sound`: what a numeral stands for is finite and has its sign.
-/

namespace AskLedger

namespace Amount

open Float.Model (UnpackedFloat)
open Float.Model.Format (binary64)

variable {x y : Float} {b : Int} {k : Nat}

/-! ## Powers of ten -/

/-- A finite power of ten is not less than one. -/
theorem isFromOne_power (h : (Float.ofScientific 1 false k).isFinite = true) :
    IsFromOne (Float.ofScientific 1 false k).toModel.unpack := by
  by_cases hk : k < 23
  · have hall : ∀ k < 23, IsFromOne (Float.ofScientific 1 false k).toModel.unpack := by
      decide +kernel
    exact hall k hk
  · have hlarge : ¬(1 < 2 ^ 53 ∧ k ≤ 22) := by omega
    rw [Float.ofScientific, dif_neg hlarge] at h ⊢
    exact isFromOne_ofScientific Nat.one_ne_zero h

theorem isFinite_power (h : k ≤ 308) : (Float.ofScientific 1 false k).isFinite = true := by
  have hlargest : 10 ^ 308 < overflow := by decide +kernel
  have hpower : 10 ^ k ≤ 10 ^ 308 := pow_le_pow_right₀ (by decide) h
  have hlt : 10 ^ k < overflow := Nat.lt_of_le_of_lt hpower hlargest
  rw [isFinite_float_iff, if_neg Bool.false_ne_true, zpow_natCast, Nat.cast_one, one_mul]
  exact_mod_cast hlt

/-- What is not negative and not finite is infinite. -/
theorem eq_infinity {f : UnpackedFloat} (hsign : sign? f = some .positive)
    (h : f.isFinite = false) : f = .infinity .positive := by
  cases f with
  | notANumber => cases hsign
  | infinity s => rw [Option.some.inj hsign]
  | zero s => cases h
  | finite s m e hm => cases h

/-- Dividing by a power of ten makes no number much larger, not even if that power is infinite. -/
theorem isWithin_div_power (h : IsWithin b x.toModel.unpack) (hb : 0 ≤ b ∧ b ≤ 1022) (k : Nat) :
    IsWithin (b + 1) (x / Float.ofScientific 1 false k).toModel.unpack := by
  change IsWithin (b + 1) (stored (UnpackedFloat.div binary64 x.toModel.unpack
    (Float.ofScientific 1 false k).toModel.unpack))
  cases hfinite : (Float.ofScientific 1 false k).isFinite with
  | true => exact h.div (isFromOne_power hfinite) hb
  | false =>
    -- what is divided by infinity is zero
    rw [eq_infinity (sign?_float 1 false k) hfinite]
    generalize x.toModel.unpack = f at h
    cases f with
    | notANumber | infinity => exact h.elim
    | zero s =>
      obtain rfl : s = .positive := h
      exact isWithin_zero _
    | finite s m e hm =>
      obtain ⟨rfl, -⟩ := h
      exact isWithin_zero _

/-- A product with a finite power of ten keeps the plus. -/
theorem sign?_mul_power (h : IsWithin b x.toModel.unpack) (hk : k ≤ 308) :
    sign? (x * Float.ofScientific 1 false k).toModel.unpack = some .positive := by
  change sign? (stored (UnpackedFloat.mul binary64 x.toModel.unpack
    (Float.ofScientific 1 false k).toModel.unpack)) = _
  -- only zero and finite numbers are left: neither factor is negative, and no power is zero
  have hpower := isFromOne_power (isFinite_power hk)
  rw [sign?_stored]
  generalize (Float.ofScientific 1 false k).toModel.unpack = g at hpower
  generalize x.toModel.unpack = f at h
  cases g with
  | notANumber | infinity | zero => exact hpower.elim
  | finite t n d hn =>
    obtain ⟨rfl, -⟩ := hpower
    cases f with
    | notANumber | infinity => exact h.elim
    | zero s =>
      obtain rfl : s = .positive := h
      rfl
    | finite s m e hm =>
      obtain ⟨rfl, -⟩ := h
      exact sign?_roundWithAccuracy ..

/-- Infinity is recognized. -/
theorem beq_infinity (hsign : sign? x.toModel.unpack = some .positive)
    (h : x.isFinite = false) : (x == 1.0 / 0.0) = true := by
  have hdef : (x == 1.0 / 0.0) =
      (x.toModel.unpack.compare (1.0 / 0.0 : Float).toModel.unpack == some .eq) := rfl
  rw [hdef, eq_infinity hsign h]
  rfl

end Amount

/-! ## Numerals -/

namespace Numeral

open Amount (sign? IsWithin)

/-- No more digits are taken than a count can have. -/
theorem absorb_le {n taken : Nat} (h : n ≤ Decimal.largestCount) (ds : List Char) :
    (absorb n taken ds).1 ≤ Decimal.largestCount := by
  induction ds generalizing n taken with
  | nil => exact h
  | cons c ds ih =>
    rw [absorb]
    split
    · next hnext => exact ih hnext
    · exact h

/-- A count is not large. -/
theorem isWithin_count {m : Nat} (h : m ≤ Decimal.largestCount) :
    IsWithin 191 (Float.ofScientific m false 0).toModel.unpack := by
  by_cases hfew : m < 2 ^ 53 ∧ 0 ≤ 22
  · exact Amount.isWithin_float false hfew
  · have hlog : m.log2 < 64 :=
      (Nat.log2_lt (by omega)).2 (Nat.lt_of_le_of_lt h (by decide))
    have hshifted := Amount.log2_shiftLeft (m := m) (by omega) 53
    rw [Nat.shiftLeft_eq] at hshifted
    rw [Float.ofScientific, dif_neg hfew]
    change IsWithin 191 (Float.Model.ofScientific m 0).unpack
    rw [Amount.unpack_ofScientific, Float.Model.UnpackedFloat.ofScientific, dif_neg (by omega),
      if_neg (by simp), if_neg (by simp), if_pos (by decide), Amount.mul_power]
    refine Amount.isWithin_round _ (by decide) (by decide) ?_
    rw [Int.toNat_zero, Nat.pow_zero, Nat.mul_one]
    omega

/-- Scaling a number within bounds gives a finite one that is not negative. -/
theorem scaleFloat?_sound {x y : Float} {e : Int} (hx : IsWithin 191 x.toModel.unpack)
    (h : scaleFloat? x e = some y) :
    y.isFinite = true ∧ sign? y.toModel.unpack = some .positive := by
  unfold scaleFloat? at h
  split at h
  · split at h
    · cases h
      exact ⟨hx.isFinite, hx.sign?_eq⟩
    split at h
    · cases h
    next he =>
    simp only at h
    split at h
    · cases h
    · next hfinite =>
      cases h
      have hsign := Amount.sign?_mul_power hx (k := e.toNat) (by omega)
      refine ⟨?_, hsign⟩
      rw [← Bool.not_eq_false]
      exact fun hinfinite => hfinite (Amount.beq_infinity hsign hinfinite)
  split at h
  · cases h
    exact ⟨rfl, rfl⟩
  -- a large negative exponent is taken off in two or three steps, each of which stays in range
  have hfirst := Amount.isWithin_div_power hx (by decide) 308
  split at h
  · cases h
    have hsecond := Amount.isWithin_div_power hfirst (by decide) 308
    have hlast := Amount.isWithin_div_power hsecond (by decide) (-e - 616).toNat
    exact ⟨hlast.isFinite, hlast.sign?_eq⟩
  split at h
  · cases h
    have hlast := Amount.isWithin_div_power hfirst (by decide) (-e - 308).toNat
    exact ⟨hlast.isFinite, hlast.sign?_eq⟩
  · cases h
    have hlast := Amount.isWithin_div_power hx (by decide) (-e).toNat
    exact ⟨hlast.isFinite, hlast.sign?_eq⟩

/-- What a numeral stands for is finite and has its sign. -/
theorem toFloat?_sound {n : Numeral} {x : Float} (h : n.toFloat? = some x) : x.isFinite = true ∧
    sign? x.toModel.unpack = some (if n.negative then .negative else .positive) := by
  unfold toFloat? at h
  simp only at h
  obtain ⟨y, hy, rfl⟩ := Option.map_eq_some_iff.1 h
  have hwhole := @absorb_le 0 0 (Nat.zero_le _) n.whole
  have hcount := isWithin_count (@absorb_le _ 0 hwhole n.fraction)
  have hsound : y.isFinite = true ∧ sign? y.toModel.unpack = some .positive := by
    split at hy
    · cases hy
      exact ⟨hcount.isFinite, hcount.sign?_eq⟩
    · exact scaleFloat?_sound hcount hy
  split
  · exact ⟨Amount.isFinite_neg.trans hsound.1, by rw [Amount.sign?_neg, hsound.2]; rfl⟩
  · exact hsound

end Numeral

end AskLedger
