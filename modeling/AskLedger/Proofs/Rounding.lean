import Mathlib
import AskLedger.Proofs.Magnitudes

/-!
# Rounding to double precision

A mantissa with an exponent is rounded by cutting off what does not fit, where half a unit or more
may add one; if that makes a power of two of it, one more bit is cut off. So a number is rounded to
one of its own order of magnitude or the next, and to infinity exactly if it is not less than the
middle between the largest finite number and the power of two above it. No rounding changes a sign.

* `Amount.stored_finite`: what is left of a number when it is stored in 64 bits.
* `Amount.roundWithAccuracy_eq`: rounding as one equation.
* `Amount.isFinite_round_iff`: which numbers are rounded to finite ones.
* `Amount.exists_stored_round`: the order of magnitude of a rounded number.
* `Amount.IsWithin.mul`, `Amount.IsWithin.div`: how large products and quotients may become.
-/

namespace AskLedger.Amount

open Float.Model (UnpackedFloat totalExponent)
open Float.Model.Format (binary64)
open Float.Model.UnpackedFloat

/-! ## Stored numbers -/

/-- The sign of a number, zero included; what is not a number has none. -/
def sign? : UnpackedFloat → Option Sign
  | .notANumber => none
  | .infinity s | .zero s | .finite s _ _ _ => some s

/-- What is left of a number when it is stored in 64 bits. -/
abbrev stored (f : UnpackedFloat) : UnpackedFloat := (Float.Model.pack f).unpack

theorem stored_infinity (s : Sign) : stored (.infinity s) = .infinity s := by
  cases s <;> rfl

theorem stored_zero (s : Sign) : stored (.zero s) = .zero s := by
  cases s <;> rfl

/-- Above the largest exponent there is infinity. -/
theorem stored_of_large (s : Sign) {m : Nat} {e : Int} (h : 0 < m) (he : 971 < e) :
    stored (.finite s m e h) = .infinity s := by
  have hpack : UnpackedFloat.pack binary64 (.finite s m e h) = packedInfinity binary64 s := by
    rw [UnpackedFloat.pack]
    simp only
    rw [if_pos (by simp [Float.Model.Format.exponentBias]; omega)]
  change UnpackedFloat.unpack binary64 (UnpackedFloat.pack binary64 (.finite s m e h)) = _
  rw [hpack]
  exact stored_infinity s

/-- Up to it a mantissa of 53 bits keeps its exponent, and any other one gets the smallest. -/
theorem stored_finite (s : Sign) {m : Nat} {e : Int} (h : 0 < m) (he : e ≤ 971) :
    stored (.finite s m e h) = UnpackedFloat.unpack binary64 (packComponents binary64 s
      (if m.log2 = 52 then BitVec.ofNat 11 (e + 1075).toNat else 0#11) (BitVec.ofNat 52 m)) := by
  have hbiased : (e + binary64.exponentBias + binary64.mantissaBitsWithoutImplicit).toNat =
      (e + 1075).toNat := by
    simp [Float.Model.Format.exponentBias]
    omega
  have hbits : m.log2 + 1 = binary64.mantissaBits ↔ m.log2 = 52 := Nat.add_right_cancel_iff
  change UnpackedFloat.unpack binary64 (UnpackedFloat.pack binary64 (.finite s m e h)) = _
  rw [UnpackedFloat.pack]
  simp only [hbiased, hbits]
  rw [if_neg (by simp; omega)]
  split <;> rfl

section
variable (s : Sign) {x : BitVec 11} (m : BitVec 52)

/-- With the smallest exponent a mantissa has no implicit bit. -/
theorem unpack_subnormal : UnpackedFloat.unpack binary64 (packComponents binary64 s 0#11 m) =
    if h : m = 0#52 then .zero s
    else .finite s m.toNat (-1074) (Nat.pos_of_ne_zero fun h0 => h (BitVec.eq_of_toNat_eq h0)) := by
  simp only [UnpackedFloat.unpack, unpackExponent_packComponents, unpackMantissa_packComponents,
    unpackSign_packComponents, Sign.ofBitVec_toBitVec]
  rfl

/-- The implicit bit stands in front of the mantissa. -/
theorem toNat_one_append : (1#1 ++ m).toNat = 2 ^ 52 + m.toNat := by
  rw [BitVec.toNat_append, Nat.shiftLeft_eq]
  exact (Nat.two_pow_add_eq_or_of_lt m.isLt 1).symm

/-- With any other exponent it has one. -/
theorem unpack_normal (hx : x ≠ 0#11) (htop : x ≠ -1#11) :
    UnpackedFloat.unpack binary64 (packComponents binary64 s x m) =
      .finite s (2 ^ 52 + m.toNat) ((x.toNat : Int) - 1075) (by positivity) := by
  have hvalue := toNat_one_append m
  simp only [UnpackedFloat.unpack, unpackExponent_packComponents, unpackMantissa_packComponents,
    unpackSign_packComponents, Sign.ofBitVec_toBitVec]
  rw [if_neg htop, if_neg hx]
  simp only [hvalue]
  rfl

end

/-- A number that is stored loses what does not fit but gets no larger. -/
theorem stored_of_le (s : Sign) {m : Nat} {e : Int} (h : 0 < m) (he : e ≤ 971) :
    stored (.finite s m e h) = .zero s ∨
      ∃ m' e' h', stored (.finite s m e h) = .finite s m' e' h' ∧
        (m'.log2 : Int) + e' ≤ max (e + 52) (-1022) := by
  rw [stored_finite s h he]
  -- the exponent as it is stored decides whether there is an implicit bit
  obtain ⟨x, hx⟩ : ∃ x : BitVec 11,
      (if m.log2 = 52 then BitVec.ofNat 11 (e + 1075).toNat else 0#11) = x := ⟨_, rfl⟩
  have hexponent : (x.toNat : Int) ≤ max (e + 1075) 0 := by
    rw [← hx]
    split
    · rw [BitVec.toNat_ofNat]
      omega
    · simp
  have hm := (BitVec.ofNat 52 m).isLt
  rw [hx]
  by_cases hzero : x = 0#11
  · subst hzero
    rw [unpack_subnormal]
    split
    · exact .inl rfl
    · next hne =>
      have hne : (BitVec.ofNat 52 m).toNat ≠ 0 := fun h0 => hne (BitVec.eq_of_toNat_eq h0)
      have hlog : (BitVec.ofNat 52 m).toNat.log2 < 52 := (Nat.log2_lt hne).2 hm
      exact .inr ⟨_, _, Nat.pos_of_ne_zero hne, rfl, by omega⟩
  · have htop : x ≠ -1#11 := by
      rintro rfl
      simp at hexponent
      omega
    have hlog : (2 ^ 52 + (BitVec.ofNat 52 m).toNat).log2 < 53 :=
      (Nat.log2_lt (by positivity)).2 (by omega)
    rw [unpack_normal s _ hzero htop]
    exact .inr ⟨_, _, by positivity, rfl, by omega⟩

/-- A number with a mantissa of 53 bits is stored as it is. -/
theorem stored_normal (s : Sign) {m : Nat} {e : Int} (h : 0 < m) (hlog : m.log2 = 52)
    (he : -1074 ≤ e ∧ e ≤ 971) : stored (.finite s m e h) = .finite s m e h := by
  obtain ⟨hlow, hhigh⟩ := (Nat.log2_eq_iff h.ne').1 hlog
  have hx : (BitVec.ofNat 11 (e + 1075).toNat).toNat = (e + 1075).toNat := by
    rw [BitVec.toNat_ofNat]
    omega
  have hne : ∀ y : BitVec 11, y.toNat = 0 ∨ y.toNat = 2047 →
      BitVec.ofNat 11 (e + 1075).toNat ≠ y := by
    rintro y hy rfl
    omega
  rw [stored_finite s h he.2, if_pos hlog, unpack_normal s _ (hne _ (.inl rfl)) (hne _ (.inr rfl))]
  simp only [hx, BitVec.toNat_ofNat, UnpackedFloat.finite.injEq, true_and]
  omega

/-- A number that is held is finite if its exponent is not too large. -/
theorem isFinite_stored_iff (s : Sign) (m : Nat) (e : Int) (h : 0 < m) :
    (stored (.finite s m e h)).isFinite = true ↔ e ≤ 971 := by
  by_cases he : e ≤ 971
  · refine iff_of_true ?_ he
    rcases stored_of_le s h he with h0 | ⟨m', e', h', h0, -⟩ <;> rw [h0] <;> rfl
  · rw [stored_of_large s h (Int.lt_of_not_ge he)]
    exact iff_of_false Bool.false_ne_true he

/-- Storing a number keeps its sign. -/
theorem sign?_stored (f : UnpackedFloat) : sign? (stored f) = sign? f := by
  cases f with
  | notANumber => rfl
  | infinity s => rw [stored_infinity]
  | zero s => rw [stored_zero]
  | finite s m e h =>
    by_cases he : e ≤ 971
    · rcases stored_of_le s h he with h0 | ⟨m', e', h', h0, -⟩ <;> rw [h0] <;> rfl
    · rw [stored_of_large s h (Int.lt_of_not_ge he)]
      rfl

/-! ## Rounding once -/

theorem shiftRight_mantissa (em : ExtendedMantissa) (k : Nat) :
    (em >>> k).mantissa = em.mantissa / 2 ^ k := by
  induction k with
  | zero => simp [HShiftRight.hShiftRight, Nat.repeat]
  | succ k ih =>
    have hstep : em >>> (k + 1) = (em >>> k).shiftRightOne := rfl
    rw [hstep, ExtendedMantissa.shiftRightOne, ih, Nat.div_div_eq_div_mul, Nat.pow_succ]

/-- The bit that is cut off last says whether half a unit is lost. -/
theorem shiftRight_roundBit (em : ExtendedMantissa) (k : Nat) :
    (em >>> (k + 1)).roundBit = (em.mantissa / 2 ^ k % 2 != 0) := by
  have hstep : em >>> (k + 1) = (em >>> k).shiftRightOne := rfl
  rw [hstep, ExtendedMantissa.shiftRightOne, shiftRight_mantissa]

/-- Rounding adds one at most. -/
theorem roundedMantissa_bounds (em : ExtendedMantissa) :
    em.mantissa ≤ em.roundedMantissa ∧ em.roundedMantissa ≤ em.mantissa + 1 := by
  obtain ⟨m, r, s⟩ := em
  have hhalf : m % 2 ≤ 1 := Nat.le_of_lt_succ (Nat.mod_lt m (by decide))
  cases r <;> cases s <;>
    simp [ExtendedMantissa.roundedMantissa, ExtendedMantissa.accuracy, Accuracy.roundToNearestEven]
  omega

/-- From half a unit on an odd mantissa is rounded up, since the even one is above it. -/
theorem roundedMantissa_of_odd {em : ExtendedMantissa} (h : em.mantissa % 2 = 1) :
    em.roundedMantissa = em.mantissa + em.roundBit.toNat := by
  obtain ⟨m, r, s⟩ := em
  cases r <;> cases s <;> simp_all [ExtendedMantissa.roundedMantissa, ExtendedMantissa.accuracy,
    Accuracy.roundToNearestEven]

theorem mantissa_ofMantissaAndAccuracy (m : Nat) (a : Accuracy) :
    (ExtendedMantissa.ofMantissaAndAccuracy m a).mantissa = m := by
  rcases a with - | (- | - | -) <;> rfl

/-- The number of bits that are cut off a mantissa before it is rounded. -/
def surplus (m : Nat) (e : Int) : Nat :=
  (max ((m.log2 : Int) + 1 + e - 53) (-1074) - e).toNat

/-- What does not fit into the mantissa is shifted out. -/
theorem shiftToTargetExponent_eq (m : Nat) (e : Int) (a : Accuracy) :
    shiftToTargetExponent binary64 m e a =
      (ExtendedMantissa.ofMantissaAndAccuracy m a >>> surplus m e, e + surplus m e) := rfl

/-- A mantissa after it has been rounded for the first time. -/
def rounded (m : Nat) (e : Int) (a : Accuracy) : Nat :=
  (ExtendedMantissa.ofMantissaAndAccuracy m a >>> surplus m e).roundedMantissa

/-- A rounded mantissa is the shifted one or one more. -/
theorem rounded_bounds (m : Nat) (e : Int) (a : Accuracy) :
    m / 2 ^ surplus m e ≤ rounded m e a ∧ rounded m e a ≤ m / 2 ^ surplus m e + 1 := by
  have h := roundedMantissa_bounds (ExtendedMantissa.ofMantissaAndAccuracy m a >>> surplus m e)
  rwa [shiftRight_mantissa, mantissa_ofMantissaAndAccuracy] at h

theorem div_lt_of_log2 {m b k : Nat} (h : m.log2 < b + k) : m / 2 ^ k < 2 ^ b := by
  rw [Nat.div_lt_iff_lt_mul (Nat.two_pow_pos k), ← Nat.pow_add]
  exact Nat.lt_of_lt_of_le Nat.lt_log2_self (Nat.pow_le_pow_right (by decide) h)

theorem le_div_of_log2 {m b k : Nat} (hm : m ≠ 0) (h : b + k ≤ m.log2) : 2 ^ b ≤ m / 2 ^ k := by
  rw [Nat.le_div_iff_mul_le (Nat.two_pow_pos k), ← Nat.pow_add]
  exact Nat.le_trans (Nat.pow_le_pow_right (by decide) h) (Nat.log2_self_le hm)

/-- Rounding leaves 53 bits of a mantissa, or the next power of two. -/
theorem rounded_le (m : Nat) (e : Int) (a : Accuracy) : rounded m e a ≤ 2 ^ 53 := by
  have hbits : m.log2 < 53 + surplus m e := by
    unfold surplus
    omega
  exact Nat.le_trans (rounded_bounds m e a).2 (div_lt_of_log2 hbits)

/-- If no more is cut off than has to be, all of them are left. -/
theorem le_rounded {m : Nat} {e : Int} (a : Accuracy) (hm : m ≠ 0)
    (h : 52 + surplus m e ≤ m.log2) : 2 ^ 52 ≤ rounded m e a :=
  Nat.le_trans (le_div_of_log2 hm h) (rounded_bounds m e a).1

/-- An odd mantissa is rounded by the next digit alone. -/
theorem rounded_of_odd {m n : Nat} {e : Int} (a : Accuracy) (hsurplus : surplus m e = n + 1)
    (hodd : m / 2 ^ n / 2 % 2 = 1) : rounded m e a = m / 2 ^ n / 2 + m / 2 ^ n % 2 := by
  have hmantissa : (ExtendedMantissa.ofMantissaAndAccuracy m a >>> (n + 1)).mantissa =
      m / 2 ^ n / 2 := by
    rw [shiftRight_mantissa, mantissa_ofMantissaAndAccuracy, Nat.div_div_eq_div_mul, Nat.pow_succ]
  rw [rounded, hsurplus, roundedMantissa_of_odd (by rw [hmantissa]; exact hodd), hmantissa,
    shiftRight_roundBit, mantissa_ofMantissaAndAccuracy]
  rcases Nat.mod_two_eq_zero_or_one (m / 2 ^ n) with h | h <;> simp [h]

/-! ## Rounding -/

/-- Rounding keeps the sign. -/
theorem sign?_roundWithAccuracy (s : Sign) (m : Nat) (e : Int) (a : Accuracy) :
    sign? (roundWithAccuracy binary64 s m e a) = some s := by
  unfold roundWithAccuracy
  simp only
  split <;> rfl

section
variable {s : Sign} {m r k : Nat} {e x : Int} {a : Accuracy}

/-- A mantissa is rounded, and cut off once more if it has become a power of two. -/
theorem roundWithAccuracy_eq (hr : rounded m e a = r) (hx : e + surplus m e = x)
    (hk : surplus r x = k) : roundWithAccuracy binary64 s m e a =
      if h : r / 2 ^ k = 0 then .zero s
      else .finite s (r / 2 ^ k) (x + k) (Nat.pos_of_ne_zero h) := by
  subst hr hx hk
  unfold roundWithAccuracy
  simp only [shiftToTargetExponent_eq, shiftRight_mantissa, mantissa_ofMantissaAndAccuracy]
  rfl

/-- A rounded number is finite if its exponent is not too large. -/
theorem isFinite_roundWithAccuracy (hr : rounded m e a = r) (hx : e + surplus m e = x)
    (hk : surplus r x = k) : (stored (roundWithAccuracy binary64 s m e a)).isFinite = true ↔
      r / 2 ^ k = 0 ∨ x + k ≤ 971 := by
  rw [roundWithAccuracy_eq hr hx hk]
  split
  · next h => simp [h, stored_zero, isFinite]
  · next h => rw [isFinite_stored_iff, or_iff_right h]

theorem log2_le_of_le (h : r ≤ 2 ^ 53) : r.log2 ≤ 53 := by
  by_cases h0 : r = 0
  · simp [h0]
  · have hlt : r.log2 < 54 := (Nat.log2_lt h0).2 (by omega)
    omega

/-- A number below the largest power of two is rounded to a finite one. -/
theorem isFinite_round_of_small (he : e ≤ 970) (h : (m.log2 : Int) + e ≤ 1022) :
    (stored (roundWithAccuracy binary64 s m e a)).isFinite = true := by
  rw [isFinite_roundWithAccuracy rfl rfl rfl]
  have hexponent : e + surplus m e ≤ 970 := by
    unfold surplus
    omega
  have hlog := log2_le_of_le (rounded_le m e a)
  generalize rounded m e a = r at hlog
  generalize e + (surplus m e : Int) = x at hexponent
  right
  unfold surplus
  omega

/-- From the largest power of two up to its double, the mantissa has to stay below `2 ^ 53`. -/
theorem isFinite_round_of_top {n : Nat} (he : e = 970 - n) (hlog : m.log2 = 53 + n) :
    (stored (roundWithAccuracy binary64 s m e a)).isFinite = true ↔ m / 2 ^ n < 2 ^ 54 - 1 := by
  have hzero : m ≠ 0 := by
    rintro rfl
    simp at hlog
    omega
  have hsurplus : surplus m e = n + 1 := by
    unfold surplus
    omega
  have hx : e + surplus m e = 971 := by omega
  have hlow : 2 ^ 53 ≤ m / 2 ^ n := le_div_of_log2 hzero (Nat.le_of_eq hlog.symm)
  have hhigh : m / 2 ^ n < 2 ^ 54 := div_lt_of_log2 (by omega)
  have hbounds := rounded_bounds m e a
  rw [hsurplus, Nat.pow_succ, ← Nat.div_div_eq_div_mul] at hbounds
  have hodd := rounded_of_odd a hsurplus
  rw [isFinite_roundWithAccuracy rfl hx rfl]
  generalize rounded m e a = r at hbounds hodd
  generalize m / 2 ^ n = q at *
  -- `2 ^ 53` loses its last bit to a larger exponent, and that one is too large
  by_cases hlarge : r < 2 ^ 53
  · have hr : r.log2 ≤ 52 := Nat.le_of_lt_succ ((Nat.log2_lt (by omega)).2 hlarge)
    have hlast : surplus r 971 = 0 := by
      unfold surplus
      omega
    exact iff_of_true (.inr (by omega)) (by omega)
  · obtain rfl : r = 2 ^ 53 := by omega
    have hlast : surplus (2 ^ 53) 971 = 1 := by decide
    rw [hlast]
    exact iff_of_false (by decide) (by omega)

/-- From that double on all numbers are rounded to infinity. -/
theorem not_isFinite_round_of_large (hm : m ≠ 0) (h : 1024 ≤ (m.log2 : Int) + e)
    (he : e ≤ 970) : ¬(stored (roundWithAccuracy binary64 s m e a)).isFinite = true := by
  rw [isFinite_roundWithAccuracy rfl rfl rfl]
  have hshift : 52 + surplus m e ≤ m.log2 ∧ 972 ≤ e + (surplus m e : Int) := by
    unfold surplus
    omega
  have hlow := le_rounded a hm hshift.1
  generalize rounded m e a = r at hlow
  generalize e + (surplus m e : Int) = x at hshift
  have hr : r ≠ 0 := by omega
  -- no more bits are cut off than there are, so that something is left
  have hsurplus : surplus r x ≤ r.log2 := by
    unfold surplus
    omega
  have hpos : 2 ^ surplus r x ≤ r :=
    Nat.le_trans (Nat.pow_le_pow_right (by decide) hsurplus) (Nat.log2_self_le hr)
  have hdiv : 0 < r / 2 ^ surplus r x := Nat.div_pos hpos (Nat.two_pow_pos _)
  omega

/-- The numbers that are rounded to finite ones are those below the middle between the largest
finite number and the power of two above it. -/
theorem isFinite_round_iff (he : e ≤ 970) :
    (stored (roundWithAccuracy binary64 s m e a)).isFinite = true ↔
      m < (2 ^ 54 - 1) * 2 ^ (970 - e).toNat := by
  obtain ⟨n, hn⟩ : ∃ n : Nat, (970 - e).toNat = n := ⟨_, rfl⟩
  have hen : e = 970 - (n : Int) := by omega
  rw [hn]
  by_cases hzero : m = 0
  · subst hzero
    exact iff_of_true (isFinite_round_of_small he (by simp; omega)) (by positivity)
  -- the leading bit decides, except in the top range, where rounding up can overflow
  rcases Nat.lt_trichotomy m.log2 (53 + n) with hlog | hlog | hlog
  · refine iff_of_true (isFinite_round_of_small he (by omega)) ?_
    calc m < 2 ^ (m.log2 + 1) := Nat.lt_log2_self
      _ ≤ 2 ^ (53 + n) := Nat.pow_le_pow_right (by decide) hlog
      _ = 2 ^ 53 * 2 ^ n := Nat.pow_add ..
      _ ≤ (2 ^ 54 - 1) * 2 ^ n := Nat.mul_le_mul_right _ (by decide)
  · rw [isFinite_round_of_top hen hlog, Nat.div_lt_iff_lt_mul (Nat.two_pow_pos n)]
  · refine iff_of_false (not_isFinite_round_of_large hzero (by omega) he) (Nat.not_lt.2 ?_)
    calc (2 ^ 54 - 1) * 2 ^ n ≤ 2 ^ 54 * 2 ^ n := Nat.mul_le_mul_right _ (by decide)
      _ = 2 ^ (54 + n) := (Nat.pow_add ..).symm
      _ ≤ 2 ^ m.log2 := Nat.pow_le_pow_right (by decide) (by omega)
      _ ≤ m := Nat.log2_self_le hzero

end

/-! ## Orders of magnitude -/

theorem log2_div_two_pow (m k : Nat) : (m / 2 ^ k).log2 = m.log2 - k := by
  rw [← Nat.shiftRight_eq_div_pow]
  induction k with
  | zero => rfl
  | succ k ih =>
    rw [Nat.shiftRight_succ, Nat.log2_eq_log_two, Nat.log_div_base, ← Nat.log2_eq_log_two, ih]
    omega

/-- A number that is neither too small nor too large keeps its order of magnitude, or gets the next
one. -/
theorem exists_stored_round {m : Nat} {e : Int} (s : Sign) (a : Accuracy) (hm : 52 ≤ m.log2)
    (he : -1022 ≤ (m.log2 : Int) + e)
    (hfinite : (stored (roundWithAccuracy binary64 s m e a)).isFinite = true) :
    ∃ m' e' hm', stored (roundWithAccuracy binary64 s m e a) = .finite s m' e' hm' ∧
      (m.log2 : Int) + e ≤ m'.log2 + e' ∧ m'.log2 + e' ≤ m.log2 + e + 1 := by
  have hzero : m ≠ 0 := by
    rintro rfl
    simp at hm
  have hsurplus : surplus m e = m.log2 - 52 := by
    unfold surplus
    omega
  have hlow := le_rounded a hzero (show 52 + surplus m e ≤ m.log2 by omega)
  have hhigh := rounded_le m e a
  rw [isFinite_roundWithAccuracy rfl rfl rfl] at hfinite
  rw [roundWithAccuracy_eq rfl rfl rfl]
  rw [hsurplus] at hfinite ⊢
  generalize rounded m e a = r at hlow hhigh hfinite ⊢
  have hr : r ≠ 0 := by omega
  have hlog : 52 ≤ r.log2 ∧ r.log2 ≤ 53 := ⟨(Nat.le_log2 hr).2 hlow, log2_le_of_le hhigh⟩
  have hrest : surplus r (e + ((m.log2 - 52 : Nat) : Int)) = r.log2 - 52 := by
    unfold surplus
    omega
  -- what is left has 53 bits, so that it is stored as it is
  have hnormal : (r / 2 ^ (r.log2 - 52)).log2 = 52 := by
    rw [log2_div_two_pow]
    omega
  have hne : r / 2 ^ (r.log2 - 52) ≠ 0 := by
    intro hdiv
    rw [hdiv] at hnormal
    cases hnormal
  simp only [hrest] at hfinite ⊢
  rw [or_iff_right hne] at hfinite
  rw [dif_neg hne, stored_normal s _ hnormal (by omega)]
  exact ⟨_, _, Nat.pos_of_ne_zero hne, rfl, by omega, by omega⟩

/-- Whether a number is finite, not below zero and less than `2 ^ (b + 1)`. -/
def IsWithin (b : Int) : UnpackedFloat → Prop
  | .zero s => s = .positive
  | .finite s m e _ => s = .positive ∧ (m.log2 : Int) + e ≤ b
  | .infinity _ | .notANumber => False

/-- Whether a number is finite and not less than one. -/
def IsFromOne : UnpackedFloat → Prop
  | .finite s m e _ => s = .positive ∧ 0 ≤ (m.log2 : Int) + e
  | .zero _ | .infinity _ | .notANumber => False

instance decidableEqSign : DecidableEq Sign :=
  fun s t => decidable_of_iff ((s == t) = true) beq_iff_eq

instance : DecidablePred IsFromOne
  | .finite s m e _ => inferInstanceAs (Decidable (s = .positive ∧ 0 ≤ (m.log2 : Int) + e))
  | .zero _ | .infinity _ | .notANumber => inferInstanceAs (Decidable False)

instance (b : Int) : DecidablePred (IsWithin b)
  | .finite s m e _ => inferInstanceAs (Decidable (s = .positive ∧ (m.log2 : Int) + e ≤ b))
  | .zero s => inferInstanceAs (Decidable (s = .positive))
  | .infinity _ | .notANumber => inferInstanceAs (Decidable False)

section
variable {b c : Int} {f g : UnpackedFloat}

/-- What lies within a bound lies within greater ones. -/
theorem IsWithin.mono (h : IsWithin b f) (hbc : b ≤ c) : IsWithin c f := by
  cases f with
  | zero s => exact h
  | finite s m e hm => exact ⟨h.1, Int.le_trans h.2 hbc⟩
  | infinity | notANumber => exact h

theorem IsWithin.sign?_eq (h : IsWithin b f) : sign? f = some .positive := by
  cases f with
  | zero s => exact congrArg some h
  | finite s m e hm => exact congrArg some h.1
  | infinity | notANumber => exact h.elim

theorem IsWithin.isFinite (h : IsWithin b f) : f.isFinite = true := by
  cases f with
  | zero | finite => rfl
  | infinity | notANumber => exact h.elim

theorem isWithin_zero (b : Int) : IsWithin b (stored (.zero .positive)) := by
  rw [stored_zero]
  rfl

/-- A number with a small exponent lies within the bound. -/
theorem isWithin_stored {e : Int} {m : Nat} (hm : 0 < m) (hb : -1022 ≤ b ∧ b ≤ 1023)
    (he : e + 52 ≤ b) : IsWithin b (stored (.finite .positive m e hm)) := by
  rcases stored_of_le .positive hm (show e ≤ 971 by omega) with h | ⟨m', e', h', h, hle⟩
  · rw [h]
    rfl
  · rw [h]
    exact ⟨rfl, by omega⟩

/-- A number with few digits and a small exponent is rounded to one within the bound. -/
theorem isWithin_round {e : Int} {m : Nat} (a : Accuracy) (hb : -1021 ≤ b ∧ b ≤ 1023)
    (he : e + 53 ≤ b) (hm : (m.log2 : Int) + e + 1 ≤ b) :
    IsWithin b (stored (roundWithAccuracy binary64 .positive m e a)) := by
  rw [roundWithAccuracy_eq rfl rfl rfl]
  have hexponent : e + surplus m e + 53 ≤ b := by
    unfold surplus
    omega
  have hlog := log2_le_of_le (rounded_le m e a)
  generalize rounded m e a = r at hlog
  generalize e + (surplus m e : Int) = x at hexponent
  split
  · exact isWithin_zero b
  · refine isWithin_stored _ (by omega) ?_
    unfold surplus
    omega

/-- The order of magnitude of a product is at most the sum of both, up to the bits of a mantissa. -/
theorem IsWithin.mul (hf : IsWithin b f) (hg : IsWithin c g)
    (hb : -1021 ≤ b + c + 53 ∧ b + c + 53 ≤ 1023) :
    IsWithin (b + c + 53) (stored (UnpackedFloat.mul binary64 f g)) := by
  cases f with
  | infinity | notANumber => exact hf.elim
  | zero s =>
    obtain rfl : s = .positive := hf
    cases g with
    | infinity | notANumber => exact hg.elim
    | zero t =>
      obtain rfl : t = .positive := hg
      exact isWithin_zero _
    | finite t m e hm =>
      obtain rfl : t = .positive := hg.1
      exact isWithin_zero _
  | finite s m e hm =>
    obtain ⟨rfl, hf⟩ := hf
    cases g with
    | infinity | notANumber => exact hg.elim
    | zero t =>
      obtain rfl : t = .positive := hg
      exact isWithin_zero _
    | finite t n d hn =>
      obtain ⟨rfl, hg⟩ := hg
      -- the product has at most as many bits as both factors together
      have hlog : (m * n).log2 < m.log2 + n.log2 + 2 := by
        rw [Nat.log2_lt (by positivity)]
        calc m * n < 2 ^ (m.log2 + 1) * 2 ^ (n.log2 + 1) :=
              Nat.mul_lt_mul'' Nat.lt_log2_self Nat.lt_log2_self
          _ = 2 ^ (m.log2 + n.log2 + 2) := by rw [← Nat.pow_add]; congr 1; omega
      exact isWithin_round .exact hb (by omega) (by omega)

theorem log2_shiftLeft {m : Nat} (hm : m ≠ 0) (k : Nat) : (m <<< k).log2 = m.log2 + k := by
  induction k with
  | zero => rfl
  | succ k ih =>
    have hne : m <<< k ≠ 0 := by simp [Nat.shiftLeft_eq, hm]
    rw [Nat.shiftLeft_succ, Nat.log2_two_mul hne, ih, Nat.add_assoc]

theorem log2_div_add_log2_le (m n : Nat) : m / n = 0 ∨ (m / n).log2 + n.log2 ≤ m.log2 := by
  by_cases hq : m / n = 0
  · exact .inl hq
  · have hm : m ≠ 0 := by
      rintro rfl
      simp at hq
    right
    rw [Nat.le_log2 hm, Nat.pow_add]
    have hn : n ≠ 0 := by
      rintro rfl
      simp at hq
    calc 2 ^ (m / n).log2 * 2 ^ n.log2 ≤ m / n * n :=
          Nat.mul_le_mul (Nat.log2_self_le hq) (Nat.log2_self_le hn)
      _ ≤ m := Nat.div_mul_le_self m n

/-- Dividing by a number from one on makes no number much larger. -/
theorem IsWithin.div (hf : IsWithin b f) (hg : IsFromOne g) (hb : 0 ≤ b ∧ b ≤ 1022) :
    IsWithin (b + 1) (stored (UnpackedFloat.div binary64 f g)) := by
  cases g with
  | zero | infinity | notANumber => exact hg.elim
  | finite s n d hn =>
  obtain ⟨rfl, hd⟩ := hg
  cases f with
  | infinity | notANumber => exact hf.elim
  | zero s =>
    obtain rfl : s = .positive := hf
    exact isWithin_zero _
  | finite s m e hm =>
    obtain ⟨rfl, hf⟩ := hf
    have hround : UnpackedFloat.div binary64 (.finite .positive m e hm) (.finite .positive n d hn) =
        roundWithAccuracy binary64 .positive (divCore binary64 m e n d).1
          (divCore binary64 m e n d).2.1 (divCore binary64 m e n d).2.2 := rfl
    -- the dividend is shifted until the quotient has enough bits
    obtain ⟨t, ht⟩ : ∃ t, t = min (e - d)
        (max (((m.log2 : Int) + 1 + e - (n.log2 + 1 + d)) - 53) (-1074)) := ⟨_, rfl⟩
    have hcore : divCore binary64 m e n d = ((m <<< (e - d - t).toNat) / n, t,
        accuracyOfFraction ((m <<< (e - d - t).toNat) % n) n) := by
      rw [ht]
      rfl
    have hlog := log2_shiftLeft hm.ne' (e - d - t).toNat
    have hquotient := log2_div_add_log2_le (m <<< (e - d - t).toNat) n
    rw [hlog] at hquotient
    rw [hround, hcore]
    refine isWithin_round _ (by omega) (by simp only; omega) ?_
    simp only
    rcases hquotient with hzero | hle
    · rw [hzero, Nat.log2_zero]
      omega
    · omega

end

end AskLedger.Amount
