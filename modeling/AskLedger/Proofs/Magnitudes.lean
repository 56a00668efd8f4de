import Mathlib
import AskLedger.Proofs.StableOrder

/-!
# Magnitudes

A number of double precision consists of a sign, an exponent and a mantissa. Taken apart and put
together again a number is the same. So the magnitude of a number that is not below zero is
that number, and only zero may lose a sign, which does not show in any comparison.

* `Amount.pack_unpack_self`: a number is put together as it was.
* `Amount.abs_beq_self`: the magnitude of a number that is not below zero is equal to it.
-/

namespace AskLedger.Amount

open Float.Model (UnpackedFloat)
open Float.Model.Format (binary64)
open Float.Model.UnpackedFloat

/-- A number that is taken apart is put together as it was. -/
theorem pack_unpack_self (x : Float.Model) : Float.Model.pack x.unpack = x := by
  obtain ⟨bits, hvalid⟩ := x
  have hbits : UnpackedFloat.pack binary64 (unpack binary64 bits.toBitVec) = bits.toBitVec :=
    pack_unpack_of_valid hvalid
  simp only [Float.Model.pack, Float.Model.unpack, hbits]

/-- The magnitude of a number that is not below zero lies where the number lies. -/
theorem place_abs {x : Float} (h : 0 ≤ x) : place x.abs = place x ∧ x.abs.isNaN = false := by
  obtain ⟨-, hnan, hnot⟩ := le_iff.1 h
  have hlevel : 0 ≤ (position x.toModel.unpack).level :=
    Int.not_lt.1 fun hlt => hnot (Position.order_eq_lt.2 (.inl hlt))
  have habs : x.abs.toModel = Float.Model.pack x.toModel.unpack.abs := rfl
  have hself := pack_unpack_self x.toModel
  rw [place, place, Float.isNaN, Float.Model.isNaN, habs]
  rw [Float.isNaN, Float.Model.isNaN] at hnan
  cases hx : x.toModel.unpack with
  | notANumber => simp [hx, isNaN] at hnan
  | infinity s =>
    cases s with
    | negative => simp [hx, position] at hlevel
    | positive => exact ⟨rfl, rfl⟩
  | zero s =>
    have hpack : (Float.Model.pack (.zero .positive)).unpack = .zero .positive := rfl
    rw [UnpackedFloat.abs, hpack]
    exact ⟨rfl, rfl⟩
  | finite s m e hm =>
    cases s with
    | negative => simp [hx, position] at hlevel
    | positive =>
      -- its magnitude has the same parts
      rw [hx] at hself
      rw [UnpackedFloat.abs, hself, hx]
      exact ⟨rfl, rfl⟩

/-- The magnitude of a number that is not below zero is equal to it. -/
theorem abs_beq_self {x : Float} (h : 0 ≤ x) : (x.abs == x) = true := by
  obtain ⟨hplace, hnan⟩ := place_abs h
  refine beq_iff.2 ⟨hnan, (le_iff.1 h).2.1, ?_⟩
  rw [hplace]
  exact Position.order_eq_eq.2 ⟨rfl, rfl, rfl⟩

end AskLedger.Amount
