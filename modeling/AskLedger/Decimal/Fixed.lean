import AskLedger.Decimal.Binary

/-!
# Fixed places

A number written with two places: the exact binary value is rounded to the nearest hundredth, and a
value that lies exactly halfway goes to the even neighbour. The sign of a negative number is kept
even where only zeros remain.

* `roundHalfEven_spec`: the rounded quotient is within half a unit.
-/

namespace AskLedger

/-- The natural number nearest to `num / den`; halfway the even one. -/
def roundHalfEven (num den : Nat) : Nat :=
  let q := num / den
  let r := num % den
  if 2 * r < den then q
  else if den < 2 * r then q + 1
  else if q % 2 = 0 then q else q + 1

/-- Hundredths as units with two places. -/
def writtenHundredths (n : Nat) : String :=
  let cents := n % 100
  toString (n / 100) ++ "." ++ (if cents < 10 then "0" else "") ++ toString cents

/-- A number with two places. -/
def twoPlaces (x : Float) : String :=
  match doubleValue x with
  | .nan => "NaN"
  | .infinite negative => if negative then "-inf" else "inf"
  | .finite b =>
    let (up, down) := powerOfTwo b.exponent
    (if b.negative then "-" else "")
      ++ writtenHundredths (roundHalfEven (b.significand * up * 100) down)

/-- An amount of money in rupees. -/
def rupees (amount : Float) : String := "₹" ++ twoPlaces amount

/-- The rounded quotient is within half a unit. -/
theorem roundHalfEven_spec {num den : Nat} (h : 0 < den) :
    2 * num ≤ (2 * roundHalfEven num den + 1) * den ∧
      (2 * roundHalfEven num den) * den ≤ 2 * num + den := by
  have hdiv : den * (num / den) + num % den = num := Nat.div_add_mod num den
  have hlt : num % den < den := Nat.mod_lt num h
  have hcomm : num / den * den = den * (num / den) := Nat.mul_comm _ _
  unfold roundHalfEven
  simp only
  split
  · constructor <;> (simp only [Nat.add_mul, Nat.mul_assoc]; omega)
  · split
    · constructor <;> (simp only [Nat.add_mul, Nat.mul_add, Nat.mul_assoc]; omega)
    · split
      · constructor <;> (simp only [Nat.add_mul, Nat.mul_assoc]; omega)
      · constructor <;> (simp only [Nat.add_mul, Nat.mul_add, Nat.mul_assoc]; omega)

end AskLedger
