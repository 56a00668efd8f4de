/-!
# Hexadecimal digits

The value of hexadecimal digits in either case, and digits for a value.

* `Text.hexValue?_lt`: a digit is worth less than sixteen.
-/

namespace AskLedger.Text

/-- The value of a hexadecimal digit. -/
def hexValue? (c : Char) : Option Nat :=
  if '0' ≤ c ∧ c ≤ '9' then some (c.toNat - 48)
  else if 'a' ≤ c ∧ c ≤ 'f' then some (c.toNat - 87)
  else if 'A' ≤ c ∧ c ≤ 'F' then some (c.toNat - 55)
  else none

/-- The number that hexadecimal digits stand for, after digits worth `n`. -/
def hexNumberFrom? (n : Nat) : List Char → Option Nat
  | [] => some n
  | c :: rest =>
    match hexValue? c with
    | some d => hexNumberFrom? (n * 16 + d) rest
    | none => none

/-- The number that hexadecimal digits stand for; no digits stand for zero. -/
def hexNumber? (digits : List Char) : Option Nat :=
  hexNumberFrom? 0 digits

/-- The small hexadecimal digit of a value below sixteen. -/
def hexDigit (n : Nat) : Char := Nat.digitChar n

/-- The capital hexadecimal digit of a value below sixteen. -/
def capitalHexDigit (n : Nat) : Char := (hexDigit n).toUpper

/-- A digit is worth less than sixteen. -/
theorem hexValue?_lt {c : Char} {n : Nat} (h : hexValue? c = some n) : n < 16 := by
  unfold hexValue? at h
  split at h
  · rename_i hc
    have h9 : c.toNat ≤ 57 := hc.2
    cases h
    omega
  · split at h
    · rename_i hc
      have hf : c.toNat ≤ 102 := hc.2
      cases h
      omega
    · split at h
      · rename_i hc
        have hf : c.toNat ≤ 70 := hc.2
        cases h
        omega
      · cases h

end AskLedger.Text
