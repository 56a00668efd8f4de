/-!
# Binary floating point numbers, taken apart

A floating point number is not a number, an infinity, or a signed integer times a power of two. What
is written and compared exactly is stated on that integer and that exponent.
-/

namespace AskLedger

/-- The widths of a binary floating point format. -/
structure BinaryFormat where
  /-- The number of stored bits of the significand. -/
  fractionBits : Nat
  /-- The number of bits of the exponent. -/
  exponentBits : Nat

/-- Double precision. -/
def BinaryFormat.double : BinaryFormat := ⟨52, 11⟩

/-- Single precision. -/
def BinaryFormat.single : BinaryFormat := ⟨23, 8⟩

/-- A finite number `± significand * 2 ^ exponent`. -/
structure Binary where
  /-- Whether the sign is minus; zero has a sign too. -/
  negative : Bool
  /-- The integer that is scaled. -/
  significand : Nat
  /-- The power of two it is scaled by. -/
  exponent : Int
  /-- Whether the next smaller significand is only half a step away, as it is at a power of two. -/
  narrowBelow : Bool
  deriving DecidableEq, Repr

/-- What the bits of a floating point number stand for. -/
inductive BinaryValue where
  /-- Not a number. -/
  | nan
  /-- An infinity. -/
  | infinite (negative : Bool)
  /-- A finite number. -/
  | finite (b : Binary)
  deriving DecidableEq, Repr

/-- Takes the bits of a number apart. -/
def BinaryFormat.decode (fmt : BinaryFormat) (bits : Nat) : BinaryValue :=
  let unit := Nat.pow 2 fmt.fractionBits
  let top := Nat.pow 2 fmt.exponentBits - 1
  let fraction := bits % unit
  let biased := bits / unit % (top + 1)
  let negative := bits / unit / (top + 1) == 1
  let least : Int := 2 - Nat.pow 2 (fmt.exponentBits - 1) - fmt.fractionBits
  if biased = top then if fraction = 0 then .infinite negative else .nan
  else if biased = 0 then .finite ⟨negative, fraction, least, false⟩
  else .finite ⟨negative, fraction + unit, least + (biased - 1 : Nat), fraction == 0 && biased != 1⟩

/-- Takes a double precision number apart. -/
def doubleValue (x : Float) : BinaryValue :=
  BinaryFormat.double.decode x.toBits.toNat

/-- Takes a single precision number apart. -/
def singleValue (x : Float32) : BinaryValue :=
  BinaryFormat.single.decode x.toBits.toNat

/-- `2 ^ e` as a quotient of two natural numbers. -/
def powerOfTwo (e : Int) : Nat × Nat :=
  if 0 ≤ e then (Nat.pow 2 e.toNat, 1) else (1, Nat.pow 2 (-e).toNat)

/-- `10 ^ e` as a quotient of two natural numbers. -/
def powerOfTen (e : Int) : Nat × Nat :=
  if 0 ≤ e then (Nat.pow 10 e.toNat, 1) else (1, Nat.pow 10 (-e).toNat)

end AskLedger
