import AskLedger.Decimal.Binary

/-!
# Shortest digits

The fewest decimal digits that read back as the same number, and among those the ones nearest to it;
where two are equally near, the even ones. The numbers that read back form an interval around the
value, whose ends belong to it exactly if the significand is even.

Two notations write the digits: one uses an exponent for very large and very small numbers, the
other never does.
-/

namespace AskLedger

/-- Decimal digits with a scale: `digits * 10 ^ scale`. -/
structure Scaled where
  /-- The digits as a number. -/
  digits : Nat
  /-- The power of ten they are scaled by. -/
  scale : Int
  deriving DecidableEq, Repr

namespace Shortest

/-- The number of decimal digits, zero having one. -/
def digitCount (n : Nat) : Nat := (Nat.toDigits 10 n).length

/-- The exponent of the leading decimal digit of `num / den`, for positive numbers. -/
def leadingExponent (num den : Nat) : Int :=
  if den ≤ num then (digitCount (num / den) : Int) - 1
  else
    let inverse := (den + num - 1) / num
    0 - (digitCount (inverse - 1) : Int)

/-- The numbers that read back as one number: between `low / den` and `high / den`, with or without
the ends. -/
structure Interval where
  /-- The lower end, in units of `1 / den`. -/
  low : Nat
  /-- The value itself. -/
  value : Nat
  /-- The upper end. -/
  high : Nat
  /-- The common denominator. -/
  den : Nat
  /-- Whether the ends read back too. -/
  closed : Bool

/-- The interval around a finite number. -/
def Interval.around (b : Binary) : Interval :=
  -- in quarters of the last place the value and both midpoints to its neighbours are whole
  let (up, down) := powerOfTwo (b.exponent - 2)
  let m := 4 * b.significand
  ⟨(m - if b.narrowBelow then 1 else 2) * up, m * up, (m + 2) * up, down, b.significand % 2 == 0⟩

/-- Whether `n * unit / unitDen` reads back. -/
def Interval.holds (i : Interval) (n unit unitDen : Nat) : Bool :=
  let x := n * unit * i.den
  if i.closed then i.low * unitDen ≤ x && x ≤ i.high * unitDen
  else i.low * unitDen < x && x < i.high * unitDen

/-- The multiple of `10 ^ scale` that reads back and is nearest to the value, if one of the two
neighbours of the value does. -/
def onGrid? (i : Interval) (scale : Int) : Option Scaled :=
  let (unit, unitDen) := powerOfTen scale
  let floor := i.value * unitDen / (i.den * unit)
  let below := i.holds floor unit unitDen && floor != 0
  let above := i.holds (floor + 1) unit unitDen
  -- the value and the middle between its neighbours, both doubled to stay whole
  let twice := 2 * i.value * unitDen
  let middle := (2 * floor + 1) * unit * i.den
  if below && above then
    if twice < middle then some ⟨floor, scale⟩
    else if middle < twice then some ⟨floor + 1, scale⟩
    -- equally near: the even digits
    else some ⟨if floor % 2 = 0 then floor else floor + 1, scale⟩
  else if below then some ⟨floor, scale⟩
  else if above then some ⟨floor + 1, scale⟩
  else none

/-- Tries ever finer grids, the coarsest first. -/
def search (i : Interval) (scale : Int) : Nat → Scaled
  | 0 => ⟨0, 0⟩
  | fuel + 1 =>
    match onGrid? i scale with
    | some s => s
    | none => search i (scale - 1) fuel

end Shortest

/-- The shortest digits of a finite number, without its sign. -/
def Binary.shortest (b : Binary) : Scaled :=
  if b.significand = 0 then ⟨0, 0⟩
  else
    let i := Shortest.Interval.around b
    -- seventeen digits always suffice, so the steps never run out
    Shortest.search i (Shortest.leadingExponent i.value i.den + 1) 20

/-! ## Notations -/

/-- The digits in positional notation; whole numbers get `.0` if `pointZero` is set. -/
def Scaled.positional (pointZero : Bool) (s : Scaled) : String :=
  let digits := Nat.toDigits 10 s.digits
  let tail := if pointZero then ".0" else ""
  if 0 ≤ s.scale then
    String.ofList (digits ++ List.replicate s.scale.toNat '0') ++ tail
  else
    -- zeros in front leave a digit before the point
    let places := (-s.scale).toNat
    let filled := List.replicate (places + 1 - digits.length) '0' ++ digits
    String.ofList (filled.take (filled.length - places)) ++ "."
      ++ String.ofList (filled.drop (filled.length - places))

/-- The digits with an exponent: one digit, a point if more follow, `e` and the exponent. -/
def Scaled.scientific (s : Scaled) : String :=
  let digits := Nat.toDigits 10 s.digits
  let exponent := s.scale + (digits.length : Int) - 1
  String.ofList (digits.take 1) ++ (if digits.length = 1 then "" else ".")
    ++ String.ofList (digits.drop 1) ++ "e" ++ toString exponent

/-- Where positional notation ends: a number is written positionally if its point stands at most
`digitsBefore` places after its first digit and at most `zerosAfter` zeros stand between them. -/
structure PositionalRange where
  /-- Most digits before the point. -/
  digitsBefore : Int
  /-- Most zeros between the point and the first digit. -/
  zerosAfter : Int

/-- The range for double precision. -/
def PositionalRange.double : PositionalRange := ⟨16, 4⟩

/-- The range for single precision. -/
def PositionalRange.single : PositionalRange := ⟨13, 5⟩

/-- The shortest digits, positionally within the range and with an exponent outside it. -/
def PositionalRange.write (range : PositionalRange) (s : Scaled) : String :=
  let point := s.scale + (Shortest.digitCount s.digits : Int)
  if point ≤ range.digitsBefore ∧ -range.zerosAfter ≤ point then s.positional true
  else s.scientific

/-- A finite number with its sign, positional or with an exponent. -/
def Binary.written (range : PositionalRange) (b : Binary) : String :=
  (if b.negative then "-" else "") ++ range.write b.shortest

/-- A number without exponent; whole numbers end in `.0`. -/
def BinaryValue.writtenPositional : BinaryValue → String
  | .nan => "nan"
  | .infinite negative => if negative then "-inf" else "inf"
  | .finite b => (if b.negative then "-" else "") ++ b.shortest.positional true

end AskLedger
