import AskLedger.Calendar.Layout

/-!
# Reading decimal numbers

A decimal number is an optional sign and either `inf`, `infinity` or `nan` in any case, or digits
with an optional point and an optional exponent, where at least one digit stands before or after the
point. It is rounded correctly to double precision. Only ASCII digits count.
-/

namespace AskLedger

namespace Decimal

/-- The double precision number nearest to `digits * 10 ^ exponent`. Far outside the range of double
precision the answer does not depend on the exponent, and no power of ten is computed. -/
def nearest (digits : Nat) (exponent : Int) : Float :=
  let size := (Nat.toDigits 10 digits).length
  if digits = 0 then 0.0
  else if 400 < exponent + size then 1.0 / 0.0
  else if exponent + size < -400 then 0.0
  else Float.ofScientific digits (exponent < 0) exponent.natAbs

/-- An exponent with its mark: `e` or `E`, an optional sign and at least one digit. The whole text
has to be used up; no text is exponent zero. -/
def exponent? : List Char → Option Int
  | [] => some 0
  | c :: rest =>
    if c = 'e' ∨ c = 'E' then
      let (negative, ds) := match rest with
        | '-' :: ds => (true, ds)
        | '+' :: ds => (false, ds)
        | ds => (false, ds)
      if ds.isEmpty || !ds.all Char.isDigit then none
      else
        let n := Layout.digitsValue ds
        some (if negative then -(n : Int) else n)
    else none

/-- Digits with an optional point and an optional exponent. -/
def unsigned? (s : List Char) : Option Float :=
  let whole := s.takeWhile Char.isDigit
  let (fraction, rest) := match s.dropWhile Char.isDigit with
    | '.' :: rest => (rest.takeWhile Char.isDigit, rest.dropWhile Char.isDigit)
    | rest => ([], rest)
  if whole.isEmpty && fraction.isEmpty then none
  else match exponent? rest with
    | some e => some (nearest (Layout.digitsValue (whole ++ fraction)) (e - fraction.length))
    | none => none

/-- The names of numbers that have no digits. -/
def named? (s : List Char) : Option Float :=
  let name := String.ofList (s.map Char.toLower)
  if name = "inf" ∨ name = "infinity" then some (1.0 / 0.0)
  else if name = "nan" then some (0.0 / 0.0)
  else none

/-- Reads a text that is a decimal number. -/
def read? (s : List Char) : Option Float :=
  let (negative, body) := match s with
    | '-' :: rest => (true, rest)
    | '+' :: rest => (false, rest)
    | _ => (false, s)
  ((named? body).or (unsigned? body)).map fun x => if negative then -x else x

/-- Reads a text of ASCII digits as a natural number up to a limit. -/
def natUpTo? (limit : Nat) (s : List Char) : Option Nat :=
  if s.isEmpty || !s.all Char.isDigit then none
  else
    let n := Layout.digitsValue s
    if n ≤ limit then some n else none

/-- The largest count, `2 ^ 64 - 1`. -/
def largestCount : Nat := 18446744073709551615

end Decimal

end AskLedger
