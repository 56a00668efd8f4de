import AskLedger.Decimal.Shortest

/-!
# JSON values

Values of the JSON data format. Numbers keep their digits as they are written, so that a reader of a
number decides what it stands for; objects keep their members in order, repeated names included.

A value that is well formed but stands for no text, because an escape in it names half of a
surrogate pair, is `broken`: it is good only where values are skipped.
-/

namespace AskLedger

/-- A number as it is written. -/
structure Numeral where
  /-- Whether a minus stands in front. -/
  negative : Bool
  /-- The digits before the point. -/
  whole : List Char
  /-- The digits after the point; empty if there is no point. -/
  fraction : List Char := []
  /-- The sign and the digits of the exponent, if there is one. -/
  exponent : Option (Bool × List Char) := none
  deriving DecidableEq, Repr

/-- A value of the data format. -/
inductive Json where
  /-- `null`. -/
  | null
  /-- `true` or `false`. -/
  | bool (b : Bool)
  /-- A number. -/
  | number (n : Numeral)
  /-- A text. -/
  | text (s : String)
  /-- A list of values. -/
  | array (items : List Json)
  /-- Named values, in order. -/
  | object (members : List (String × Json))
  /-- A well-formed value that stands for nothing. -/
  | broken

namespace Numeral

/-- An integer as it is written. -/
def ofInt (n : Int) : Numeral :=
  ⟨n < 0, Nat.toDigits 10 n.natAbs, [], none⟩

/-- The digits of a number, divided at the point and at the exponent mark. -/
def ofWritten (negative : Bool) (s : List Char) : Numeral :=
  let mantissa := s.takeWhile (· != 'e')
  let exponent := match s.dropWhile (· != 'e') with
    | _ :: '-' :: ds => some (true, ds)
    | _ :: ds => some (false, ds)
    | [] => none
  ⟨negative, mantissa.takeWhile (· != '.'), (mantissa.dropWhile (· != '.')).drop 1, exponent⟩

/-- The number as text. -/
def written (n : Numeral) : String :=
  (if n.negative then "-" else "") ++ String.ofList n.whole
    ++ (if n.fraction.isEmpty then "" else "." ++ String.ofList n.fraction)
    ++ match n.exponent with
      | some (negative, ds) => "e" ++ (if negative then "-" else "") ++ String.ofList ds
      | none => ""

/-- A finite number in its shortest digits; there is no numeral for the others. -/
def ofBinary? (range : PositionalRange) : BinaryValue → Option Numeral
  | .finite b => some (ofWritten b.negative (range.write b.shortest).toList)
  | _ => none

end Numeral

namespace Json

/-- A count. -/
def ofNat (n : Nat) : Json := .number (Numeral.ofInt n)

/-- An integer. -/
def ofInt (n : Int) : Json := .number (Numeral.ofInt n)

/-- A double precision number; `null` if it is not finite. -/
def ofFloat (x : Float) : Json :=
  match Numeral.ofBinary? .double (doubleValue x) with
  | some n => .number n
  | none => .null

/-- A single precision number; `null` if it is not finite. -/
def ofFloat32 (x : Float32) : Json :=
  match Numeral.ofBinary? .single (singleValue x) with
  | some n => .number n
  | none => .null

/-- A text or `null`. -/
def ofText? : Option String → Json
  | some s => .text s
  | none => .null

end Json

end AskLedger
