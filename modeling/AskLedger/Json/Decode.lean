import AskLedger.Decimal.Reading
import AskLedger.Json.Value

/-!
# Decoding JSON into records

Records are read from objects, whose members may come in any order and among unknown ones, or from
lists that give the fields in their fixed order. A known name given twice is a fault, as is a list
with too many items. What a missing field means is said where the field is read.

A number is scaled in double precision: its digits are kept as far as 64 bits hold them, rounded
once, and then multiplied or divided by a power of ten, which rounds once more.
-/

namespace AskLedger

/-- Why a value cannot be decoded. -/
inductive DecodeError where
  /-- A value of the wrong shape. -/
  | shape
  /-- A text that should be a date. -/
  | badDate (text : String)
  deriving DecidableEq, Repr

namespace Numeral

/-- Appends digits to a 64 bit significand while it holds them; returns it with the number of digits
taken. -/
def absorb (n : Nat) (taken : Nat) : List Char → Nat × Nat
  | [] => (n, taken)
  | c :: rest =>
    -- the first digit that does not fit ends the significand, whatever follows
    let next := n * 10 + (c.toNat - 48)
    if next ≤ Decimal.largestCount then absorb next (taken + 1) rest else (n, taken)

/-- The exponent as a number, cut off where it is larger than any that matters. -/
def exponentValue (n : Numeral) : Int :=
  match n.exponent with
  | some (negative, ds) =>
    let e := min (Layout.digitsValue ds) 2147483647
    if negative then -(e : Int) else e
  | none => 0

/-- `x * 10 ^ e` for `e` from -308 to 308, rounded once; larger powers of ten divide repeatedly.
There is no result that is infinite. -/
def scaleFloat? (x : Float) (e : Int) : Option Float :=
  if 0 ≤ e then
    if x == 0.0 then some x
    else if 308 < e then none
    else
      let y := x * Float.ofScientific 1 false e.toNat
      if y == 1.0 / 0.0 then none else some y
  -- one division reaches no further than the largest power of ten
  else if e < -1000 then some 0.0
  else if e < -616 then some (x / 1e308 / 1e308 / Float.ofScientific 1 false (-e - 616).toNat)
  else if e < -308 then some (x / 1e308 / Float.ofScientific 1 false (-e - 308).toNat)
  else some (x / Float.ofScientific 1 false (-e).toNat)

/-- The double precision number that a numeral stands for; none if it is too large. -/
def toFloat? (n : Numeral) : Option Float :=
  let (whole, taken) := absorb 0 0 n.whole
  let dropped := n.whole.length - taken
  let (digits, places) := absorb whole 0 n.fraction
  -- dropped digits scale up, those behind the point scale down
  let scale : Int := (dropped : Int) - places + n.exponentValue
  let magnitude :=
    if n.fraction.isEmpty && n.exponent.isNone && dropped == 0 then
      some (Float.ofScientific digits false 0)
    else scaleFloat? (Float.ofScientific digits false 0) scale
  magnitude.map fun x => if n.negative then -x else x

/-- The integer that a numeral stands for, if it is written without point and exponent. -/
def toInt? (n : Numeral) : Option Int :=
  if n.fraction.isEmpty && n.exponent.isNone then
    let m := Layout.digitsValue n.whole
    some (if n.negative then -(m : Int) else m)
  else none

end Numeral

namespace Json

/-- The value of the member with a name; of several, the last. -/
def member? (v : Json) (name : String) : Option Json :=
  match v with
  | object members => (members.reverse.find? fun m => m.1 == name).map (·.2)
  | _ => none

/-- The fields of a record, in their fixed order. -/
structure Slots where
  /-- Whether they were given by position. -/
  positional : Bool
  /-- The values; none where a field is missing. -/
  values : List (Option Json)

/-- Looks up one field among members. -/
def slot (members : List (String × Json)) (name : String) : Except DecodeError (Option Json) :=
  match members.filter fun m => m.1 == name with
  | [] => .ok none
  | [m] => .ok (some m.2)
  | _ => .error .shape

/-- The values of the fields with these names, from an object or from a list. -/
def slots (names : List String) : Json → Except DecodeError Slots
  | object members => do
    let values ← names.mapM (slot members)
    return ⟨false, values⟩
  | array items =>
    if items.length ≤ names.length then
      .ok ⟨true, items.map some ++ List.replicate (names.length - items.length) none⟩
    else .error .shape
  | _ => .error .shape

/-- The value of a field by its place in the fixed order. -/
def Slots.at (s : Slots) (i : Nat) : Option Json := (s.values[i]?).join

/-- A field that has to be there. -/
def Slots.required {α : Type} (s : Slots) (i : Nat) (decode : Json → Except DecodeError α) :
    Except DecodeError α :=
  match s.at i with
  | some v => decode v
  | none => .error .shape

/-- A field with a standard value for when it is missing. -/
def Slots.defaulted {α : Type} (s : Slots) (i : Nat) (standard : α)
    (decode : Json → Except DecodeError α) : Except DecodeError α :=
  match s.at i with
  | some v => decode v
  | none => .ok standard

/-- An optional field that may be missing from an object but not from a list. -/
def Slots.nullable {α : Type} (s : Slots) (i : Nat)
    (decode : Json → Except DecodeError (Option α)) : Except DecodeError (Option α) :=
  match s.at i with
  | some v => decode v
  | none => if s.positional then .error .shape else .ok none

/-- A text. -/
def asText : Json → Except DecodeError String
  | text s => .ok s
  | _ => .error .shape

/-- A truth value. -/
def asBool : Json → Except DecodeError Bool
  | bool b => .ok b
  | _ => .error .shape

/-- A double precision number. -/
def asFloat : Json → Except DecodeError Float
  | number n =>
    match n.toFloat? with
    | some x => .ok x
    | none => .error .shape
  | _ => .error .shape

/-- A list. -/
def asList {α : Type} (decode : Json → Except DecodeError α) : Json → Except DecodeError (List α)
  | array items => items.mapM decode
  | _ => .error .shape

/-- A value or `null`. -/
def orNull {α : Type} (decode : Json → Except DecodeError α) : Json → Except DecodeError (Option α)
  | null => .ok none
  | v => (decode v).map some

/-- One of several words: given as a text, or as an object whose only member has that name and the
value `null`. -/
def asWord {α : Type} (meaning : String → Option α) : Json → Except DecodeError α
  | text s =>
    match meaning s with
    | some a => .ok a
    | none => .error .shape
  | object [(name, null)] =>
    match meaning name with
    | some a => .ok a
    | none => .error .shape
  | _ => .error .shape

end Json

end AskLedger
