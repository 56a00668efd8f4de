/-!
# TOML values

Values of the TOML data format. A date or a time is known to be one, but what it says is not kept.

A record is decoded from a table by the names of its fields or from a list by their order; fields
that are not given keep a standard value, and unknown ones are ignored.
-/

namespace AskLedger

/-- A value of the data format. -/
inductive Toml where
  /-- A text. -/
  | text (s : String)
  /-- An integer of 64 bits. -/
  | integer (n : Int)
  /-- A floating point number. -/
  | float (x : Float)
  /-- `true` or `false`. -/
  | bool (b : Bool)
  /-- A date, a time or both. -/
  | dateTime
  /-- A list of values. -/
  | array (items : List Toml)
  /-- Named values; no name occurs twice. -/
  | table (members : List (String × Toml))

namespace Toml

/-- The least integer of 64 bits. -/
def leastInteger : Int := -9223372036854775808

/-- The largest integer of 64 bits. -/
def largestInteger : Int := 9223372036854775807

/-- The values of the fields with these names; none if the value is no record. A date is a record
without any of them. -/
def fields? (names : List String) : Toml → Option (List (Option Toml))
  | table members => some (names.map fun name => (members.find? fun m => m.1 == name).map (·.2))
  | array items => some ((List.range names.length).map fun i => items[i]?)
  | dateTime => some (names.map fun _ => none)
  | _ => none

/-- A field with a standard value for when it is not given. -/
def fieldOr {α : Type} (fields : List (Option Toml)) (i : Nat) (standard : α)
    (decode : Toml → Option α) : Option α :=
  match fields[i]?.join with
  | some v => decode v
  | none => some standard

/-- A text. -/
def asText? : Toml → Option String
  | text s => some s
  | _ => none

/-- A truth value. -/
def asBool? : Toml → Option Bool
  | bool b => some b
  | _ => none

/-- A count. -/
def asCount? : Toml → Option Nat
  | integer n => if 0 ≤ n then some n.toNat else none
  | _ => none

/-- A single precision number, given as a double precision number or as an integer. -/
def asFloat32? : Toml → Option Float32
  | float x => some x.toFloat32
  | integer n => some (if n < 0 then -(UInt64.ofNat n.natAbs).toFloat32
      else (UInt64.ofNat n.natAbs).toFloat32)
  | _ => none

/-- Whether a value holds nothing. -/
def isEmpty : Toml → Bool
  | table members => members.isEmpty
  | array items => items.isEmpty
  | _ => false

/-- One of several words: given as a text, or as a table whose only member has that name and holds
nothing. -/
def asWord? {α : Type} (meaning : String → Option α) : Toml → Option α
  | text s => meaning s
  | table [(name, v)] => if v.isEmpty then meaning name else none
  | _ => none

end Toml

end AskLedger
