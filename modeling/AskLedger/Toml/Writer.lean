import AskLedger.Decimal.Shortest
import AskLedger.Toml.Text

/-!
# Writing TOML

A document of sections, each a header and lines of a name and a value, with an empty line between
two of them.
-/

namespace AskLedger.Toml

/-- A truth value. -/
def writtenBool (b : Bool) : String := if b then "true" else "false"

/-- A count. -/
def writtenCount (n : Nat) : String := toString n

/-- A floating point number in its shortest digits, without exponent. -/
def writtenFloat (x : Float) : String := (doubleValue x).writtenPositional

/-- A section: its name, and the names in it with their values as they are written. -/
structure WrittenSection where
  /-- The name of the table. -/
  name : String
  /-- The lines of the table. -/
  lines : List (String × String)

/-- The text of a section. -/
def WrittenSection.text (s : WrittenSection) : String :=
  "[" ++ s.name ++ "]\n" ++ String.join (s.lines.map fun (name, v) => name ++ " = " ++ v ++ "\n")

/-- The text of a document. -/
def writtenDocument (sections : List WrittenSection) : String :=
  Text.joinWith "\n" (sections.map WrittenSection.text)

end AskLedger.Toml
