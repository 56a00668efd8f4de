import AskLedger.Json.Value
import AskLedger.Text.Find
import AskLedger.Text.Hex

/-!
# Writing JSON

Values are written without any space, or one item a line with two spaces for each level. In a text
the quote, the backslash and the control characters are escaped, the latter by a letter where there
is one and by four hexadecimal digits otherwise; all other characters stand for themselves.
-/

namespace AskLedger.Json

/-- A character of a text, escaped if it has to be. -/
def writtenChar (c : Char) : List Char :=
  if c = '"' then ['\\', '"']
  else if c = '\\' then ['\\', '\\']
  else if c = '\x08' then ['\\', 'b']
  else if c = '\x0c' then ['\\', 'f']
  else if c = '\n' then ['\\', 'n']
  else if c = '\r' then ['\\', 'r']
  else if c = '\t' then ['\\', 't']
  else if c.toNat < 32 then
    ['\\', 'u', '0', '0', Text.hexDigit (c.toNat / 16), Text.hexDigit (c.toNat % 16)]
  else [c]

/-- A text between quotes. -/
def writtenText (s : String) : String :=
  "\"" ++ String.ofList (s.toList.flatMap writtenChar) ++ "\""

mutual

/-- The value without any space. -/
def compact : Json → String
  | null => "null"
  | bool b => if b then "true" else "false"
  | number n => n.written
  | text s => writtenText s
  | array items => "[" ++ Text.joinWith "," (compactItems items) ++ "]"
  | object members => "\x7b" ++ Text.joinWith "," (compactMembers members) ++ "\x7d"
  | broken => "null"

/-- The items of a list without any space. -/
def compactItems : List Json → List String
  | [] => []
  | v :: vs => compact v :: compactItems vs

/-- The members of an object without any space. -/
def compactMembers : List (String × Json) → List String
  | [] => []
  | (name, v) :: ms => (writtenText name ++ ":" ++ compact v) :: compactMembers ms

end

/-- A new line at a level. -/
def newLine (level : Nat) : String :=
  "\n" ++ String.ofList (List.replicate (2 * level) ' ')

/-- Items between brackets, one a line; nothing between the brackets of an empty list. -/
def bracketed (opening closing : String) (level : Nat) (items : List String) : String :=
  if items.isEmpty then opening ++ closing
  else opening ++ newLine (level + 1) ++ Text.joinWith ("," ++ newLine (level + 1)) items
    ++ newLine level ++ closing

mutual

/-- The value with one item a line, inside so many levels. -/
def prettyAt (level : Nat) : Json → String
  | null => "null"
  | bool b => if b then "true" else "false"
  | number n => n.written
  | text s => writtenText s
  | array items => bracketed "[" "]" level (prettyItems (level + 1) items)
  | object members => bracketed "\x7b" "\x7d" level (prettyMembers (level + 1) members)
  | broken => "null"

/-- The items of a list, each with one item a line. -/
def prettyItems (level : Nat) : List Json → List String
  | [] => []
  | v :: vs => prettyAt level v :: prettyItems level vs

/-- The members of an object, each with one item a line. -/
def prettyMembers (level : Nat) : List (String × Json) → List String
  | [] => []
  | (name, v) :: ms => (writtenText name ++ ": " ++ prettyAt level v) :: prettyMembers level ms

end

/-- The value with one item a line. -/
def pretty (v : Json) : String := prettyAt 0 v

end AskLedger.Json
