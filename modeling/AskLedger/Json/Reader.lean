import AskLedger.Json.Value
import AskLedger.Text.Hex

/-!
# Reading JSON

A strict reader: blanks are the space, the tab and the two line ends; numbers have no superfluous
zero in front and digits around the point; control characters have to be escaped; nothing follows
the value. Escapes name units of UTF-16, so two of them may form one character.
-/

namespace AskLedger.Json

/-- The blanks of the format. -/
def isSpace (c : Char) : Bool :=
  c == ' ' || c == '\t' || c == '\n' || c == '\r'

/-- The text without the blanks it starts with. -/
def skipSpace (s : List Char) : List Char :=
  s.dropWhile isSpace

/-! ## Texts -/

/-- A piece of a text: a character as it stands or an escaped unit of UTF-16. -/
inductive Piece where
  /-- A character that stands for itself or has an escape of its own. -/
  | plain (c : Char)
  /-- A unit given by four hexadecimal digits. -/
  | unit (n : Nat)
  deriving DecidableEq, Repr

/-- The character of an escape letter. -/
def escaped? : Char → Option Char
  | '"' => some '"'
  | '\\' => some '\\'
  | '/' => some '/'
  | 'b' => some '\x08'
  | 'f' => some '\x0c'
  | 'n' => some '\n'
  | 'r' => some '\r'
  | 't' => some '\t'
  | _ => none

/-- The pieces of a text up to its closing quote, last one first, and what follows the quote. -/
def piecesFrom (found : List Piece) : List Char → Option (List Piece × List Char)
  | [] => none
  | '"' :: rest => some (found, rest)
  | '\\' :: 'u' :: a :: b :: c :: d :: rest =>
    match Text.hexNumber? [a, b, c, d] with
    | some n => piecesFrom (.unit n :: found) rest
    | none => none
  | '\\' :: e :: rest =>
    match escaped? e with
    | some c => piecesFrom (.plain c :: found) rest
    | none => none
  | c :: rest =>
    if c.toNat < 32 then none else piecesFrom (.plain c :: found) rest

/-- The characters of the pieces; none if a unit is half of a pair whose other half is missing. -/
def joinPieces? : List Piece → Option (List Char)
  | [] => some []
  | .plain c :: rest => (joinPieces? rest).map (c :: ·)
  | .unit high :: .unit low :: rest =>
    -- the first half of a pair counts only together with the second one
    if 0xD800 ≤ high ∧ high < 0xDC00 then
      if 0xDC00 ≤ low ∧ low < 0xE000 then
        (joinPieces? rest).map
          (Char.ofNat (0x10000 + (high - 0xD800) * 0x400 + (low - 0xDC00)) :: ·)
      else none
    else if 0xDC00 ≤ high ∧ high < 0xE000 then none
    else (joinPieces? (.unit low :: rest)).map (Char.ofNat high :: ·)
  | .unit n :: rest =>
    if 0xD800 ≤ n ∧ n < 0xE000 then none
    else (joinPieces? rest).map (Char.ofNat n :: ·)

/-- A text whose opening quote has been read: its characters, if it stands for a text, and what
follows it. -/
def readText? (s : List Char) : Option (Option String × List Char) :=
  (piecesFrom [] s).map fun (pieces, rest) =>
    ((joinPieces? pieces.reverse).map String.ofList, rest)

/-! ## Numbers -/

/-- The digits after a point, if there is one; a point needs a digit. -/
def readFraction? : List Char → Option (List Char × List Char)
  | '.' :: rest =>
    let ds := rest.takeWhile Char.isDigit
    if ds.isEmpty then none else some (ds, rest.dropWhile Char.isDigit)
  | s => some ([], s)

/-- The exponent, if there is one; an exponent mark needs a digit. -/
def readExponent? : List Char → Option (Option (Bool × List Char) × List Char)
  | c :: rest =>
    if c = 'e' ∨ c = 'E' then
      let (negative, s) := match rest with
        | '-' :: s => (true, s)
        | '+' :: s => (false, s)
        | s => (false, s)
      let ds := s.takeWhile Char.isDigit
      if ds.isEmpty then none else some (some (negative, ds), s.dropWhile Char.isDigit)
    else some (none, c :: rest)
  | [] => some (none, [])

/-- A number and what follows it. -/
def readNumber? (s : List Char) : Option (Numeral × List Char) :=
  let (negative, body) := match s with
    | '-' :: rest => (true, rest)
    | _ => (false, s)
  let whole := body.takeWhile Char.isDigit
  -- a zero in front stands alone
  if whole.isEmpty || (whole.head? == some '0' && whole.length != 1) then none
  else match readFraction? (body.dropWhile Char.isDigit) with
    | none => none
    | some (fraction, rest) =>
      match readExponent? rest with
      | none => none
      | some (exponent, rest) => some (⟨negative, whole, fraction, exponent⟩, rest)

/-! ## Values -/

/-- The rest of a text after a word it has to start with. -/
def afterWord? : List Char → List Char → Option (List Char)
  | [], s => some s
  | c :: word, x :: s => if c = x then afterWord? word s else none
  | _ :: _, [] => none

/-- The members of an object, broken if one of the names stands for no text. -/
def objectOf (members : List (Option String × Json)) : Json :=
  match members.mapM fun (name, v) => name.map fun n => (n, v) with
  | some ms => .object ms
  | none => .broken

mutual

/-- A value and what follows it. The first argument bounds the number of values and separators. -/
def readValue? : Nat → List Char → Option (Json × List Char)
  | 0, _ => none
  | fuel + 1, s =>
    match skipSpace s with
    | 'n' :: rest => (afterWord? ['u', 'l', 'l'] rest).map fun rest => (.null, rest)
    | 't' :: rest => (afterWord? ['r', 'u', 'e'] rest).map fun rest => (.bool true, rest)
    | 'f' :: rest => (afterWord? ['a', 'l', 's', 'e'] rest).map fun rest => (.bool false, rest)
    | '"' :: rest =>
      (readText? rest).map fun (t, rest) => (match t with | some t => .text t | none => .broken, rest)
    | '[' :: rest =>
      match skipSpace rest with
      | ']' :: rest => some (.array [], rest)
      | _ => (readItems? fuel [] rest).map fun (items, rest) => (.array items, rest)
    | '\x7b' :: rest =>
      match skipSpace rest with
      | '\x7d' :: rest => some (.object [], rest)
      | _ => (readMembers? fuel [] rest).map fun (members, rest) => (objectOf members, rest)
    | s => (readNumber? s).map fun (n, rest) => (.number n, rest)

/-- The remaining items of a list, at least one; `found` holds the earlier ones, last first. -/
def readItems? : Nat → List Json → List Char → Option (List Json × List Char)
  | 0, _, _ => none
  | fuel + 1, found, s =>
    match readValue? fuel s with
    | none => none
    | some (v, rest) =>
      match skipSpace rest with
      | ',' :: rest => readItems? fuel (v :: found) rest
      | ']' :: rest => some ((v :: found).reverse, rest)
      | _ => none

/-- The remaining members of an object, at least one; `found` holds the earlier ones, last first. -/
def readMembers? : Nat → List (Option String × Json) → List Char →
    Option (List (Option String × Json) × List Char)
  | 0, _, _ => none
  | fuel + 1, found, s =>
    match skipSpace s with
    | '"' :: rest =>
      match readText? rest with
      | none => none
      | some (name, rest) =>
        match skipSpace rest with
        | ':' :: rest =>
          match readValue? fuel rest with
          | none => none
          | some (v, rest) =>
            match skipSpace rest with
            | ',' :: rest => readMembers? fuel ((name, v) :: found) rest
            | '\x7d' :: rest => some (((name, v) :: found).reverse, rest)
            | _ => none
        | _ => none
    | _ => none

end

/-- Reads a text that is one value. -/
def read? (s : List Char) : Option Json :=
  match readValue? (s.length + 1) s with
  | some (v, rest) => if (skipSpace rest).isEmpty then some v else none
  | none => none

end AskLedger.Json
