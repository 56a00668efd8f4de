import AskLedger.Text.Find
import AskLedger.Text.Hex

/-!
# Texts in TOML

A text stands between quotes or apostrophes, one of them on each side or three. Between quotes a
backslash starts an escape; between apostrophes every character stands for itself. Texts between
three of them may have several lines; a line end right behind the opening ones does not count, and
between quotes a backslash at the end of a line removes all white space behind it.

A text is written in the first of these forms that needs no escape: between quotes, between
apostrophes, between three quotes, between three apostrophes. If none does, it is written with
escapes, between three quotes if it has several lines.
-/

namespace AskLedger.Toml

/-- The blanks within a line. -/
def isSpace (c : Char) : Bool := c == ' ' || c == '\t'

/-- Characters that may stand in a line. -/
def isPlain (c : Char) : Bool :=
  c == '\t' || (32 ≤ c.toNat && c.toNat != 127)

/-- What follows a line end, if there is one in front. -/
def afterLineEnd? : List Char → Option (List Char)
  | '\n' :: rest => some rest
  | '\r' :: '\n' :: rest => some rest
  | _ => none

/-- The text without the blanks and line ends it starts with. The first argument bounds their
number. -/
def skipLines : Nat → List Char → List Char
  | 0, s => s
  | fuel + 1, s =>
    match afterLineEnd? s with
    | some rest => skipLines fuel rest
    | none =>
      match s with
      | c :: rest => if isSpace c then skipLines fuel rest else s
      | [] => []

/-! ## Reading -/

/-- A piece of a text. -/
inductive Piece where
  /-- Characters that belong to the text. -/
  | more (cs : List Char)
  /-- The last characters of the text and its closing mark. -/
  | close (cs : List Char)
  deriving DecidableEq, Repr

/-- The character with a code point, if there is one. -/
def character? (n : Nat) : Option Char :=
  if h : n.isValidChar then some (Char.ofNatAux n h) else none

/-- The character of hexadecimal digits in front, and what follows them. -/
def readCodePoint? (digits : Nat) (s : List Char) : Option (Piece × List Char) :=
  if s.length < digits then none
  else
    match (Text.hexNumber? (s.take digits)).bind character? with
    | some c => some (.more [c], s.drop digits)
    | none => none

/-- What an escape stands for, behind its backslash, and what follows it. -/
def readEscape? : List Char → Option (Piece × List Char)
  | 'b' :: rest => some (.more ['\x08'], rest)
  | 't' :: rest => some (.more ['\t'], rest)
  | 'n' :: rest => some (.more ['\n'], rest)
  | 'f' :: rest => some (.more ['\x0c'], rest)
  | 'r' :: rest => some (.more ['\r'], rest)
  | '"' :: rest => some (.more ['"'], rest)
  | '\\' :: rest => some (.more ['\\'], rest)
  | 'u' :: rest => readCodePoint? 4 rest
  | 'U' :: rest => readCodePoint? 8 rest
  | _ => none

/-- A piece of a text between quotes. -/
def quotedPiece? : List Char → Option (Piece × List Char)
  | '"' :: rest => some (.close [], rest)
  | '\\' :: rest => readEscape? rest
  | c :: rest => if isPlain c then some (.more [c], rest) else none
  | [] => none

/-- A piece of a text between apostrophes. -/
def literalPiece? : List Char → Option (Piece × List Char)
  | '\'' :: rest => some (.close [], rest)
  | c :: rest => if isPlain c then some (.more [c], rest) else none
  | [] => none

/-- The closing of a text between three marks, the marks themselves having been read: up to two more
of them belong to the text. -/
def closing? (mark : Char) (rest : List Char) : Option (Piece × List Char) :=
  let more := (rest.takeWhile (· == mark)).length
  if more ≤ 2 then some (.close (List.replicate more mark), rest.drop more) else none

/-- A line end within a text, or a character of a line. -/
def linePiece? (s : List Char) : Option (Piece × List Char) :=
  match afterLineEnd? s with
  | some rest => some (.more ['\n'], rest)
  | none =>
    match s with
    | c :: rest => if isPlain c then some (.more [c], rest) else none
    | [] => none

/-- A piece of a text between three quotes. -/
def quotedLinesPiece? : List Char → Option (Piece × List Char)
  | '"' :: '"' :: '"' :: rest => closing? '"' rest
  | '\\' :: rest =>
    -- blanks may stand between the backslash and the end of its line
    match afterLineEnd? (rest.dropWhile isSpace) with
    | some behind => some (.more [], skipLines behind.length behind)
    | none => readEscape? rest
  | s => linePiece? s

/-- A piece of a text between three apostrophes. -/
def literalLinesPiece? : List Char → Option (Piece × List Char)
  | '\'' :: '\'' :: '\'' :: rest => closing? '\'' rest
  | s => linePiece? s

/-- Reads pieces up to the closing mark; `found` holds the characters so far, last first. The first
argument bounds the number of pieces. -/
def readPieces? (piece? : List Char → Option (Piece × List Char)) :
    Nat → List Char → List Char → Option (String × List Char)
  | 0, _, _ => none
  | fuel + 1, found, s =>
    match piece? s with
    | some (.more cs, rest) => readPieces? piece? fuel (cs.reverse ++ found) rest
    | some (.close cs, rest) => some (String.ofList (found.reverse ++ cs), rest)
    | none => none

/-- Reads the rest of a text behind its opening marks. -/
def readRest? (piece? : List Char → Option (Piece × List Char)) (s : List Char) :
    Option (String × List Char) :=
  readPieces? piece? (s.length + 1) [] s

/-- The text behind the opening marks, without a line end in front. -/
def withoutFirstLineEnd (s : List Char) : List Char := (afterLineEnd? s).getD s

/-- Reads a text on a single line and what follows it. -/
def readLineText? : List Char → Option (String × List Char)
  | '"' :: rest => readRest? quotedPiece? rest
  | '\'' :: rest => readRest? literalPiece? rest
  | _ => none

/-- Reads a text in any form and what follows it. -/
def readText? : List Char → Option (String × List Char)
  | '"' :: '"' :: '"' :: rest => readRest? quotedLinesPiece? (withoutFirstLineEnd rest)
  | '\'' :: '\'' :: '\'' :: rest => readRest? literalLinesPiece? (withoutFirstLineEnd rest)
  | s => readLineText? s

/-! ## Writing -/

/-- The length of the longest run of `mark`, `run` marks standing directly in front. -/
def longestRunFrom (mark : Char) (run : Nat) : List Char → Nat
  | [] => run
  | c :: rest =>
    if c = mark then longestRunFrom mark (run + 1) rest
    else max run (longestRunFrom mark 0 rest)

/-- The length of the longest run of a character. -/
def longestRun (mark : Char) (s : List Char) : Nat := longestRunFrom mark 0 s

/-- Whether a character can be written only as an escape. -/
def needsEscape (c : Char) : Bool :=
  (c.toNat < 32 || c.toNat == 127) && c != '\t' && c != '\n'

/-- A character within quotes; `plainQuotes` quotes may still stand for themselves. -/
def escapedChar (lines : Bool) (plainQuotes : Nat) (c : Char) : List Char :=
  if c = '"' then if plainQuotes = 0 then ['\\', '"'] else ['"']
  else if c = '\x08' then ['\\', 'b']
  else if c = '\t' then ['\\', 't']
  else if c = '\n' then if lines then ['\n'] else ['\\', 'n']
  else if c = '\x0c' then ['\\', 'f']
  else if c = '\r' then ['\\', 'r']
  else if c = '\\' then ['\\', '\\']
  else if needsEscape c then
    ['\\', 'u', '0', '0', Text.capitalHexDigit (c.toNat / 16), Text.capitalHexDigit (c.toNat % 16)]
  else [c]

/-- Characters within quotes. Between three quotes up to two in a row stand for themselves;
`plainQuotes` of them may still do so here. -/
def escapedFrom (lines : Bool) (plainQuotes : Nat) : List Char → List Char
  | [] => []
  | c :: rest =>
    -- any other character, and an escaped quote, lets the count start anew
    let allowed := if lines then 2 else 0
    let left := if c = '"' then (if plainQuotes = 0 then allowed else plainQuotes - 1) else allowed
    escapedChar lines plainQuotes c ++ escapedFrom lines left rest

/-- A text between marks; one that has several lines starts on a new one. -/
def between (mark : String) (s body : List Char) : String :=
  mark ++ (if s.contains '\n' then "\n" else "") ++ String.ofList body ++ mark

/-- A text as it is written. -/
def writtenText (text : String) : String :=
  let s := text.toList
  let escapes := s.any needsEscape
  let lines := s.contains '\n'
  let quotes := longestRun '"' s
  let apostrophes := longestRun '\'' s
  -- the forms in the order of preference; a tab does not decide between them
  if !escapes && !s.contains '\\' && quotes = 0 && !lines then
    "\"" ++ String.ofList (escapedFrom false 0 s) ++ "\""
  else if !escapes && apostrophes = 0 && !lines then "'" ++ text ++ "'"
  else if !escapes && !s.contains '\\' && quotes ≤ 2 then
    between "\"\"\"" s (escapedFrom true 2 s)
  else if !escapes && apostrophes ≤ 2 then between "'''" s s
  else if lines then between "\"\"\"" s (escapedFrom true 2 s)
  else "\"" ++ String.ofList (escapedFrom false 0 s) ++ "\""

end AskLedger.Toml
