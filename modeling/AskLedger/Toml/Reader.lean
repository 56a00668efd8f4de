import AskLedger.Toml.Document
import AskLedger.Toml.Scalar
import AskLedger.Toml.Text

/-!
# Reading TOML

A document is read line by line. A line is empty, states a table or another item of a list of
tables, or gives a value under a key; a comment may end any of them. A key is a name or several
names with points between them. Lists may go over several lines and have comments in them, tables in
braces may not. Lists and tables in braces are nested to a limited depth, and keys have a limited
number of names.
-/

namespace AskLedger.Toml

/-- The most names in a key. -/
def mostNames : Nat := 79

/-- The most lists and tables in braces around a value, itself included. -/
def mostLevels : Nat := 79

/-- The text without the blanks it starts with. -/
def skipSpace (s : List Char) : List Char := s.dropWhile isSpace

/-- The text without the blanks, line ends and comments it starts with, or those behind a comment
that has been started. -/
def skipGap (inComment : Bool) : List Char → List Char
  | [] => []
  | '\n' :: rest => skipGap false rest
  | '\r' :: '\n' :: rest => skipGap false rest
  | c :: rest =>
    if inComment then if isPlain c then skipGap true rest else c :: rest
    else if c = '#' then skipGap true rest
    else if isSpace c then skipGap false rest
    else c :: rest

/-- The text behind the rest of a line, in which only blanks and a comment may stand. -/
def afterLine? (s : List Char) : Option (List Char) :=
  let rest := match skipSpace s with
    | '#' :: comment => comment.dropWhile isPlain
    | rest => rest
  if rest.isEmpty then some [] else afterLineEnd? rest

/-! ## Keys -/

/-- A key: the names on its way and the last one. -/
structure Key where
  /-- The names on the way. -/
  path : List String
  /-- The last name. -/
  name : String
  deriving DecidableEq, Repr

/-- Characters of a name without marks around it. -/
def isNameChar (c : Char) : Bool := c.isAlphanum || c == '-' || c == '_'

/-- A name and what follows it. -/
def readName? (s : List Char) : Option (String × List Char) :=
  let word := s.takeWhile isNameChar
  if word.isEmpty then readLineText? s
  else some (String.ofList word, s.dropWhile isNameChar)

/-- The names of a key with blanks around them, and what follows; `path` holds the earlier ones,
last first. The first argument bounds the number of names. -/
def readNames? : Nat → List String → List Char → Option (Key × List Char)
  | 0, _, _ => none
  | most + 1, path, s =>
    match readName? (skipSpace s) with
    | none => none
    | some (name, rest) =>
      match skipSpace rest with
      | '.' :: rest => readNames? most (name :: path) rest
      | rest => some (⟨path.reverse, name⟩, rest)

/-- A key and what follows it. -/
def readKey? (s : List Char) : Option (Key × List Char) := readNames? mostNames [] s

/-! ## Values -/

mutual

/-- A value and what follows it, where so many more lists and tables may be opened. The first
argument bounds the number of steps. -/
def readValue? : Nat → Nat → List Char → Option (Toml × List Char)
  | 0, _, _ => none
  | fuel + 1, levels, s =>
    match s with
    | '[' :: rest =>
      -- even an empty list counts as a level
      match levels, skipGap false rest with
      | 0, _ => none
      | _, ']' :: rest => some (.array [], rest)
      | levels + 1, rest => readItems? fuel levels [] rest
    | '\x7b' :: rest =>
      match levels, skipSpace rest with
      | 0, _ => none
      | _, '\x7d' :: rest => some (.table [], rest)
      | levels + 1, rest => readPairs? fuel levels [] rest
    | _ => (readText? s).elim (readScalar? s) fun (t, rest) => some (.text t, rest)

/-- The remaining items of a list, at least one; `found` holds the earlier ones, last first. -/
def readItems? : Nat → Nat → List Toml → List Char → Option (Toml × List Char)
  | 0, _, _, _ => none
  | fuel + 1, levels, found, s =>
    match readValue? fuel levels s with
    | none => none
    | some (v, rest) =>
      match skipGap false rest with
      | ']' :: rest => some (.array (v :: found).reverse, rest)
      | ',' :: rest =>
        -- a list may end in a comma
        match skipGap false rest with
        | ']' :: rest => some (.array (v :: found).reverse, rest)
        | rest => readItems? fuel levels (v :: found) rest
      | _ => none

/-- The remaining values of a table in braces, at least one, to be added to `members`. -/
def readPairs? : Nat → Nat → Members → List Char → Option (Toml × List Char)
  | 0, _, _, _ => none
  | fuel + 1, levels, members, s =>
    match readKey? s with
    | some (key, '=' :: rest) =>
      match readValue? fuel levels (skipSpace rest) with
      | none => none
      | some (v, rest) =>
        -- a table in braces may not end in a comma, since a key has to follow
        match members.put? key.path key.name v, skipSpace rest with
        | some members, ',' :: rest => readPairs? fuel levels members rest
        | some members, '\x7d' :: rest => some (.table (finishMembers members), rest)
        | _, _ => none
    | _ => none

end

/-! ## Documents -/

/-- A line of a document: the document with what the line says, and what follows it. -/
def readLine? (d : Document) (s : List Char) : Option (Document × List Char) :=
  match skipSpace s with
  | '[' :: '[' :: rest => do
    let (key, ']' :: ']' :: rest) ← readKey? rest | none
    return (← d.startItem? key.path key.name, ← afterLine? rest)
  | '[' :: rest => do
    let (key, ']' :: rest) ← readKey? rest | none
    return (← d.startTable? key.path key.name, ← afterLine? rest)
  | s =>
    match afterLine? s with
    | some rest => some (d, rest)
    | none => do
      let (key, '=' :: rest) ← readKey? s | none
      let (v, rest) ← readValue? (rest.length + 1) mostLevels (skipSpace rest)
      return (← d.put? key.path key.name v, ← afterLine? rest)

/-- The lines of a document. The first argument bounds their number. -/
def readLines? : Nat → Document → List Char → Option Document
  | _, d, [] => some d
  | 0, _, _ => none
  | fuel + 1, d, s =>
    match readLine? d s with
    | some (d, rest) => readLines? fuel d rest
    | none => none

/-- Reads a text that is a document; a byte order mark in front does not count. -/
def read? (s : List Char) : Option Toml :=
  let s := match s with
    | '\uFEFF' :: rest => rest
    | s => s
  (readLines? s.length {} s).map Document.finish

end AskLedger.Toml
