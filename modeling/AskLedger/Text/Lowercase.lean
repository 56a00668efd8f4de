import AskLedger.Text.CaseTable

/-!
# Lowercase

Every capital is replaced by its small form. Two rules look at more than one character: the capital
I with dot becomes an i followed by a combining dot, and a capital sigma becomes a final sigma when
it ends a word, that is, when the nearest character that counts is one with case before it and none
with case after it.
-/

namespace AskLedger.Text

/-- The small form of a capital beyond ASCII, by the run that holds it. -/
def smallInRuns (n : Nat) : List (Nat × Nat × Nat × Nat) → Option Nat
  | [] => none
  | (first, last, step, small) :: runs =>
    if first ≤ n && n ≤ last && (n - first) % step == 0 then some (small + (n - first))
    else smallInRuns n runs

/-- The small form of one character, on its own. -/
def lowerChar (c : Char) : List Char :=
  if c.toNat < 128 then [c.toLower]
  -- the one capital whose small form is two characters
  else if c = 'İ' then ['i', '\u0307']
  else match smallInRuns c.toNat capitalRuns with
    | some n => [Char.ofNat n]
    | none => [c]

/-- Whether the nearest character that is not skipped has case. -/
def casedNext (s : List Char) : Bool :=
  match s.dropWhile CharSet.caseIgnorable.has with
  | c :: _ => CharSet.cased.has c
  | [] => false

/-- Lowercases `s`, where `before` is the text in front of it, nearest character first. -/
def lowerFrom (before : List Char) : List Char → List Char
  | [] => []
  | c :: rest =>
    if c = 'Σ' then
      -- final only if a letter stands before it in the word and none after it
      (if casedNext before && !casedNext rest then 'ς' else 'σ') :: lowerFrom (c :: before) rest
    else lowerChar c ++ lowerFrom (c :: before) rest

/-- The lowercase form of a text. -/
def lower (s : List Char) : List Char :=
  lowerFrom [] s

/-- `String` version of `lower`. -/
def lowered (s : String) : String :=
  String.ofList (lower s.toList)

/-- ASCII capitals replaced by small letters, all else unchanged. -/
def asciiLower (s : List Char) : List Char :=
  s.map Char.toLower

/-- ASCII small letters replaced by capitals, all else unchanged. -/
def asciiUpper (s : List Char) : List Char :=
  s.map Char.toUpper

/-- Whether two texts agree up to the case of ASCII letters. -/
def sameUpToAsciiCase (a b : String) : Bool :=
  asciiLower a.toList == asciiLower b.toList

end AskLedger.Text
