import AskLedger.Text.WordTable

/-!
# Digits, word characters and letters up to case

Word boundaries lie between a word character and anything else. Digits are those of every script;
whether a run of digits is also a number is decided by who reads it. Letters of a pattern are
compared after simple case folding, which sends exactly two characters beyond ASCII to ASCII
letters: the long s and the Kelvin sign.
-/

namespace AskLedger.Text

/-- Decimal digits of every script. -/
def isDigit (c : Char) : Bool :=
  if c.toNat < 128 then c.isDigit else CharSet.digitBeyondAscii.has c

/-- Letters, digits, marks, the underscore and its relatives. -/
def isWordChar (c : Char) : Bool :=
  if c.toNat < 128 then c.isAlphanum || c == '_' else CharSet.wordBeyondAscii.has c

/-- The character that stands for all characters equal to `c` up to case, as far as ASCII letters
are concerned. -/
def fold (c : Char) : Char :=
  if c = 'ſ' then 's' else if c = '\u212A' then 'k' else c.toLower

/-- Whether two characters are equal up to case, one of them being ASCII. -/
def sameLetter (a b : Char) : Bool :=
  fold a == fold b

end AskLedger.Text
