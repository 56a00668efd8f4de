/-!
# Finding and removing pieces of a text

Occurrence of one text in another, removal of a character, and cutting at a character.

* `Text.occursIn_iff`: occurrence is being an infix.
-/

namespace AskLedger.Text

/-- Whether `needle` occurs in a text, at any place. -/
def occursIn (needle : List Char) : List Char → Bool
  | [] => needle.isEmpty
  | c :: rest => needle.isPrefixOf (c :: rest) || occursIn needle rest

/-- `String` version of `occursIn`. -/
def contains (text needle : String) : Bool :=
  occursIn needle.toList text.toList

/-- The text without any occurrence of `c`. -/
def without (c : Char) (s : List Char) : List Char :=
  s.filter (· != c)

/-- Cuts a text at every occurrence of `mark`; the pieces are one more than the marks. -/
def splitAt (mark : Char) : List Char → List (List Char)
  | [] => [[]]
  | c :: rest =>
    if c = mark then [] :: splitAt mark rest
    else match splitAt mark rest with
      | piece :: pieces => (c :: piece) :: pieces
      | [] => [[c]]

/-- Joins pieces, writing `mark` between neighbours. -/
def joinWith (mark : String) : List String → String
  | [] => ""
  | [s] => s
  | s :: rest => s ++ mark ++ joinWith mark rest

/-- A text occurs in another if it stands somewhere in it. -/
theorem occursIn_iff {needle text : List Char} :
    occursIn needle text = true ↔ needle <:+: text := by
  induction text with
  | nil => simp [occursIn]
  | cons c rest ih =>
    rw [occursIn, Bool.or_eq_true, ih, List.isPrefixOf_iff_prefix, List.infix_cons_iff]

end AskLedger.Text
