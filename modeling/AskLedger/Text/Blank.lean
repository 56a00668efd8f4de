/-!
# Blank characters, trimming and words

A blank is a character with the White_Space property: besides the ASCII blanks the next-line
character, the no-break space, the ogham space mark, the typographic spaces, the two separators and
the ideographic space. Texts are trimmed and cut into words at blanks.

* `Text.trimStart_trimStart`, `Text.trimEnd_trimEnd`: trimming twice is trimming once.
-/

namespace AskLedger.Text

/-- Characters that count as white space. -/
def isBlank (c : Char) : Bool :=
  let n := c.toNat
  (9 ≤ n && n ≤ 13) || n == 32 || n == 0x85 || n == 0xA0 || n == 0x1680
    || (0x2000 ≤ n && n ≤ 0x200A) || n == 0x2028 || n == 0x2029 || n == 0x202F || n == 0x205F
    || n == 0x3000

/-- The text without the blanks it starts with. -/
def trimStart (s : List Char) : List Char :=
  s.dropWhile isBlank

/-- The text without the blanks it ends with. -/
def trimEnd (s : List Char) : List Char :=
  (s.reverse.dropWhile isBlank).reverse

/-- The text without outer blanks. -/
def trim (s : List Char) : List Char :=
  trimEnd (trimStart s)

/-- `String` version of `trim`. -/
def trimmed (s : String) : String :=
  String.ofList (trim s.toList)

/-- The text without the blanks it ends with, as a `String`. -/
def trimmedEnd (s : String) : String :=
  String.ofList (trimEnd s.toList)

/-- Whether a text is empty or made of blanks only. -/
def isAllBlank (s : List Char) : Bool :=
  s.all isBlank

/-- Collects the words of a text; `word` holds the letters, last first, of the word being read. -/
def wordsFrom (word : List Char) : List Char → List (List Char)
  | [] => if word.isEmpty then [] else [word.reverse]
  | c :: rest =>
    if isBlank c then
      if word.isEmpty then wordsFrom [] rest else word.reverse :: wordsFrom [] rest
    else wordsFrom (c :: word) rest

/-- The maximal stretches without blanks, in order. -/
def words (s : List Char) : List (List Char) :=
  wordsFrom [] s

/-- A blank in front is taken. -/
theorem trimStart_cons_of_blank {c : Char} {s : List Char} (h : isBlank c = true) :
    trimStart (c :: s) = trimStart s := by
  simp [trimStart, h]

theorem trimStart_cons_of_not_blank {c : Char} {s : List Char} (h : isBlank c = false) :
    trimStart (c :: s) = c :: s := by
  simp [trimStart, h]

@[simp] theorem trim_nil : trim [] = [] := rfl

/-- What is left after dropping a stretch either is empty or starts outside the class. -/
theorem dropWhile_dropWhile (p : Char → Bool) (s : List Char) :
    (s.dropWhile p).dropWhile p = s.dropWhile p := by
  induction s with
  | nil => rfl
  | cons c r ih =>
    by_cases h : p c = true
    · simp [h, ih]
    · simp [h]

@[simp] theorem trimStart_trimStart (s : List Char) : trimStart (trimStart s) = trimStart s :=
  dropWhile_dropWhile isBlank s

@[simp] theorem trimEnd_trimEnd (s : List Char) : trimEnd (trimEnd s) = trimEnd s := by
  simp [trimEnd, dropWhile_dropWhile]

end AskLedger.Text
