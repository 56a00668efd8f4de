import AskLedger.Text.EmojiSequence

/-!
# Columns of a terminal

How many columns a text takes on a terminal with fixed columns. Ideographs and emoji take two, marks
none, everything else one. Some characters are shown together: a return with the line feed after it,
the letters of a ligature, the emoji of a sequence, some vowels of Kirat Rai, and a character with
the selector behind it. A text is therefore measured from its end, keeping in mind what follows.
-/

namespace AskLedger.Text

/-- A mark that selects how the character before it is shown. -/
inductive Selector where
  /-- As an emoji. -/
  | emoji
  /-- As text. -/
  | text
  /-- In the width of an ideograph, which only quotation marks heed. -/
  | fullWidth
  deriving DecidableEq, Repr

/-- The selector that a character is. -/
def Selector.ofChar? (c : Char) : Option Selector :=
  if c = '\uFE0F' then some .emoji
  else if c = '\uFE0E' then some .text
  else if c = '\uFE01' then some .fullWidth
  else none

/-- What follows a character, as far as its width depends on it. -/
inductive Following where
  /-- Nothing that matters. -/
  | plain
  /-- A line feed. -/
  | lineFeed
  /-- Letters that may be part of a ligature. -/
  | ligature (l : Ligature)
  /-- The end of an emoji sequence. -/
  | sequence (t : EmojiTail)
  /-- The Kirat Rai vowel sign e, possibly with signs ai behind it. -/
  | kiratE
  /-- The Kirat Rai vowel sign ai, in one part or in two. -/
  | kiratAi
  deriving DecidableEq, Repr

/-- What follows a character, with the selector directly behind it. -/
structure Ahead where
  /-- The selector. -/
  selector? : Option Selector := none
  /-- What follows, behind the selector if there is one. -/
  next : Following := .plain
  deriving DecidableEq, Repr

/-- Emoji that a selector turns into text of a single column. -/
def isShownAsText (c : Char) : Bool :=
  CharSet.selectable.has c && CharSet.shownAsEmoji.has c
    && !(0x1F200 ≤ c.toNat && c.toNat ≤ 0x1F2FF)

/-- Quotation marks that come in the width of an ideograph, too. -/
def isQuotationMark (c : Char) : Bool :=
  ['‘', '’', '“', '”'].contains c

/-- What still matters behind a selector: ligatures disregard selectors, and an emoji before a
joiner may need one. -/
def Following.behind (next : Following) (s : Selector) : Following :=
  match next with
  | .ligature l => .ligature l
  | .sequence t => if s = .emoji && t.takesSelector then .sequence t else .plain
  | _ => .plain

/-- What follows a selector that has turned out to select nothing. -/
def Following.withoutSelector : Following → Following
  | .ligature l => .ligature l
  | _ => .plain

/-- The width of a character that a selector changes, and what it is to the character before it. -/
def Selector.shown? (s : Selector) (next : Following) (c : Char) : Option (Int × Following) :=
  match s with
  | .emoji =>
    if CharSet.selectable.has c then
      -- what stands before a joiner is part of the emoji behind it
      some (match next with | .sequence _ => 0 | _ => 2, .sequence .emoji)
    else none
  | .text => if isShownAsText c then some (1, .plain) else none
  | .fullWidth => if isQuotationMark c then some (2, .plain) else none

/-- The width of a character on its own, and what it is to the character before it. -/
def ownWidth (c : Char) : Int × Following :=
  if c = '\n' then (1, .lineFeed)
  else if c.toNat ≤ 0xA0 then (1, .plain)
  else if isTone c then (2, .sequence .tone)
  else if isRegionLetter c then (1, .sequence .regionLetter)
  else if CharSet.shownAsEmoji.has c then (2, .sequence .emoji)
  else if c.toNat = 0x16D67 then (1, .kiratE)
  else if c.toNat = 0x16D68 then (1, .kiratAi)
  -- a sign of Khmer that stands for "and so on", and a letter of two columns
  else if c = '\u17D8' then (3, .plain)
  else if c = '\u17A4' then (2, .plain)
  else match Ligature.ofChar? c with
    | some l => (1, .ligature l)
    | none =>
      if CharSet.widthless.has c then (0, .plain)
      else if CharSet.wide.has c then (2, .plain)
      else (1, .plain)

/-- The width of a vowel sign of Kirat Rai that is written as one with those after it; `ai` says
whether these are the sign ai. -/
def kiratBefore? (ai : Bool) (c : Char) : Option (Int × Following) :=
  if c.toNat = 0x16D63 then some (0, .plain)
  else if ai then none
  else if c.toNat = 0x16D67 then some (0, .kiratAi)
  else if c.toNat = 0x16D68 then some (1, .kiratE)
  else if c.toNat = 0x16D69 then some (0, .plain)
  else none

/-- The width of a character that is shown together with what follows, and what it is to the
character before it. -/
def Following.before? (next : Following) (c : Char) : Option (Int × Following) :=
  match next with
  | .plain => none
  | .lineFeed => none
  | .ligature l => (l.before? c).map fun (width, more?) =>
      (width, match more? with | some l => .ligature l | none => .plain)
  | .sequence t => (t.before? c).map fun (width, t) => (width, .sequence t)
  | .kiratE => kiratBefore? false c
  | .kiratAi => kiratBefore? true c

/-- The width of a character in front of something without a selector. -/
def widthBeforeNext (next : Following) (c : Char) : Int × Ahead :=
  if c.toNat ≤ 0xA0 then
    if c = '\r' && next = .lineFeed then (0, {})
    else ((ownWidth c).1, { next := (ownWidth c).2 })
  else match Selector.ofChar? c with
    | some s => (0, ⟨some s, next.behind s⟩)
    | none =>
      let (width, next) := (next.before? c).getD (ownWidth c)
      (width, { next })

/-- The width of a character in front of something, and what it is to the character before it. -/
def widthBefore (ahead : Ahead) (c : Char) : Int × Ahead :=
  match ahead.selector? with
  | none => widthBeforeNext ahead.next c
  | some s =>
    match s.shown? ahead.next c with
    | some (width, next) => (width, { next })
    | none => widthBeforeNext ahead.next.withoutSelector c

/-- The width of a text, and what it is to a character before it. -/
def widthAndStart : List Char → Int × Ahead
  | [] => (0, {})
  | c :: rest =>
    let (width, ahead) := widthAndStart rest
    let (own, start) := widthBefore ahead c
    (width + own, start)

/-- How many columns a text takes. -/
def columns (s : List Char) : Nat :=
  (widthAndStart s).1.toNat

end AskLedger.Text
