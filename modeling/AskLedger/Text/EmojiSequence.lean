import AskLedger.Text.Ligature

/-!
# Emoji sequences

Several characters are shown as one emoji: an emoji with a skin tone, and emoji with joiners between
them, each of which may have a tone, a keycap, a flag made of two letters of a region or of tags in
front of its joiner. A text is measured from its end, so the last emoji of a sequence is met first
and counts in full; what stands before its joiner counts for nothing.
-/

namespace AskLedger.Text

/-- Skin tones. -/
def isTone (c : Char) : Bool :=
  0x1F3FB ≤ c.toNat && c.toNat ≤ 0x1F3FF

/-- The letters that name a region in pairs. -/
def isRegionLetter (c : Char) : Bool :=
  0x1F1E6 ≤ c.toNat && c.toNat ≤ 0x1F1FF

/-- Small letters as tags. -/
def isTagLetter (c : Char) : Bool :=
  0xE0061 ≤ c.toNat && c.toNat ≤ 0xE007A

/-- Digits as tags. -/
def isTagDigit (c : Char) : Bool :=
  0xE0030 ≤ c.toNat && c.toNat ≤ 0xE0039

/-- The end of an emoji sequence, as far as it has been met. -/
inductive EmojiTail where
  /-- An emoji, possibly with more of its sequence behind it. -/
  | emoji
  /-- A skin tone. -/
  | tone
  /-- A letter of a region without another one behind it. -/
  | regionLetter
  /-- Several letters of regions. -/
  | regionLetters
  /-- A joiner and an emoji. -/
  | joined
  /-- A keycap before a joiner. -/
  | joinedKeycap
  /-- A single letter of a region before a joiner. -/
  | joinedLetter
  /-- Letters of regions before a joiner, an even number of them if `paired` holds and otherwise an
  odd number from three on. -/
  | joinedLetters (paired : Bool)
  /-- The end of tags before a joiner, with so many letters and then so many digits before it. -/
  | joinedTags (letters digits : Nat)
  deriving DecidableEq, Repr

namespace EmojiTail

/-- Whether a selector before this shows a character that is part of the sequence. -/
def takesSelector : EmojiTail → Bool
  | joined => true
  | joinedKeycap => true
  | _ => false

/-- The width of a character before a joiner and an emoji that belongs to their sequence. -/
def beforeJoiner? (c : Char) : Option (Int × EmojiTail) :=
  if c = '\u20E3' then some (0, joinedKeycap)
  else if isRegionLetter c then some (1, joinedLetter)
  else if isTone c then some (0, tone)
  else if c.toNat = 0xE007F then some (0, joinedTags 0 0)
  else if CharSet.shownAsEmoji.has c then some (0, emoji)
  else none

/-- The width of a character before tags that belongs to their sequence: the tags name a region by
its letters or by three digits, possibly with letters for a part of it. -/
def beforeTags? (letters digits : Nat) (c : Char) : Option (Int × EmojiTail) :=
  if isTagLetter c && digits == 0 && letters < 6 then some (0, joinedTags (letters + 1) 0)
  else if isTagDigit c && digits < 3 && (digits != 0 || letters ≤ 4) then
    some (0, joinedTags letters (digits + 1))
  else if c.toNat = 0x1F3F4 && (digits == 3 || (digits == 0 && 3 ≤ letters)) then some (0, emoji)
  else none

/-- The width of a character that goes on with a sequence, and the sequence from it on. -/
def before? (t : EmojiTail) (c : Char) : Option (Int × EmojiTail) :=
  match t with
  | emoji => if c = joiner then some (0, joined) else none
  | tone =>
    if CharSet.tonable.has c then some (0, emoji)
    else if c = joiner then some (0, joined)
    else none
  | regionLetter => if isRegionLetter c then some (1, regionLetters) else none
  | regionLetters =>
    if isRegionLetter c then some (1, regionLetters)
    else if c = joiner then some (0, joined)
    else none
  | joined => beforeJoiner? c
  | joinedKeycap => none
  -- letters pair up from the front: with another one in front the last letter stands alone again
  | joinedLetter => if isRegionLetter c then some (-1, joinedLetters true) else none
  | joinedLetters paired =>
    if isRegionLetter c then some (if paired then 3 else -1, joinedLetters !paired)
    else if c = joiner then some (0, joined)
    else none
  | joinedTags letters digits => beforeTags? letters digits c

end EmojiTail

end AskLedger.Text
