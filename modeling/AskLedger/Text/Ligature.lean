import AskLedger.Text.WidthTable

/-!
# Ligatures

Letters that are written as one with the letters before them. Which letters these are depends on the
script: lam with alef in Arabic, alef with a joined lamed in Hebrew, the coeng sign with most
consonants in Khmer, two joined consonants in Tifinagh, two parts of a tone in Lisu, and one cluster
each in Buginese and in Old Turkic. A text is measured from its end, so a ligature is known by its
last letters first, and every letter before them either goes on with it or not.

Marks that are not shown may stand anywhere within a ligature; outside Arabic a joiner may, too, and
some ligatures need one.
-/

namespace AskLedger.Text

/-- The joiner. -/
def joiner : Char := '\u200D'

/-- Marks that are not shown and belong to the character before them. -/
def isHiddenMark (c : Char) : Bool :=
  let n := c.toNat
  n == 0x34F || n == 0x17B4 || n == 0x17B5 || (0x180B ≤ n && n ≤ 0x180D) || n == 0x180F
    || (0xFE00 ≤ n && n ≤ 0xFE0F) || (0xE0100 ≤ n && n ≤ 0xE01EF)

/-- The forms of the Arabic letter alef that lam joins. -/
def isAlef (c : Char) : Bool :=
  [0x622, 0x623, 0x625, 0x627, 0x671, 0x672, 0x673, 0x675, 0x773, 0x774].contains c.toNat
    || (0x870 ≤ c.toNat && c.toNat ≤ 0x882)

/-- The forms of the Arabic letter lam that join alef. -/
def isLam (c : Char) : Bool :=
  [0x644, 0x6B5, 0x6B6, 0x6B7, 0x6B8, 0x76A, 0x8A6, 0x8C7].contains c.toNat

/-- Characters that Arabic letters join across. -/
def isJoinedAcross (c : Char) : Bool :=
  CharSet.widthless.has c && !CharSet.separating.has c

/-- The letters of Khmer that a coeng sign puts below the letter before it. -/
def takesCoeng (c : Char) : Bool :=
  let n := c.toNat
  (0x1780 ≤ n && n ≤ 0x1782) || (0x1784 ≤ n && n ≤ 0x1787) || (0x1789 ≤ n && n ≤ 0x178C)
    || (0x178E ≤ n && n ≤ 0x1793) || (0x1795 ≤ n && n ≤ 0x1798) || (0x179B ≤ n && n ≤ 0x179D)
    || [0x17A0, 0x17A2, 0x17A7, 0x17AB, 0x17AC, 0x17AF].contains n

/-- The consonants of Tifinagh. -/
def isTifinagh (c : Char) : Bool :=
  (0x2D31 ≤ c.toNat && c.toNat ≤ 0x2D65) || c.toNat == 0x2D6F

/-- The last letters of a ligature; `joined` says whether a joiner stands before them. -/
inductive Ligature where
  /-- The Arabic letter alef. -/
  | alef
  /-- The Hebrew letter lamed. -/
  | lamed (joined : Bool)
  /-- A letter of Khmer that takes a coeng sign. -/
  | coengLetter
  /-- The Buginese letter ya. -/
  | ya (joined : Bool)
  /-- The Buginese vowel sign i with a joined ya. -/
  | vowelAndYa
  /-- A consonant of Tifinagh. -/
  | tifinagh (joined : Bool)
  /-- The consonant joiner of Tifinagh with a consonant. -/
  | joinerAndTifinagh
  /-- The second part of a tone of Lisu. -/
  | tonePart
  /-- The Old Turkic letter i of the Orkhon script. -/
  | orkhonI (joined : Bool)
  deriving DecidableEq, Repr

namespace Ligature

/-- The ligature that a letter may be the end of. -/
def ofChar? (c : Char) : Option Ligature :=
  if isAlef c then some .alef
  else if c = '\u05DC' then some (.lamed false)
  else if takesCoeng c then some .coengLetter
  else if c = '\u1A10' then some (.ya false)
  else if isTifinagh c then some (.tifinagh false)
  else if c = '\uA4FC' ∨ c = '\uA4FD' then some .tonePart
  else if c.toNat = 0x10C03 then some (.orkhonI false)
  else none

/-- The same letters with a joiner before them. -/
def join : Ligature → Ligature
  | lamed _ => lamed true
  | ya _ => ya true
  | tifinagh _ => tifinagh true
  | orkhonI _ => orkhonI true
  | l => l

/-- The width of a letter that goes on with a ligature outside Arabic, and the ligature from it on
if more letters may join. Where the letters after it have been given a width that they do not have
in the ligature, the width is negative. -/
def letterBefore? (l : Ligature) (c : Char) : Option (Int × Option Ligature) :=
  match l with
  | lamed true => if c = '\u05D0' then some (0, none) else none
  | coengLetter => if c = '\u17D2' then some (-1, none) else none
  | ya true => if c = '\u1A17' then some (0, some vowelAndYa) else none
  | vowelAndYa => if c = '\u1A15' then some (0, none) else none
  | tifinagh joined =>
    if c = '\u2D7F' then some (1, some joinerAndTifinagh)
    else if joined && isTifinagh c then some (0, none)
    else none
  | joinerAndTifinagh => if isTifinagh c then some (-1, none) else none
  | tonePart => if 0xA4F8 ≤ c.toNat ∧ c.toNat ≤ 0xA4FB then some (0, none) else none
  | orkhonI true => if c.toNat = 0x10C32 then some (0, none) else none
  | _ => none

/-- The width of a character that goes on with a ligature, and the ligature from it on. -/
def before? (l : Ligature) (c : Char) : Option (Int × Option Ligature) :=
  if l = alef then
    if isLam c then some (0, none)
    else if isJoinedAcross c then some (0, some alef)
    else none
  else if c = joiner then some (0, some l.join)
  else if isHiddenMark c then some (0, some l)
  else l.letterBefore? c

end Ligature

end AskLedger.Text
