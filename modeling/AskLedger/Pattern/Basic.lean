import AskLedger.Text.Blank
import AskLedger.Text.Word

/-!
# Patterns

A pattern describes stretches of a text. Its meaning is the list of places that a match starting at
a given place can reach, in order of preference: an earlier alternative before a later one, a longer
run before a shorter one. The first of them is the match.

A match sees the text on both sides of its place, because a word boundary depends on the character
before it. Letters are compared up to case, digits and blanks in every script.

* `Pattern.whole_of_mem_reaches`: whatever a match reaches, the text itself is unchanged.
-/

namespace AskLedger

/-- A place in a text: what lies before it, nearest character first, and what lies after it. -/
structure Place where
  /-- The text in front of the place, last character first. -/
  before : List Char
  /-- The text behind the place. -/
  after : List Char
  deriving Repr, DecidableEq

namespace Place

/-- The place in front of a text. -/
def start (text : List Char) : Place := ⟨[], text⟩

/-- The number of characters in front of the place. -/
def offset (p : Place) : Nat := p.before.length

/-- The text that the place divides. -/
def whole (p : Place) : List Char := p.before.reverse ++ p.after

/-- Whether exactly one of the two neighbouring characters is a word character; the ends of the
text count as none. -/
def atWordEdge (p : Place) : Bool :=
  (p.before.head?.any Text.isWordChar) != (p.after.head?.any Text.isWordChar)

/-- The stretch of text between a place and a later one. -/
def upTo (p q : Place) : List Char :=
  p.after.take (q.offset - p.offset)

end Place

/-- What a single character of a pattern accepts. -/
inductive CharKind where
  /-- This character only. -/
  | exactly (c : Char)
  /-- This letter in either case. -/
  | letter (c : Char)
  /-- A decimal digit of any script. -/
  | digit
  /-- A blank character. -/
  | blank
  /-- One of these characters. -/
  | oneOf (cs : List Char)
  /-- A decimal digit of any script or one of these characters. -/
  | digitOr (cs : List Char)
  deriving Repr, DecidableEq

/-- Whether a character is of a kind. -/
def CharKind.accepts : CharKind → Char → Bool
  | exactly c, x => x == c
  | letter c, x => Text.sameLetter c x
  | digit, x => Text.isDigit x
  | blank, x => Text.isBlank x
  | oneOf cs, x => cs.contains x
  | digitOr cs, x => Text.isDigit x || cs.contains x

/-- A description of stretches of text. -/
inductive Pattern where
  /-- The empty stretch. -/
  | nothing
  /-- One character of a kind. -/
  | one (kind : CharKind)
  /-- Characters of a kind, as many as possible, possibly none. -/
  | many (kind : CharKind)
  /-- No character, at a word boundary. -/
  | edge
  /-- One stretch followed by another. -/
  | both (first second : Pattern)
  /-- A stretch of the first description or, failing that, of the second. -/
  | either (first second : Pattern)
  /-- A stretch that is remembered under a number. -/
  | capture (slot : Nat) (body : Pattern)
  deriving Repr, DecidableEq

/-- A remembered stretch. -/
structure Capture where
  /-- The number it is remembered under. -/
  slot : Nat
  /-- How many characters of the text precede it. -/
  offset : Nat
  /-- The stretch itself. -/
  text : List Char
  deriving Repr, DecidableEq

/-- Where a match has got to and what it remembers. -/
structure Reach where
  /-- The place that was reached. -/
  place : Place
  /-- The stretches remembered on the way, latest first. -/
  captures : List Capture
  deriving Repr, DecidableEq

namespace Pattern

/-- The places reached by reading characters of a kind, farthest first; `found` holds the nearer
places already passed. -/
def runFrom (kind : CharKind) (found : List Place) (before : List Char) : List Char → List Place
  | [] => found
  | c :: rest =>
    -- the place behind `c` goes in front, so that the farthest place ends up first
    if kind.accepts c then runFrom kind (⟨c :: before, rest⟩ :: found) (c :: before) rest
    else found

/-- Everything a match can reach from `r`, in order of preference. -/
def reaches : Pattern → Reach → List Reach
  | nothing, r => [r]
  | one kind, r =>
    match r.place.after with
    | c :: rest => if kind.accepts c then [{ r with place := ⟨c :: r.place.before, rest⟩ }] else []
    | [] => []
  | many kind, r =>
    (runFrom kind [r.place] r.place.before r.place.after).map fun p => { r with place := p }
  | edge, r => if r.place.atWordEdge then [r] else []
  | both p q, r => (p.reaches r).flatMap q.reaches
  | either p q, r => p.reaches r ++ q.reaches r
  | capture slot p, r =>
    (p.reaches r).map fun e =>
      { e with captures := ⟨slot, r.place.offset, r.place.upTo e.place⟩ :: e.captures }

/-! ## What a match leaves unchanged -/

theorem whole_of_mem_runFrom {kind : CharKind} {text : List Char} :
    ∀ {after : List Char} {found : List Place} {before : List Char},
      (∀ p ∈ found, p.whole = text) → before.reverse ++ after = text →
      ∀ p ∈ runFrom kind found before after, p.whole = text
  | [], _, _, hfound, _ => hfound
  | c :: rest, found, before, hfound, htext => by
    have hstep : (c :: before).reverse ++ rest = text := by simpa using htext
    rw [runFrom]
    split
    · exact whole_of_mem_runFrom
        (List.forall_mem_cons.2 ⟨by simpa [Place.whole] using htext, hfound⟩) hstep
    · exact hfound

/-- Whatever a match reaches, the text itself is unchanged. -/
theorem whole_of_mem_reaches {p : Pattern} {r e : Reach} (h : e ∈ p.reaches r) :
    e.place.whole = r.place.whole := by
  induction p generalizing r e with
  | nothing => simp_all [reaches]
  | one kind =>
    rw [reaches] at h
    split at h
    · split at h <;> simp_all [Place.whole]
    · simp at h
  | many kind =>
    simp only [reaches, List.mem_map] at h
    obtain ⟨q, hq, rfl⟩ := h
    have hall : ∀ p ∈ [r.place], p.whole = r.place.whole := by simp
    exact whole_of_mem_runFrom hall rfl q hq
  | edge =>
    rw [reaches] at h
    split at h <;> simp_all
  | both p q ihp ihq =>
    simp only [reaches, List.mem_flatMap] at h
    obtain ⟨m, hm, he⟩ := h
    rw [ihq he, ihp hm]
  | either p q ihp ihq =>
    rw [reaches, List.mem_append] at h
    exact h.elim ihp ihq
  | capture slot p ih =>
    simp only [reaches, List.mem_map] at h
    obtain ⟨m, hm, rfl⟩ := h
    simpa using ih hm

/-! ## Building patterns -/

/-- A stretch or nothing, preferably the stretch. -/
def optional (p : Pattern) : Pattern := either p nothing

/-- One stretch after another. -/
def inOrder : List Pattern → Pattern
  | [] => nothing
  | [p] => p
  | p :: ps => both p (inOrder ps)

/-- No stretch at all. -/
def never : Pattern := one (.oneOf [])

/-- The first of several descriptions that fits. -/
def anyOf : List Pattern → Pattern
  | [] => never
  | [p] => p
  | p :: ps => either p (anyOf ps)

/-- The characters of `s`, letters in either case. -/
def spelled (s : String) : Pattern :=
  inOrder (s.toList.map fun c => one (.letter c))

/-- One of several spellings, earlier ones preferred. -/
def oneOfWords (ws : List String) : Pattern := anyOf (ws.map spelled)

/-- A spelling with an optional plural `s`. -/
def plural (s : String) : Pattern :=
  both (spelled s) (optional (one (.letter 's')))

/-- A spelling that may be continued by another. -/
def abbreviated (short rest : String) : Pattern :=
  both (spelled short) (optional (spelled rest))

/-- At least one character of a kind, as many as possible. -/
def oneOrMore (kind : CharKind) : Pattern :=
  both (one kind) (many kind)

/-- Exactly `n` characters of a kind. -/
def exactly (n : Nat) (kind : CharKind) : Pattern :=
  inOrder (List.replicate n (one kind))

/-- Between one and `n + 1` characters of a kind, as many as possible. -/
def upToMore : Nat → CharKind → Pattern
  | 0, kind => one kind
  | n + 1, kind => both (one kind) (optional (upToMore n kind))

/-- At least one blank. -/
def gap : Pattern := oneOrMore .blank

/-- Words with blanks between them. -/
def phrase : List Pattern → Pattern
  | [] => nothing
  | [p] => p
  | p :: ps => inOrder [p, gap, phrase ps]

/-- A stretch between two word boundaries. -/
def whole (p : Pattern) : Pattern :=
  inOrder [edge, p, edge]

end Pattern

end AskLedger
