import AskLedger.Pattern.Basic

/-!
# Searching a text for a pattern

The leftmost match of a pattern, all of its matches from left to right without overlap, and the
text with every match replaced. A search sees the whole text: what precedes a later match still
counts for its word boundaries.

* `Pattern.isIn_iff`: a pattern is in a text exactly if it matches at some place of it.
-/

namespace AskLedger

/-- A stretch of a text that a pattern describes. -/
structure Match where
  /-- Where the stretch starts. -/
  start : Place
  /-- Where it ends and what it remembers. -/
  stop : Reach
  deriving Repr, DecidableEq

namespace Match

/-- The number of characters of the stretch. -/
def length (m : Match) : Nat := m.stop.place.offset - m.start.offset

/-- The stretch itself. -/
def text (m : Match) : List Char := m.start.upTo m.stop.place

/-- The remembered stretch under a number, with its place. -/
def capture? (m : Match) (slot : Nat) : Option Capture :=
  m.stop.captures.find? fun c => c.slot == slot

/-- The text remembered under a number; empty if there is none. -/
def group (m : Match) (slot : Nat) : List Char :=
  match m.capture? slot with
  | some c => c.text
  | none => []

/-- Whether something is remembered under a number. -/
def has (m : Match) (slot : Nat) : Bool :=
  (m.capture? slot).isSome

end Match

namespace Pattern

/-- The preferred match that starts at a place. -/
def matchAt? (p : Pattern) (place : Place) : Option Match :=
  (p.reaches ⟨place, []⟩).head?.map fun r => ⟨place, r⟩

/-- The leftmost match at or after a place. -/
def findFrom? (p : Pattern) (before : List Char) : List Char → Option Match
  | [] => p.matchAt? ⟨before, []⟩
  | c :: rest =>
    match p.matchAt? ⟨before, c :: rest⟩ with
    | some m => some m
    | none => findFrom? p (c :: before) rest

/-- The leftmost match in a text. -/
def find? (p : Pattern) (text : List Char) : Option Match :=
  p.findFrom? [] text

/-- Whether a text has a match. -/
def isIn (p : Pattern) (text : List Char) : Bool :=
  (p.find? text).isSome

/-- Matches from left to right; the first `skip` characters belong to the match before. An empty
match is followed by a step of one character. -/
def allFrom (p : Pattern) (before : List Char) : Nat → List Char → List Match
  | 0, [] => (p.matchAt? ⟨before, []⟩).toList
  | _ + 1, [] => []
  | 0, c :: rest =>
    -- `c` itself belongs to the match, so one character less is left to skip
    match p.matchAt? ⟨before, c :: rest⟩ with
    | some m => m :: allFrom p (c :: before) (m.length - 1) rest
    | none => allFrom p (c :: before) 0 rest
  | skip + 1, c :: rest => allFrom p (c :: before) skip rest

/-- All matches in a text, from left to right, none overlapping an earlier one. -/
def all (p : Pattern) (text : List Char) : List Match :=
  p.allFrom [] 0 text

/-- The text with every match replaced; the first `skip` characters belong to the match before. -/
def replaceFrom (p : Pattern) (by_ before : List Char) : Nat → List Char → List Char
  | _, [] => []
  | 0, c :: rest =>
    match p.matchAt? ⟨before, c :: rest⟩ with
    | some m => by_ ++ replaceFrom p by_ (c :: before) (m.length - 1) rest
    | none => c :: replaceFrom p by_ (c :: before) 0 rest
  | skip + 1, c :: rest => replaceFrom p by_ (c :: before) skip rest

/-- The text with every match replaced by `by_`. Patterns that match the empty stretch are not
meant to be replaced. -/
def replaceAll (p : Pattern) (by_ text : List Char) : List Char :=
  p.replaceFrom by_ [] 0 text

/-- A pattern is found if it matches anywhere. -/
theorem findFrom?_isSome_iff {p : Pattern} {before text : List Char} :
    (p.findFrom? before text).isSome = true ↔
      ∃ skipped rest, text = skipped ++ rest ∧
        (p.matchAt? ⟨skipped.reverse ++ before, rest⟩).isSome = true := by
  induction text generalizing before with
  | nil =>
    constructor
    · intro h
      exact ⟨[], [], rfl, by simpa [findFrom?] using h⟩
    · rintro ⟨skipped, rest, htext, h⟩
      obtain ⟨rfl, rfl⟩ := List.nil_eq_append_iff.1 htext
      simpa [findFrom?] using h
  | cons c text ih =>
    rw [findFrom?]
    cases hm : p.matchAt? ⟨before, c :: text⟩ with
    | some m => exact ⟨fun _ => ⟨[], c :: text, rfl, by simp [hm]⟩, fun _ => rfl⟩
    | none =>
      simp only
      rw [ih]
      constructor
      · rintro ⟨skipped, rest, rfl, h⟩
        exact ⟨c :: skipped, rest, rfl, by simpa using h⟩
      · rintro ⟨skipped, rest, htext, h⟩
        cases skipped with
        | nil => subst htext; simp [hm] at h
        | cons d skipped =>
          injection htext with hd htext
          subst hd
          exact ⟨skipped, rest, htext, by simpa using h⟩

/-- A pattern is in a text exactly if it matches at some place of it. -/
theorem isIn_iff {p : Pattern} {text : List Char} :
    p.isIn text = true ↔
      ∃ skipped rest, text = skipped ++ rest ∧
        (p.matchAt? ⟨skipped.reverse, rest⟩).isSome = true := by
  have h := @findFrom?_isSome_iff p [] text
  simpa [isIn, find?] using h

end Pattern

end AskLedger
