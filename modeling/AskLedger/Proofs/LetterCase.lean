import AskLedger.Pattern.Search
import AskLedger.Proofs.Numerals
import AskLedger.Proofs.WordCharacters
import AskLedger.Text.Find
import AskLedger.Text.Lowercase

/-!
# Letters in either case

A pattern that asks for letters asks for them in either case. So it does not matter to a search
whether the text is written with capitals: the matches stand at the same places and say the same, up
to the case of the letters they repeat.

* `CharKind.accepts_toLower`: kinds of characters that do not tell the cases of a letter apart.
* `Pattern.reaches_lower`: what a match reaches in the text with small letters.
* `Pattern.find?_asciiLower`, `Pattern.all_asciiLower`, `Pattern.replaceAll_asciiLower`: searches in
  the text with small letters.
-/

namespace AskLedger

/-! ## Characters -/

namespace Text

/-- Digits have no case. -/
theorem isDigit_toLower (c : Char) : isDigit c.toLower = isDigit c :=
  apply_toLower (by decide) c

theorem isBlank_toLower (c : Char) : isBlank c.toLower = isBlank c :=
  apply_toLower (by decide) c

/-- Letters that differ in case are folded alike. -/
theorem fold_toLower (c : Char) : fold c.toLower = fold c :=
  apply_toLower (by decide) c

/-- A character that is no letter is not the small form of another. -/
theorem toLower_beq {d : Char} (hd : d.isAlpha = false) (c : Char) : (c.toLower == d) = (c == d) := by
  have hne : ∀ x : Char, x.isAlpha = true → (x == d) = false := by
    intro x hx
    rw [beq_eq_false_iff_ne]
    rintro rfl
    rw [hx] at hd
    cases hd
  -- a capital and its small letter are both letters, so neither of them is `d`
  refine apply_toLower (f := (· == d)) (fun n hn hge => ?_) c
  have hletters : ∀ n < 91, 65 ≤ n → (Char.ofNat n).isAlpha = true ∧
      (Char.ofNat n).toLower.isAlpha = true := by decide
  obtain ⟨hcapital, hsmall⟩ := hletters n hn hge
  rw [hne _ hcapital, hne _ hsmall]

/-- A character that is no letter is the lowercase of itself only. -/
theorem toLower_eq_iff {d : Char} (hd : d.isAlpha = false) {c : Char} : c.toLower = d ↔ c = d := by
  rw [← beq_iff_eq, toLower_beq hd, beq_iff_eq]

@[simp] theorem asciiLower_nil : asciiLower [] = [] := rfl

@[simp] theorem asciiLower_cons (c : Char) (s : List Char) :
    asciiLower (c :: s) = c.toLower :: asciiLower s := rfl

@[simp] theorem length_asciiLower (s : List Char) : (asciiLower s).length = s.length :=
  List.length_map _

theorem asciiLower_append (s t : List Char) : asciiLower (s ++ t) = asciiLower s ++ asciiLower t :=
  List.map_append

@[simp] theorem asciiLower_asciiLower (s : List Char) : asciiLower (asciiLower s) = asciiLower s := by
  rw [asciiLower, asciiLower, List.map_map]
  exact List.map_congr_left fun c _ => apply_toLower (f := Char.toLower) (by decide) c

theorem asciiLower_take (n : Nat) (s : List Char) : asciiLower (s.take n) = (asciiLower s).take n :=
  List.map_take

/-- The first characters of a text and of the same text with small letters agree on what does not
depend on the case. -/
theorem head?_any_asciiLower {f : Char → Bool} (hf : ∀ c : Char, f c.toLower = f c) (s : List Char) :
    (asciiLower s).head?.any f = s.head?.any f := by
  cases s with
  | nil => rfl
  | cons c s => exact hf c

/-! ## Texts and numbers -/

theorem trim_asciiLower (s : List Char) : trim (asciiLower s) = asciiLower (trim s) := by
  have hblank : isBlank ∘ Char.toLower = isBlank := funext isBlank_toLower
  simp [trim, trimStart, trimEnd, asciiLower, List.dropWhile_map, ← List.map_reverse, hblank]

/-- A text in lowercase has the words in lowercase. -/
theorem words_asciiLower (s : List Char) : words (asciiLower s) = (words s).map asciiLower := by
  -- the induction is on what is left of the text, whatever has been read of the present word
  suffices hfrom : ∀ word, wordsFrom (asciiLower word) (asciiLower s) =
      (wordsFrom word s).map asciiLower from hfrom []
  have hword : ∀ word, (asciiLower word).isEmpty = word.isEmpty ∧
      (asciiLower word).reverse = asciiLower word.reverse := by
    intro word
    simp [asciiLower]
  induction s with
  | nil =>
    intro word
    simp only [asciiLower_nil, wordsFrom, hword]
    split <;> rfl
  | cons c s ih =>
    intro word
    simp only [asciiLower_cons, wordsFrom, isBlank_toLower, hword]
    split
    · split
      · exact ih []
      · rw [List.map_cons, ← ih]
        rfl
    · exact ih (c :: word)

/-- Marks are taken out in either case. -/
theorem without_asciiLower {mark : Char} (h : mark.isAlpha = false) (s : List Char) :
    without mark (asciiLower s) = asciiLower (without mark s) := by
  have hmark : (· != mark) ∘ Char.toLower = (· != mark) :=
    funext fun c => congrArg (!·) (toLower_beq h c)
  rw [without, asciiLower, List.filter_map, hmark]
  rfl

/-- Whether a letter with case follows does not depend on case. -/
theorem casedNext_asciiLower (s : List Char) : casedNext (asciiLower s) = casedNext s := by
  have hskip : CharSet.caseIgnorable.has ∘ Char.toLower = CharSet.caseIgnorable.has :=
    funext (apply_toLower (by decide +kernel))
  rw [casedNext, casedNext, asciiLower, List.dropWhile_map, hskip]
  cases s.dropWhile CharSet.caseIgnorable.has with
  | nil => rfl
  | cons c rest =>
    exact @apply_toLower _ CharSet.cased.has (by decide +kernel) c

/-- The lowercase form of a text is that of the text with small letters. -/
theorem lower_asciiLower (s : List Char) : lower (asciiLower s) = lower s := by
  suffices hfrom : ∀ before, lowerFrom (asciiLower before) (asciiLower s) = lowerFrom before s from
    hfrom []
  induction s with
  | nil => exact fun before => rfl
  | cons c s ih =>
    intro before
    have hsigma : c.toLower = 'Σ' ↔ c = 'Σ' := toLower_eq_iff (by decide)
    have hchar : lowerChar c.toLower = lowerChar c := apply_toLower (by decide) c
    have hrest := ih (c :: before)
    rw [asciiLower_cons] at hrest
    rw [asciiLower_cons, lowerFrom, lowerFrom, hrest, hchar]
    simp only [hsigma, casedNext_asciiLower]

end Text

open Text (asciiLower)

namespace Decimal

/-- ASCII digits have no other case. -/
theorem toLower_of_isDigit {c : Char} (h : c.isDigit = true) : c.toLower = c := by
  have hall : ∀ d ∈ digits, d.toLower = d := Text.forall_of_all (by decide)
  exact hall c (mem_digits_of_isDigit h)

/-- Digits stay as they are in lowercase. -/
theorem asciiLower_of_digits {s : List Char} (h : ∀ c ∈ s, c.isDigit = true) : asciiLower s = s := by
  rw [asciiLower, List.map_congr_left fun c hc => toLower_of_isDigit (h c hc), List.map_id']

theorem isDigit_comp_toLower : Char.isDigit ∘ Char.toLower = Char.isDigit :=
  funext fun c => Text.apply_toLower (by decide) c

theorem all_isDigit_asciiLower (s : List Char) :
    (asciiLower s).all Char.isDigit = s.all Char.isDigit := by
  rw [asciiLower, List.all_map, isDigit_comp_toLower]

theorem natUpTo?_asciiLower (limit : Nat) (s : List Char) :
    natUpTo? limit (asciiLower s) = natUpTo? limit s := by
  -- a text with anything but digits is no number, and digits have no other case
  cases hall : s.all Char.isDigit with
  | true => rw [asciiLower_of_digits (List.all_eq_true.1 hall)]
  | false => simp [natUpTo?, all_isDigit_asciiLower, hall]

/-- Whether a text starts with a minus sign, and what follows its sign. -/
def signed : List Char → Bool × List Char
  | '-' :: rest => (true, rest)
  | '+' :: rest => (false, rest)
  | s => (false, s)

theorem signed_asciiLower (s : List Char) :
    signed (asciiLower s) = ((signed s).1, asciiLower (signed s).2) := by
  cases s with
  | nil => rfl
  | cons c s =>
    have hminus : c.toLower = '-' ↔ c = '-' := Text.toLower_eq_iff (by decide)
    have hplus : c.toLower = '+' ↔ c = '+' := Text.toLower_eq_iff (by decide)
    by_cases h : c = '-'
    · subst h
      rfl
    · by_cases h' : c = '+'
      · subst h'
        rfl
      · simp [signed, hminus, hplus, h, h']

/-- An exponent is a mark with a signed number behind it. -/
theorem exponent?_cons (c : Char) (s : List Char) :
    exponent? (c :: s) =
      if c = 'e' ∨ c = 'E' then
        if (signed s).2.isEmpty || !(signed s).2.all Char.isDigit then none
        else some (if (signed s).1 then -(Layout.digitsValue (signed s).2 : Int)
          else Layout.digitsValue (signed s).2)
      else none := rfl

theorem exponent?_asciiLower (s : List Char) : exponent? (asciiLower s) = exponent? s := by
  cases s with
  | nil => rfl
  | cons c s =>
    have hmark : decide (c.toLower = 'e' ∨ c.toLower = 'E') = decide (c = 'e' ∨ c = 'E') :=
      @Text.apply_toLower _ (fun c => decide (c = 'e' ∨ c = 'E')) (by decide) c
    rw [decide_eq_decide] at hmark
    rw [Text.asciiLower_cons, exponent?_cons, exponent?_cons, signed_asciiLower]
    simp only [hmark, all_isDigit_asciiLower]
    cases hall : (signed s).2.all Char.isDigit with
    | true => rw [asciiLower_of_digits (List.all_eq_true.1 hall)]
    | false => simp

theorem takeWhile_isDigit_asciiLower (s : List Char) :
    (asciiLower s).takeWhile Char.isDigit = s.takeWhile Char.isDigit := by
  have hall := List.all_eq_true.1 (List.all_takeWhile (p := Char.isDigit) (l := s))
  rw [asciiLower, List.takeWhile_map, isDigit_comp_toLower, ← asciiLower, asciiLower_of_digits hall]

theorem dropWhile_isDigit_asciiLower (s : List Char) :
    (asciiLower s).dropWhile Char.isDigit = asciiLower (s.dropWhile Char.isDigit) := by
  rw [asciiLower, List.dropWhile_map, isDigit_comp_toLower, ← asciiLower]

/-- The digits behind a point, and what follows them. -/
def fraction : List Char → List Char × List Char
  | '.' :: rest => (rest.takeWhile Char.isDigit, rest.dropWhile Char.isDigit)
  | rest => ([], rest)

theorem fraction_asciiLower (s : List Char) :
    fraction (asciiLower s) = ((fraction s).1, asciiLower (fraction s).2) := by
  cases s with
  | nil => rfl
  | cons c s =>
    have hpoint : c.toLower = '.' ↔ c = '.' := Text.toLower_eq_iff (by decide)
    by_cases h : c = '.'
    · subst h
      exact Prod.ext (takeWhile_isDigit_asciiLower s) (dropWhile_isDigit_asciiLower s)
    · simp [fraction, hpoint, h]

/-- A number without a sign: digits, a fraction and an exponent. -/
theorem unsigned?_eq (s : List Char) :
    unsigned? s =
      let whole := s.takeWhile Char.isDigit
      let f := fraction (s.dropWhile Char.isDigit)
      if whole.isEmpty && f.1.isEmpty then none
      else match exponent? f.2 with
        | some e => some (nearest (Layout.digitsValue (whole ++ f.1)) (e - f.1.length))
        | none => none := rfl

/-- Numbers without a sign are read alike in either case. -/
theorem unsigned?_asciiLower (s : List Char) : unsigned? (asciiLower s) = unsigned? s := by
  rw [unsigned?_eq, unsigned?_eq, takeWhile_isDigit_asciiLower, dropWhile_isDigit_asciiLower,
    fraction_asciiLower]
  simp only [exponent?_asciiLower]

/-- A number is a sign with a name or digits behind it. -/
theorem read?_eq (s : List Char) :
    read? s = ((named? (signed s).2).or (unsigned? (signed s).2)).map fun x =>
      if (signed s).1 then -x else x := by
  fun_cases signed s with
  | case1 rest => rfl
  | case2 rest => rfl
  | case3 s => simp [read?]

/-- Letters in a number count in either case. -/
theorem read?_asciiLower (s : List Char) : read? (asciiLower s) = read? s := by
  have hnamed : ∀ body, named? (asciiLower body) = named? body := by
    intro body
    rw [named?, named?, ← asciiLower, ← asciiLower, Text.asciiLower_asciiLower]
  rw [read?_eq, read?_eq, signed_asciiLower]
  simp only [hnamed, unsigned?_asciiLower]

end Decimal

namespace CharKind

/-- Whether a kind does not tell the cases of a letter apart. -/
def ignoresCase : CharKind → Bool
  | exactly c => !c.isAlpha
  | oneOf cs | digitOr cs => cs.all fun c => !c.isAlpha
  | letter _ | digit | blank => true

theorem contains_toLower {cs : List Char} (h : (cs.all fun c => !c.isAlpha) = true) (c : Char) :
    cs.contains c.toLower = cs.contains c := by
  induction cs with
  | nil => rfl
  | cons d cs ih =>
    simp only [List.all_cons, Bool.and_eq_true, Bool.not_eq_true'] at h
    rw [List.contains_cons, List.contains_cons, Text.toLower_beq h.1, ih h.2]

/-- A kind that ignores case accepts letters in either case. -/
theorem accepts_toLower {kind : CharKind} (h : kind.ignoresCase = true) (c : Char) :
    kind.accepts c.toLower = kind.accepts c := by
  cases kind with
  | exactly d => exact Text.toLower_beq (by simpa [ignoresCase] using h) c
  | letter d => rw [accepts, accepts, Text.sameLetter, Text.sameLetter, Text.fold_toLower]
  | digit => exact Text.isDigit_toLower c
  | blank => exact Text.isBlank_toLower c
  | oneOf cs => exact contains_toLower h c
  | digitOr cs => rw [accepts, accepts, Text.isDigit_toLower, contains_toLower h]

end CharKind

/-! ## Places and matches with small letters -/

/-- The same place in the text with small letters. -/
def Place.lower (a : Place) : Place := ⟨asciiLower a.before, asciiLower a.after⟩

/-- The same stretch with small letters. -/
def Capture.lower (c : Capture) : Capture := { c with text := asciiLower c.text }

/-- What a match has reached, with small letters. -/
def Reach.lower (r : Reach) : Reach := ⟨r.place.lower, r.captures.map Capture.lower⟩

/-- A match in the text with small letters. -/
def Match.lower (m : Match) : Match := ⟨m.start.lower, m.stop.lower⟩

namespace Place

@[simp] theorem offset_lower (a : Place) : a.lower.offset = a.offset :=
  Text.length_asciiLower a.before

@[simp] theorem upTo_lower (a b : Place) : a.lower.upTo b.lower = asciiLower (a.upTo b) := by
  rw [upTo, upTo, offset_lower, offset_lower, Text.asciiLower_take]
  rfl

@[simp] theorem atWordEdge_lower (a : Place) : a.lower.atWordEdge = a.atWordEdge := by
  rw [atWordEdge, lower, Text.head?_any_asciiLower Text.isWordChar_toLower,
    Text.head?_any_asciiLower Text.isWordChar_toLower, ← atWordEdge]

end Place

@[simp] theorem Match.length_lower (m : Match) : m.lower.length = m.length := by
  simp [Match.length, Match.lower, Reach.lower]

namespace Pattern

/-- Whether a pattern does not tell the cases of a letter apart. -/
def ignoresCase : Pattern → Bool
  | nothing | edge => true
  | one kind | many kind => kind.ignoresCase
  | both p q | either p q => p.ignoresCase && q.ignoresCase
  | capture _ p => p.ignoresCase

variable {p : Pattern}

/-- A run of characters is followed alike in either case. -/
theorem runFrom_lower {kind : CharKind} (h : kind.ignoresCase = true) (found : List Place)
    (before after : List Char) :
    runFrom kind (found.map Place.lower) (asciiLower before) (asciiLower after) =
      (runFrom kind found before after).map Place.lower := by
  induction after generalizing found before with
  | nil => rfl
  | cons c rest ih =>
    rw [Text.asciiLower_cons, runFrom, runFrom, CharKind.accepts_toLower h]
    split
    · exact ih (⟨c :: before, rest⟩ :: found) (c :: before)
    · rfl

/-- In the text with small letters, a match reaches the same places. -/
theorem reaches_lower (h : p.ignoresCase = true) (r : Reach) :
    p.reaches r.lower = (p.reaches r).map Reach.lower := by
  induction p generalizing r with
  | nothing => rfl
  | one kind =>
    obtain ⟨⟨before, after⟩, captures⟩ := r
    cases after with
    | nil => rfl
    | cons c rest =>
      simp only [reaches, Reach.lower, Place.lower, Text.asciiLower_cons,
        @CharKind.accepts_toLower kind h]
      split <;> rfl
  | many kind =>
    -- the run starts from the place it is at, which is lowered with the rest
    have hrun : runFrom kind [r.lower.place] r.lower.place.before r.lower.place.after = _ :=
      runFrom_lower h [r.place] r.place.before r.place.after
    rw [reaches, reaches, hrun, List.map_map, List.map_map]
    rfl
  | edge =>
    rw [reaches, reaches, show r.lower.place = r.place.lower from rfl, Place.atWordEdge_lower]
    split <;> rfl
  | both p q ihp ihq =>
    simp only [ignoresCase, Bool.and_eq_true] at h
    rw [reaches, reaches, ihp h.1, List.flatMap_map, List.map_flatMap]
    exact List.flatMap_congr fun e _ => ihq h.2 e
  | either p q ihp ihq =>
    simp only [ignoresCase, Bool.and_eq_true] at h
    rw [reaches, reaches, ihp h.1, ihq h.2, List.map_append]
  | capture slot p ih =>
    rw [reaches, reaches, ih h, List.map_map, List.map_map]
    refine List.map_congr_left fun e _ => ?_
    simp [Reach.lower, Capture.lower]

/-- A pattern that ignores case matches alike in either case. -/
theorem matchAt?_lower (h : p.ignoresCase = true) (before after : List Char) :
    p.matchAt? ⟨asciiLower before, asciiLower after⟩ =
      (p.matchAt? ⟨before, after⟩).map Match.lower := by
  have hreaches : p.reaches ⟨⟨asciiLower before, asciiLower after⟩, []⟩ = _ :=
    reaches_lower h ⟨⟨before, after⟩, []⟩
  rw [matchAt?, matchAt?, hreaches, List.head?_map, Option.map_map, Option.map_map]
  rfl

/-! ## Searches -/

theorem findFrom?_lower (h : p.ignoresCase = true) (before text : List Char) :
    p.findFrom? (asciiLower before) (asciiLower text) =
      (p.findFrom? before text).map Match.lower := by
  induction text generalizing before with
  | nil => exact matchAt?_lower h before []
  | cons c rest ih =>
    have hhere := matchAt?_lower h before (c :: rest)
    rw [Text.asciiLower_cons] at hhere
    rw [Text.asciiLower_cons, findFrom?, findFrom?, hhere]
    cases p.matchAt? ⟨before, c :: rest⟩ with
    | some m => rfl
    | none => exact ih (c :: before)

/-- The first match in the text with small letters. -/
theorem find?_asciiLower (h : p.ignoresCase = true) (text : List Char) :
    p.find? (asciiLower text) = (p.find? text).map Match.lower :=
  findFrom?_lower h [] text

theorem allFrom_lower (h : p.ignoresCase = true) (before text : List Char) (skip : Nat) :
    p.allFrom (asciiLower before) skip (asciiLower text) =
      (p.allFrom before skip text).map Match.lower := by
  induction text generalizing before skip with
  | nil =>
    cases skip with
    | zero =>
      have hhere := matchAt?_lower h before []
      rw [Text.asciiLower_nil] at hhere
      rw [Text.asciiLower_nil, allFrom, allFrom, hhere]
      cases p.matchAt? ⟨before, []⟩ <;> rfl
    | succ skip => rfl
  | cons c rest ih =>
    cases skip with
    | zero =>
      -- a match and its lowered form are as long, so that both searches pass over the same
      -- characters
      have hhere := matchAt?_lower h before (c :: rest)
      rw [Text.asciiLower_cons] at hhere
      rw [Text.asciiLower_cons, allFrom, allFrom, hhere]
      cases p.matchAt? ⟨before, c :: rest⟩ with
      | some m =>
        simp only [Option.map_some, List.map_cons, Match.length_lower]
        rw [← Text.asciiLower_cons, ih]
      | none => exact ih (c :: before) 0
    | succ skip => exact ih (c :: before) skip

/-- All matches in the text with small letters. -/
theorem all_asciiLower (h : p.ignoresCase = true) (text : List Char) :
    p.all (asciiLower text) = (p.all text).map Match.lower :=
  allFrom_lower h [] text 0

/-- Replacements are made alike in either case. -/
theorem replaceFrom_lower (h : p.ignoresCase = true) (by_ before text : List Char) (skip : Nat) :
    p.replaceFrom (asciiLower by_) (asciiLower before) skip (asciiLower text) =
      asciiLower (p.replaceFrom by_ before skip text) := by
  induction text generalizing before skip with
  | nil => cases skip <;> rfl
  | cons c rest ih =>
    cases skip with
    | zero =>
      have hhere := matchAt?_lower h before (c :: rest)
      rw [Text.asciiLower_cons] at hhere
      rw [Text.asciiLower_cons, replaceFrom, replaceFrom, hhere]
      cases p.matchAt? ⟨before, c :: rest⟩ with
      | some m =>
        simp only [Option.map_some, Match.length_lower]
        rw [← Text.asciiLower_cons, ih, Text.asciiLower_append]
      | none => exact congrArg (c.toLower :: ·) (ih (c :: before) 0)
    | succ skip => exact ih (c :: before) skip

/-- Replacing all matches in the text with small letters. -/
theorem replaceAll_asciiLower (h : p.ignoresCase = true) (by_ text : List Char) :
    p.replaceAll (asciiLower by_) (asciiLower text) = asciiLower (p.replaceAll by_ text) :=
  replaceFrom_lower h by_ [] text 0

end Pattern

end AskLedger
