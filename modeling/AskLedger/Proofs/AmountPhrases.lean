import AskLedger.Proofs.SpelledRanges
import AskLedger.Question.Filter

/-!
# Phrases for bounds on the amount

A message says a bound with a word such as `over` or `less than` and a number behind it, possibly
with a currency mark in between. The filter for bounds reads the first of these phrases. Its word
tells on which side of the number the amounts have to lie, and whatever other phrases say does not
count.

* `Text.Spells`: words up to the case of their letters.
* `AmountPhrase.reads_currency`, `AmountPhrase.reads_number`: marks and numbers of amounts.
* `AmountPhrase.boundPhrases`: the phrases of a message, of which
  `AmountPhrase.isWrittenIn_of_mem_boundPhrases` shows how they are written.
* `AmountPhrase.kept_by_first_bound`: what the filter keeps.
-/

namespace AskLedger

open Text (isBlank isDigit)

/-! ## Words -/

namespace Text

/-- Whether a text is a word up to the case of its letters; the long s counts as an s and the Kelvin
sign as a k. -/
def Spells (word : String) (s : List Char) : Prop := s.map fold = word.toList.map fold

instance (word : String) (s : List Char) : Decidable (Spells word s) :=
  inferInstanceAs (Decidable (s.map fold = word.toList.map fold))

end Text

namespace Pattern

/-- A spelled pattern describes the texts that spell its word. -/
theorem describes_spelled_iff {w : String} {s : List Char} :
    (spelled w).Describes s ↔ Text.Spells w s := by
  rw [spelled, Text.Spells]
  generalize w.toList = cs
  induction cs generalizing s with
  | nil => exact (List.map_eq_nil_iff).symm
  | cons c cs ih =>
    rw [List.map_cons, describes_inOrder_cons]
    constructor
    · rintro ⟨_, b, rfl, ⟨x, rfl, hx⟩, hb⟩
      rw [List.singleton_append, List.map_cons, List.map_cons, ih.1 hb, beq_iff_eq.1 hx]
    · intro h
      cases s with
      | nil => cases h
      | cons x s =>
        obtain ⟨hx, hs⟩ := List.cons.inj h
        exact ⟨[x], s, rfl, ⟨x, rfl, beq_iff_eq.2 hx.symm⟩, ih.2 hs⟩

/-- A choice of words describes the texts that spell one of them. -/
theorem describes_oneOfWords_iff {ws : List String} {s : List Char} :
    (oneOfWords ws).Describes s ↔ ∃ w ∈ ws, Text.Spells w s := by
  simp only [oneOfWords, describes_anyOf, List.mem_map, exists_exists_and_eq_and,
    describes_spelled_iff]

/-- In front of a word at a word boundary there is no word character. -/
theorem before_of_mem_reaches {p q : Pattern} {r e : Reach} (hp : p.startsInWord = true)
    (h : e ∈ (both edge (both p q)).reaches r) :
    r.place.before.head?.any Text.isWordChar = false := by
  obtain ⟨_, ⟨rfl, hedge⟩, _, hword, -⟩ := leads_of_mem_reaches h
  exact before_of_atWordEdge hedge (after_of_startsInWord hp hword)

/-- The first of all matches is the leftmost one. -/
theorem head?_all (p : Pattern) (text : List Char) : (p.all text).head? = p.find? text := by
  suffices hfrom : ∀ before, (p.allFrom before 0 text).head? = p.findFrom? before text from hfrom []
  induction text with
  | nil =>
    intro before
    rw [allFrom, findFrom?]
    cases p.matchAt? ⟨before, []⟩ <;> rfl
  | cons c text ih =>
    intro before
    rw [allFrom, findFrom?]
    cases p.matchAt? ⟨before, c :: text⟩ with
    | some m => rfl
    | none => exact ih (c :: before)

end Pattern

namespace AmountPhrase

variable {slot n : Nat} {s : List Char} {g : List Capture}

/-! ## Marks and numbers -/

/-- Whether a text is a currency mark: `₹`, `inr`, or `rs` with or without a point. -/
def IsMark (s : List Char) : Prop :=
  Text.Spells "₹" s ∨ Text.Spells "inr" s ∨
    ∃ word, Text.Spells "rs" word ∧ (s = word ∨ s = word ++ ['.'])

/-- Whether a text is a mark with any blanks behind it or, without a mark, nothing. -/
def IsMarked : Option (List Char) → List Char → Prop
  | none, s => s = []
  | some mark, s => IsMark mark ∧ ∃ blanks, (∀ c ∈ blanks, isBlank c = true) ∧ s = mark ++ blanks

/-- Whether a text is a number of digits, of any script, with commas between or behind them and
possibly decimals behind a point. -/
def IsNumber (s : List Char) : Prop :=
  ∃ first whole fraction, s = first :: (whole ++ fraction) ∧ isDigit first = true ∧
    (∀ c ∈ whole, isDigit c = true ∨ c = ',') ∧
    (fraction = [] ∨
      ∃ digits, fraction = '.' :: digits ∧ digits ≠ [] ∧ ∀ c ∈ digits, isDigit c = true)

/-- What is remembered of a part that may be missing. -/
def remembered (slot n : Nat) (part? : Option (List Char)) : List Capture :=
  (part?.map fun s => (⟨slot, n, s⟩ : Capture)).toList

/-- A group of its own captures all of what its pattern describes. -/
theorem reads_capture {p : Pattern} (hp : p.slots = []) :
    (Pattern.capture slot p).Reads n s g ↔ p.Describes s ∧ g = [⟨slot, n, s⟩] := by
  simp only [Pattern.Reads, Pattern.reads_of_slots_eq_nil hp]
  constructor
  · rintro ⟨_, rfl, hs, rfl⟩
    exact ⟨hs, rfl⟩
  · rintro ⟨hs, rfl⟩
    exact ⟨[], rfl, hs, rfl⟩

theorem describes_mark : (Pattern.anyOf [.spelled "₹",
    .both (.spelled "rs") (.optional (.one (.exactly '.'))), .spelled "inr"]).Describes s ↔
    IsMark s := by
  have hpoint : (Pattern.both (.spelled "rs") (.optional (.one (.exactly '.')))).Describes s ↔
      ∃ word, Text.Spells "rs" word ∧ (s = word ∨ s = word ++ ['.']) := by
    simp only [Pattern.optional, Pattern.Describes, Pattern.describes_spelled_iff,
      CharKind.accepts, beq_iff_eq]
    constructor
    · rintro ⟨word, _, rfl, hword, ⟨_, rfl, rfl⟩ | rfl⟩
      · exact ⟨word, hword, .inr rfl⟩
      · exact ⟨word, hword, .inl (List.append_nil word)⟩
    · rintro ⟨word, hword, rfl | rfl⟩
      · exact ⟨s, [], (List.append_nil s).symm, hword, .inr rfl⟩
      · exact ⟨word, ['.'], rfl, hword, .inl ⟨'.', rfl, rfl⟩⟩
  simp only [Pattern.describes_anyOf, List.mem_cons, List.not_mem_nil, or_false,
    exists_eq_or_imp, exists_eq_left, Pattern.describes_spelled_iff, hpoint, IsMark]
  rw [or_comm (b := Text.Spells "inr" s)]

/-- A currency mark is remembered without the blanks behind it. -/
theorem reads_currency : (currency slot).Reads n s g ↔
    ∃ mark?, IsMarked mark? s ∧ g = remembered slot n mark? := by
  have hmark : ∀ {n s g}, (Pattern.capture slot (.anyOf [.spelled "₹",
      .both (.spelled "rs") (.optional (.one (.exactly '.'))), .spelled "inr"])).Reads n s g ↔
      IsMark s ∧ g = [⟨slot, n, s⟩] := by
    intro n s g
    rw [reads_capture (by decide), describes_mark]
  constructor
  · rintro (⟨mark, blanks, _, _, rfl, rfl, hread, hblanks, rfl⟩ | ⟨rfl, rfl⟩)
    · obtain ⟨hs, rfl⟩ := hmark.1 hread
      exact ⟨some mark, ⟨hs, blanks, hblanks, rfl⟩, rfl⟩
    · exact ⟨none, rfl, rfl⟩
  · rintro ⟨_ | mark, hs, rfl⟩
    · exact .inr ⟨hs, rfl⟩
    · obtain ⟨hs, blanks, hblanks, rfl⟩ := hs
      exact .inl ⟨mark, blanks, _, [], rfl, rfl, hmark.2 ⟨hs, rfl⟩, hblanks, rfl⟩

theorem describes_number : (Pattern.inOrder [.one .digit, .many (.digitOr [',']),
    .optional (.both (.one (.exactly '.')) (.oneOrMore .digit))]).Describes s ↔ IsNumber s := by
  simp only [Pattern.inOrder, Pattern.optional, Pattern.oneOrMore, Pattern.Describes,
    CharKind.accepts, beq_iff_eq, List.contains_iff_mem, Bool.or_eq_true, List.mem_singleton]
  constructor
  · rintro ⟨_, _, rfl, ⟨first, rfl, hfirst⟩, whole, fraction, rfl, hwhole, hfraction⟩
    refine ⟨first, whole, fraction, rfl, hfirst, hwhole, ?_⟩
    rcases hfraction with ⟨_, _, rfl, ⟨_, rfl, rfl⟩, _, digits, rfl, ⟨d, rfl, hd⟩, hdigits⟩ | hnil
    · exact .inr ⟨d :: digits, rfl, by simp, List.forall_mem_cons.2 ⟨hd, hdigits⟩⟩
    · exact .inl hnil
  · rintro ⟨first, whole, fraction, rfl, hfirst, hwhole, hfraction⟩
    refine ⟨[first], _, rfl, ⟨first, rfl, hfirst⟩, whole, fraction, rfl, hwhole, ?_⟩
    rcases hfraction with hnil | ⟨digits, rfl, hne, hdigits⟩
    · exact .inr hnil
    · obtain ⟨d, digits, rfl⟩ := List.exists_cons_of_ne_nil hne
      obtain ⟨hd, hdigits⟩ := List.forall_mem_cons.1 hdigits
      exact .inl ⟨['.'], _, rfl, ⟨'.', rfl, rfl⟩, [d], digits, rfl, ⟨d, rfl, hd⟩, hdigits⟩

/-- A number is captured as a whole. -/
theorem reads_number : (number slot).Reads n s g ↔ IsNumber s ∧ g = [⟨slot, n, s⟩] := by
  rw [number, reads_capture (by decide), describes_number]

/-! ## Bounds -/

/-- The words that ask for amounts above a number. -/
def aboveWords : List String := ["more than", "greater than", "above", "over"]

/-- The words that ask for amounts below a number. -/
def belowWords : List String := ["less than", "below", "under"]

/-- A phrase for a bound. -/
structure BoundPhrase where
  /-- Its word. -/
  word : List Char
  /-- Its number, as it is written. -/
  number : List Char
  deriving DecidableEq

namespace BoundPhrase

/-- Whether the word of a phrase asks for amounts above its number. -/
def IsAbove (p : BoundPhrase) : Prop := ∃ w ∈ aboveWords, Text.Spells w p.word

instance (p : BoundPhrase) : Decidable p.IsAbove :=
  inferInstanceAs (Decidable (∃ w ∈ aboveWords, Text.Spells w p.word))

/-- Whether the word of a phrase asks for amounts below its number. -/
def IsBelow (p : BoundPhrase) : Prop := ∃ w ∈ belowWords, Text.Spells w p.word

instance (p : BoundPhrase) : Decidable p.IsBelow :=
  inferInstanceAs (Decidable (∃ w ∈ belowWords, Text.Spells w p.word))

/-- The number of a phrase, if it can be read. -/
def limit? (p : BoundPhrase) : Option Float := read? p.number

/-- Whether an amount lies strictly on the side of a number that the word of a phrase asks for. -/
def Allows (p : BoundPhrase) (limit amount : Float) : Prop :=
  (p.IsAbove → limit < amount) ∧ (p.IsBelow → amount < limit)

instance (p : BoundPhrase) (limit amount : Float) : Decidable (p.Allows limit amount) :=
  inferInstanceAs (Decidable (_ ∧ _))

/-- Whether an amount satisfies a phrase. A number that cannot be read rules nothing out. -/
def IsMetBy (p : BoundPhrase) (amount : Float) : Prop :=
  ∀ limit ∈ p.limit?, p.Allows limit amount

/-- Whether a phrase stands in a text, its word at a word boundary and its number behind it, with at
most blanks and a currency mark in between. -/
def IsWrittenIn (p : BoundPhrase) (text : List Char) : Prop :=
  ∃ front blanks mark? mark back,
    text = front ++ (p.word ++ (blanks ++ (mark ++ (p.number ++ back)))) ∧
    front.getLast?.any Text.isWordChar = false ∧ (p.IsAbove ∨ p.IsBelow) ∧
    (∀ c ∈ blanks, isBlank c = true) ∧ IsMarked mark? mark ∧ IsNumber p.number

/-- No word asks for both. -/
theorem not_isBelow_of_isAbove {p : BoundPhrase} (h : p.IsAbove) : ¬p.IsBelow := by
  have hdiffer : ∀ w ∈ aboveWords, ∀ w' ∈ belowWords,
      w.toList.map Text.fold ≠ w'.toList.map Text.fold := by
    decide
  rintro ⟨w', hw', hs'⟩
  obtain ⟨w, hw, hs⟩ := h
  exact hdiffer w hw w' hw' (hs.symm.trans hs')

end BoundPhrase

/-- What a match of the pattern for bounds says: the word remembered under 1 or 2 and the number
remembered under 4. -/
def BoundPhrase.ofMatch (m : Match) : BoundPhrase :=
  ⟨if m.has 1 then m.group 1 else m.group 2, m.group 4⟩

/-- The phrases for bounds in a message, from left to right. -/
def boundPhrases (text : List Char) : List BoundPhrase :=
  (bound.all text).map .ofMatch

/-- The pattern for bounds reads a word, blanks, a mark and a number, and remembers on which side of
the number the word asks for amounts. -/
theorem parts_of_reads_bound (h : bound.Reads n s g) :
    ∃ slot word blanks mark? mark digits, s = word ++ (blanks ++ (mark ++ digits)) ∧
      (slot = 1 ∧ (∃ w ∈ aboveWords, Text.Spells w word) ∨
        slot = 2 ∧ ∃ w ∈ belowWords, Text.Spells w word) ∧
      (∀ c ∈ blanks, isBlank c = true) ∧ IsMarked mark? mark ∧ IsNumber digits ∧
      g = ⟨4, n + word.length + blanks.length + mark.length, digits⟩ ::
        (remembered 3 (n + word.length + blanks.length) mark? ++ [⟨slot, n, word⟩]) := by
  obtain ⟨_, _, _, _, rfl, rfl, ⟨rfl, rfl⟩, word, _, _, _, rfl, rfl, hword, blanks, _, _, _, rfl,
    rfl, ⟨hblanks, rfl⟩, mark, digits, _, _, rfl, rfl, hmark, hdigits⟩ := h
  obtain ⟨mark?, hmarked, rfl⟩ := reads_currency.1 hmark
  obtain ⟨hnumber, rfl⟩ := reads_number.1 hdigits
  rcases hword with hword | hword
  all_goals
    rw [reads_capture (by decide), Pattern.describes_oneOfWords_iff] at hword
    obtain ⟨hword, rfl⟩ := hword
  · exact ⟨1, word, blanks, mark?, mark, digits, rfl, .inl ⟨rfl, hword⟩, hblanks, hmarked, hnumber,
      by simp⟩
  · exact ⟨2, word, blanks, mark?, mark, digits, rfl, .inr ⟨rfl, hword⟩, hblanks, hmarked, hnumber,
      by simp⟩

/-- What a match of the pattern for bounds says is a phrase in the text. A word is remembered
under 1 exactly if it asks for amounts above the number. -/
theorem isWrittenIn_ofMatch {text : List Char} {m : Match} (hwhole : m.start.whole = text)
    (h : m.stop ∈ bound.reaches ⟨m.start, []⟩) :
    (BoundPhrase.ofMatch m).IsWrittenIn text ∧
      (m.has 1 = true ↔ (BoundPhrase.ofMatch m).IsAbove) := by
  have hbefore := Pattern.before_of_mem_reaches (by decide +kernel) h
  obtain ⟨s, g, hreads, hafter, -, hcaptures⟩ := Pattern.reads_of_mem_reaches h
  obtain ⟨slot, word, blanks, mark?, mark, digits, rfl, hslot, hblanks, hmarked, hnumber, rfl⟩ :=
    parts_of_reads_bound hreads
  have hnumberGroup : m.group 4 = digits := by
    rw [Match.group, Match.capture?, hcaptures]
    rfl
  -- the two kinds of bound have a slot each, which tells them apart
  have hwordGroup : (if m.has 1 then m.group 1 else m.group 2) = word ∧
      (m.has 1 = true ↔ slot = 1) := by
    rcases hslot with ⟨rfl, -⟩ | ⟨rfl, -⟩ <;>
      cases mark? <;> simp [Match.has, Match.group, Match.capture?, hcaptures, remembered]
  have hphrase : BoundPhrase.ofMatch m = ⟨word, digits⟩ := by
    rw [BoundPhrase.ofMatch, hnumberGroup, hwordGroup.1]
  rw [hphrase, hwordGroup.2]
  constructor
  · refine ⟨m.start.before.reverse, blanks, mark?, mark, m.stop.place.after, ?_,
      by rwa [List.getLast?_reverse], hslot.imp And.right And.right, hblanks, hmarked, hnumber⟩
    rw [← hwhole, Place.whole, hafter]
    simp
  · rcases hslot with ⟨rfl, hword⟩ | ⟨rfl, hword⟩
    · exact iff_of_true rfl hword
    · exact iff_of_false (by decide) fun h => BoundPhrase.not_isBelow_of_isAbove h hword

/-- The bound that a message states is that of its first phrase, if its number can be read. -/
theorem bound?_eq (text : List Char) : bound? text =
    (boundPhrases text).head?.bind fun p => p.limit?.map fun limit => ⟨p.IsAbove, limit⟩ := by
  rw [bound?, boundPhrases, List.head?_map, Pattern.head?_all]
  cases hm : bound.find? text with
  | none => rfl
  | some m =>
    obtain ⟨hwhole, hstop⟩ := Pattern.mem_reaches_of_find? hm
    have habove : m.has 1 = decide (BoundPhrase.ofMatch m).IsAbove := by
      rw [Bool.eq_iff_iff, decide_eq_true_iff]
      exact (isWrittenIn_ofMatch hwhole hstop).2
    rw [Option.bind_some, Option.map_some, Option.bind_some, habove]
    rfl

/-- Every bound that is found is written in the text. -/
theorem isWrittenIn_of_mem_boundPhrases {text : List Char} {p : BoundPhrase}
    (h : p ∈ boundPhrases text) : p.IsWrittenIn text := by
  obtain ⟨m, hm, rfl⟩ := List.mem_map.1 h
  obtain ⟨hwhole, hstop⟩ := Pattern.mem_reaches_of_mem_all hm
  exact (isWrittenIn_ofMatch hwhole hstop).1

/-- A bound allows the amounts that the word of its phrase asks for. -/
theorem allows_iff {p : BoundPhrase} {limit amount : Float} (h : p.IsAbove ∨ p.IsBelow) :
    Bound.allows ⟨p.IsAbove, limit⟩ amount = true ↔ p.Allows limit amount := by
  rw [Bound.allows, BoundPhrase.Allows]
  by_cases habove : p.IsAbove
  · simp [habove, BoundPhrase.not_isBelow_of_isAbove habove]
  · simp [habove, h.resolve_left habove]

/-- The stage keeps the entries within the bound that is read, if there is one. -/
theorem keep?_amountBound (text : List Char) (now : Moment) (input : List Entry) :
    Filter.amountBound.keep? text now input =
      (bound? text).map fun b => input.filter fun e => b.allows e.amount := by
  rw [Filter.keep?, Filter.amountBound, Option.map_map]
  rfl

/-- The filter for bounds goes by the first phrase of a message. It keeps the entries whose amounts
lie strictly on the side of its number that its word asks for. So entries that satisfy all phrases
are kept, but those that are kept need to satisfy other phrases only if there are none. Without
a phrase, or if the number of the first one cannot be read, the filter does nothing, whatever the
others say. -/
theorem kept_by_first_bound (text : List Char) (now : Moment) (input : List Entry) :
    (∀ p ∈ boundPhrases text, p.IsWrittenIn text) ∧
    (Filter.amountBound.keep? text now input = none ↔
      ∀ p ∈ (boundPhrases text).head?, p.limit? = none) ∧
    ∀ kept, Filter.amountBound.keep? text now input = some kept →
      ∃ p others limit, boundPhrases text = p :: others ∧ p.limit? = some limit ∧
        kept = input.filter (fun e => decide (p.Allows limit e.amount)) ∧
        (∀ e ∈ input, (∀ q ∈ boundPhrases text, q.IsMetBy e.amount) → e ∈ kept) ∧
        (others = [] → ∀ e ∈ kept, ∀ q ∈ boundPhrases text, q.IsMetBy e.amount) := by
  refine ⟨fun p => isWrittenIn_of_mem_boundPhrases, ?_, ?_⟩
  · rw [keep?_amountBound, Option.map_eq_none_iff, bound?_eq]
    simp
  · intro kept hkept
    rw [keep?_amountBound, bound?_eq] at hkept
    obtain ⟨b, hb, rfl⟩ := Option.map_eq_some_iff.1 hkept
    obtain ⟨p, hp, hread⟩ := Option.bind_eq_some_iff.1 hb
    obtain ⟨limit, hlimit, rfl⟩ := Option.map_eq_some_iff.1 hread
    obtain ⟨others, hphrases⟩ : ∃ others, boundPhrases text = p :: others :=
      List.head?_eq_some_iff.1 hp
    -- the bound is read off the first phrase, whatever phrases follow
    have hmem : p ∈ boundPhrases text := List.mem_of_head? hp
    obtain ⟨-, -, -, -, -, -, -, hword, -⟩ := isWrittenIn_of_mem_boundPhrases hmem
    have hallows : ∀ e : Entry, (Bound.allows ⟨p.IsAbove, limit⟩ e.amount = true) ↔
        p.Allows limit e.amount := fun e => allows_iff hword
    refine ⟨p, others, limit, hphrases, hlimit, ?_, ?_, ?_⟩
    · exact List.filter_congr fun e _ => by rw [Bool.eq_iff_iff, hallows, decide_eq_true_iff]
    · intro e he hall
      exact List.mem_filter.2 ⟨he, (hallows e).2 (hall p hmem limit hlimit)⟩
    · rintro rfl e he q hq l hl
      obtain rfl : q = p := List.mem_singleton.1 (hphrases ▸ hq)
      obtain rfl : limit = l := Option.some.inj (hlimit.symm.trans hl)
      exact (hallows e).1 (List.mem_filter.1 he).2

/-- A message with two phrases. -/
def overAndUnder : List Char := "over Rs. 100 but under 500".toList

/-- Two bounds in one message. -/
theorem boundPhrases_overAndUnder : boundPhrases overAndUnder =
    [⟨"over".toList, "100".toList⟩, ⟨"under".toList, "500".toList⟩] := by
  decide +kernel

theorem limit?_over : BoundPhrase.limit? ⟨"over".toList, "100".toList⟩ = some 100 := by
  decide +kernel

theorem limit?_under : BoundPhrase.limit? ⟨"under".toList, "500".toList⟩ = some 500 := by
  decide +kernel

/-- An expense of some amount. -/
def spent (amount : Float) : Entry where
  id := "spent"
  date := .startOf ⟨2025, 7, 9, by decide⟩
  amount := amount
  direction := .expense

/-- An amount between the two numbers satisfies both phrases, and an entry of it is kept. -/
theorem between_both_is_kept (now : Moment) :
    (∀ q ∈ boundPhrases overAndUnder, q.IsMetBy 300) ∧
    ∃ kept, Filter.amountBound.keep? overAndUnder now [spent 700, spent 300, spent 50] =
      some kept ∧ spent 300 ∈ kept := by
  have hboth : ∀ q ∈ boundPhrases overAndUnder, q.IsMetBy 300 := by
    rw [boundPhrases_overAndUnder]
    simp only [List.forall_mem_cons, List.not_mem_nil, false_implies, implies_true, and_true]
    constructor
    · intro limit hlimit
      obtain rfl := Option.some.inj (limit?_over.symm.trans hlimit)
      decide +kernel
    · intro limit hlimit
      obtain rfl := Option.some.inj (limit?_under.symm.trans hlimit)
      decide +kernel
  obtain ⟨-, hnone, hsome⟩ := kept_by_first_bound overAndUnder now [spent 700, spent 300, spent 50]
  refine ⟨hboth, ?_⟩
  cases hkeep : Filter.amountBound.keep? overAndUnder now [spent 700, spent 300, spent 50] with
  | none =>
    have hread := hnone.1 hkeep _ (by rw [boundPhrases_overAndUnder]; rfl)
    rw [limit?_over] at hread
    cases hread
  | some kept =>
    obtain ⟨-, -, -, -, -, -, hall, -⟩ := hsome kept hkeep
    exact ⟨kept, rfl, hall _ (by simp) hboth⟩

/-- An amount above both numbers does not satisfy the second phrase, but is kept as well. -/
theorem later_phrase_does_not_count :
    ¬ ∀ (text : List Char) (now : Moment) (input kept : List Entry),
      Filter.amountBound.keep? text now input = some kept →
      (∀ e ∈ kept, ∀ q ∈ boundPhrases text, q.IsMetBy e.amount) ∧
        ∀ e ∈ input, (∀ q ∈ boundPhrases text, q.IsMetBy e.amount) → e ∈ kept := by
  intro hall
  have hkeep : Filter.amountBound.keep? overAndUnder (spent 700).date [spent 700] =
      some [spent 700] := by
    rw [keep?_amountBound, bound?_eq, boundPhrases_overAndUnder, List.head?_cons, Option.bind_some,
      limit?_over]
    rfl
  have hmet := (hall _ _ _ _ hkeep).1 (spent 700) List.mem_cons_self
    ⟨"under".toList, "500".toList⟩ (by rw [boundPhrases_overAndUnder]; simp) 500 limit?_under
  exact absurd (hmet.2 (by decide)) (by decide +kernel)

end AmountPhrase

end AskLedger
