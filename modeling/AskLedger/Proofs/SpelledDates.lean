import Mathlib.Algebra.Group.Nat.Defs
import AskLedger.Proofs.OverlookedDates
import AskLedger.Proofs.PatternGroups

/-!
# Spelled dates

A date is spelled as its day, month and year with hyphens or slashes between them, or as an ISO
date. Both are three runs of digits with a mark between each two, and such runs can be told apart
wherever they stand, so the date patterns read exactly these runs and remember them.

* `Date.IsSpelled`, `Date.IsSpelledIso`: the spellings of a date.
* `DigitRuns`: three runs of digits, of which `DigitRuns.text_inj` shows that they can be told
  apart.
* `DatePhrase.matchAt?_numericDate`, `DatePhrase.matchAt?_isoDate`: what a match remembers of them.
* `DatePhrase.readNumericDate?_eq_some_iff`: a numeric date stands for a date exactly if it is one
  of its spellings.
* `DatePhrase.find?_spelled`, `DatePhrase.find?_spelledIso`: a spelled date on its own.
-/

namespace AskLedger

open Decimal (numeral length_numeral_le)
open Text (isWordChar)

/-! ## Spellings -/

/-- The spellings of a day or a month: as it is or, below ten, with a zero in front. -/
def shortForms (n : Nat) : List (List Char) := [numeral n, (padded 2 n).toList]

/-- The spellings of a year: four digits for those from 0 to 9999 and, for those from 2000 to 2099,
the last two of them. -/
def yearForms (year : Int) : List (List Char) :=
  (if 0 ≤ year ∧ year ≤ 9999 then [(padded 4 year.natAbs).toList] else []) ++
    if 2000 ≤ year ∧ year ≤ 2099 then [(padded 2 (year.natAbs - 2000)).toList] else []

/-- The marks between the parts of a date. -/
def dateMarks : List Char := ['-', '/']

namespace Date

/-- Whether a text spells a date as its day, its month and its year. -/
def IsSpelled (d : Date) (s : List Char) : Prop :=
  ∃ day ∈ shortForms d.day, ∃ month ∈ shortForms d.month, ∃ year ∈ yearForms d.year,
    ∃ c ∈ dateMarks, ∃ c' ∈ dateMarks, s = day ++ c :: (month ++ c' :: year)

/-- Whether a text spells a date in the order of ISO dates, with a year of four digits. -/
def IsSpelledIso (d : Date) (s : List Char) : Prop :=
  (0 ≤ d.year ∧ d.year ≤ 9999) ∧ ∃ month ∈ shortForms d.month, ∃ day ∈ shortForms d.day,
    s = (padded 4 d.year.natAbs).toList ++ '-' :: (month ++ '-' :: day)

end Date

/-! ## Runs of digits -/

/-- Three runs of digits, of any script, with a mark between each two. -/
structure DigitRuns where
  /-- The run in front of the first mark. -/
  first : List Char
  /-- The run between the marks. -/
  second : List Char
  /-- The run behind the second mark. -/
  third : List Char
  /-- The first mark. -/
  mark : Char
  /-- The second mark. -/
  mark' : Char
  /-- The runs are digits. -/
  areDigits : (∀ c ∈ first, Text.isDigit c = true) ∧ (∀ c ∈ second, Text.isDigit c = true) ∧
    ∀ c ∈ third, Text.isDigit c = true
  /-- The marks are those of dates. -/
  areMarks : mark ∈ dateMarks ∧ mark' ∈ dateMarks

/-- The marks between the numbers of a date are no digits. -/
theorem isDigit_of_mem_dateMarks : ∀ c ∈ dateMarks, Text.isDigit c = false :=
  Text.forall_of_all (by decide)

namespace DigitRuns

variable (r : DigitRuns)

/-- The runs with their marks. -/
def text : List Char := r.first ++ r.mark :: (r.second ++ r.mark' :: r.third)

/-- What is remembered of the runs behind `n` characters, latest first. -/
def captures (n : Nat) : List Capture :=
  [⟨3, n + r.first.length + 1 + r.second.length + 1, r.third⟩,
    ⟨2, n + r.first.length + 1, r.second⟩, ⟨1, n, r.first⟩]

/-- Whether the runs are as long as those of a numeric date. -/
def IsNumeric : Prop :=
  (r.first.length = 1 ∨ r.first.length = 2) ∧ (r.second.length = 1 ∨ r.second.length = 2) ∧
    (r.third.length = 4 ∨ r.third.length = 2)

/-- Whether the runs are as long as those of an ISO date, and the marks are hyphens. -/
def IsIso : Prop :=
  r.first.length = 4 ∧ (r.second.length = 1 ∨ r.second.length = 2) ∧
    (r.third.length = 1 ∨ r.third.length = 2) ∧ r.mark = '-' ∧ r.mark' = '-'

variable {r} {r' : DigitRuns} {rest rest' : List Char}

/-- Runs that no word character follows can be told apart wherever they stand. -/
theorem text_inj (hrest : rest.head?.any isWordChar = false)
    (hrest' : rest'.head?.any isWordChar = false) (h : r.text ++ rest = r'.text ++ rest') :
    r = r' ∧ rest = rest' := by
  have hmark : ∀ {c : Char} {s : List Char}, c ∈ dateMarks →
      (c :: s).head?.any Text.isDigit = false :=
    fun hc => isDigit_of_mem_dateMarks _ hc
  obtain ⟨first, second, third, mark, mark', ⟨hfirst, hsecond, hthird⟩, hmarks⟩ := r
  obtain ⟨first', second', third', mark₁, mark₁', ⟨hfirst', hsecond', hthird'⟩, hmarks'⟩ := r'
  simp only [text, List.append_assoc, List.cons_append] at h
  obtain ⟨rfl, h₁⟩ := Text.run_inj hfirst (hmark hmarks.1) hfirst' (hmark hmarks'.1) h
  obtain ⟨rfl, h₂⟩ := List.cons.inj h₁
  obtain ⟨rfl, h₃⟩ := Text.run_inj hsecond (hmark hmarks.2) hsecond' (hmark hmarks'.2) h₂
  obtain ⟨rfl, h₄⟩ := List.cons.inj h₃
  obtain ⟨rfl, h₅⟩ := Text.run_inj hthird (Text.any_isDigit_of_not_isWordChar hrest) hthird'
    (Text.any_isDigit_of_not_isWordChar hrest') h₄
  exact ⟨rfl, h₅⟩

/-- The runs of digits are determined by the text. -/
theorem eq_of_text_eq (h : r.text = r'.text) : r = r' :=
  (@text_inj r r' [] [] rfl rfl (by rw [h])).1

/-- Neither digits nor marks are blank. -/
theorem isBlank_of_mem_text {c : Char} (h : c ∈ r.text) : Text.isBlank c = false := by
  have hmark : ∀ c ∈ dateMarks, Text.isBlank c = false := Text.forall_of_all (by decide)
  obtain ⟨hfirst, hsecond, hthird⟩ := r.areDigits
  simp only [text, List.mem_append, List.mem_cons] at h
  rcases h with h | rfl | h | rfl | h
  · exact Text.not_isBlank_of_isDigit (hfirst c h)
  · exact hmark _ r.areMarks.1
  · exact Text.not_isBlank_of_isDigit (hsecond c h)
  · exact hmark _ r.areMarks.2
  · exact Text.not_isBlank_of_isDigit (hthird c h)

section
variable {m : Match} {n : Nat} (h : m.stop.captures = r.captures n)
include h

/-- Each run is remembered under its own number. -/
theorem groups_of_captures : m.group 1 = r.first ∧ m.group 2 = r.second ∧ m.group 3 = r.third := by
  simp [Match.group, Match.capture?, h, captures]

end

end DigitRuns

namespace DatePhrase

variable {s : List Char} {g : List Capture} {n : Nat}

/-! ## What the patterns describe -/

/-- Characters of one kind, exactly so many. -/
theorem describes_exactly {kind : CharKind} {k : Nat} :
    (Pattern.exactly k kind).Describes s ↔ s.length = k ∧ ∀ c ∈ s, kind.accepts c = true := by
  induction k generalizing s with
  | zero =>
    constructor
    · rintro rfl
      simp
    · rintro ⟨hs, -⟩
      exact List.length_eq_zero_iff.1 hs
  | succ k ih =>
    -- the pattern for one character is that character alone, not that character and nothing behind
    -- it
    have hboth : (Pattern.exactly (k + 1) kind).Describes s ↔
        ∃ a b, s = a ++ b ∧ (∃ c, a = [c] ∧ kind.accepts c = true) ∧
          (Pattern.exactly k kind).Describes b := by
      cases k with
      | zero =>
        constructor
        · intro h
          exact ⟨s, [], by simp, h, rfl⟩
        · rintro ⟨a, _, rfl, h, rfl⟩
          rw [List.append_nil]
          exact h
      | succ k => rfl
    rw [hboth]
    constructor
    · rintro ⟨_, b, rfl, ⟨c, rfl, hc⟩, hb⟩
      obtain ⟨rfl, hall⟩ := ih.1 hb
      exact ⟨by simp, List.forall_mem_cons.2 ⟨hc, hall⟩⟩
    · rintro ⟨hlength, hall⟩
      obtain ⟨c, b, rfl⟩ := List.exists_cons_of_length_eq_add_one hlength
      obtain ⟨hc, hall⟩ := List.forall_mem_cons.1 hall
      exact ⟨[c], b, rfl, ⟨c, rfl, hc⟩, ih.2 ⟨by simpa using hlength, hall⟩⟩

/-- A short number is one or two digits. -/
theorem describes_shortNumber : shortNumber.Describes s ↔
    (s.length = 1 ∨ s.length = 2) ∧ ∀ c ∈ s, Text.isDigit c = true := by
  constructor
  · rintro ⟨_, _, rfl, ⟨c, rfl, hc⟩, ⟨d, rfl, hd⟩ | rfl⟩
    · exact ⟨.inr rfl, by simpa [CharKind.accepts] using ⟨hc, hd⟩⟩
    · exact ⟨.inl rfl, by simpa [CharKind.accepts] using hc⟩
  · rintro ⟨hlength | hlength, hall⟩
    · obtain ⟨c, rfl⟩ := List.length_eq_one_iff.1 hlength
      exact ⟨[c], [], rfl, ⟨c, rfl, hall c List.mem_cons_self⟩, .inr rfl⟩
    · obtain ⟨c, d, rfl⟩ := List.length_eq_two.1 hlength
      have hd := hall d (List.mem_cons_of_mem c List.mem_cons_self)
      exact ⟨[c], [d], rfl, ⟨c, rfl, hall c List.mem_cons_self⟩, .inl ⟨d, rfl, hd⟩⟩

/-- The digits of a year are two or four. -/
theorem describes_yearDigits : yearDigits.Describes s ↔
    (s.length = 4 ∨ s.length = 2) ∧ ∀ c ∈ s, Text.isDigit c = true := by
  have heither : yearDigits.Describes s ↔ (Pattern.exactly 4 .digit).Describes s ∨
      (Pattern.exactly 2 .digit).Describes s := Iff.rfl
  rw [heither, describes_exactly, describes_exactly, or_and_right]
  rfl

theorem describes_separator : separator.Describes s ↔ ∃ c ∈ dateMarks, s = [c] := by
  constructor
  · rintro ⟨c, rfl, hc⟩
    exact ⟨c, by simpa [CharKind.accepts, dateMarks] using hc, rfl⟩
  · rintro ⟨c, hc, rfl⟩
    exact ⟨c, rfl, by simpa [CharKind.accepts, dateMarks] using hc⟩

/-- A numeric date is read as runs of its lengths, which are remembered. -/
theorem reads_numericDate : numericDate.Reads n s g ↔
    ∃ r : DigitRuns, r.IsNumeric ∧ s = r.text ∧ g = r.captures n := by
  have hshort : shortNumber.slots = [] := rfl
  have hmark : separator.slots = [] := rfl
  have hyear : yearDigits.slots = [] := rfl
  simp only [numericDate, Pattern.reads_whole, Pattern.inOrder, Pattern.Reads,
    Pattern.reads_of_slots_eq_nil hshort, Pattern.reads_of_slots_eq_nil hmark,
    Pattern.reads_of_slots_eq_nil hyear, describes_shortNumber, describes_separator,
    describes_yearDigits]
  constructor
  · rintro ⟨a, _, _, _, rfl, rfl, ⟨_, rfl, ⟨ha, hda⟩, rfl⟩, _, _, _, _, rfl, rfl,
      ⟨⟨c, hc, rfl⟩, rfl⟩, b, _, _, _, rfl, rfl, ⟨_, rfl, ⟨hb, hdb⟩, rfl⟩, _, _, _, _, rfl, rfl,
      ⟨⟨c', hc', rfl⟩, rfl⟩, _, rfl, ⟨hy, hdy⟩, rfl⟩
    exact ⟨⟨a, b, _, c, c', ⟨hda, hdb, hdy⟩, hc, hc'⟩, ⟨ha, hb, hy⟩, rfl, rfl⟩
  · rintro ⟨⟨a, b, y, c, c', ⟨hda, hdb, hdy⟩, hc, hc'⟩, ⟨ha, hb, hy⟩, rfl, rfl⟩
    exact ⟨a, _, _, _, rfl, rfl, ⟨_, rfl, ⟨ha, hda⟩, rfl⟩, [c], _, _, _, rfl, rfl,
      ⟨⟨c, hc, rfl⟩, rfl⟩, b, _, _, _, rfl, rfl, ⟨_, rfl, ⟨hb, hdb⟩, rfl⟩, [c'], _, _, _, rfl, rfl,
      ⟨⟨c', hc', rfl⟩, rfl⟩, _, rfl, ⟨hy, hdy⟩, rfl⟩

/-- So is an ISO date. -/
theorem reads_isoDate : isoDate.Reads n s g ↔
    ∃ r : DigitRuns, r.IsIso ∧ s = r.text ∧ g = r.captures n := by
  have hshort : shortNumber.slots = [] := rfl
  have hyear : (Pattern.exactly 4 .digit).slots = [] := rfl
  simp only [isoDate, Pattern.reads_whole, Pattern.inOrder, Pattern.Reads,
    Pattern.reads_of_slots_eq_nil hshort, Pattern.reads_of_slots_eq_nil hyear,
    describes_shortNumber, describes_exactly, CharKind.accepts, beq_iff_eq]
  constructor
  · rintro ⟨y, _, _, _, rfl, rfl, ⟨_, rfl, ⟨hy, hdy⟩, rfl⟩, _, _, _, _, rfl, rfl,
      ⟨⟨_, rfl, rfl⟩, rfl⟩, a, _, _, _, rfl, rfl, ⟨_, rfl, ⟨ha, hda⟩, rfl⟩, _, _, _, _, rfl, rfl,
      ⟨⟨_, rfl, rfl⟩, rfl⟩, _, rfl, ⟨hb, hdb⟩, rfl⟩
    exact ⟨⟨y, a, _, '-', '-', ⟨hdy, hda, hdb⟩, by decide⟩, ⟨hy, ha, hb, rfl, rfl⟩, rfl, rfl⟩
  · rintro ⟨⟨y, a, b, _, _, ⟨hdy, hda, hdb⟩, _⟩, ⟨hy, ha, hb, hmark, hmark'⟩, rfl, rfl⟩
    obtain rfl : _ = '-' := hmark
    obtain rfl : _ = '-' := hmark'
    exact ⟨y, _, _, _, rfl, rfl, ⟨_, rfl, ⟨hy, hdy⟩, rfl⟩, ['-'], _, _, _, rfl, rfl,
      ⟨⟨'-', rfl, rfl⟩, rfl⟩, a, _, _, _, rfl, rfl, ⟨_, rfl, ⟨ha, hda⟩, rfl⟩, ['-'], _, _, _, rfl,
      rfl, ⟨⟨'-', rfl, rfl⟩, rfl⟩, _, rfl, ⟨hb, hdb⟩, rfl⟩

/-- A numeric date is three runs of digits with marks between them. -/
theorem describes_bareNumericDate : bareNumericDate.Describes s ↔
    ∃ r : DigitRuns, r.IsNumeric ∧ s = r.text := by
  simp only [bareNumericDate, Pattern.inOrder, Pattern.Describes, describes_shortNumber,
    describes_separator, describes_yearDigits]
  constructor
  · rintro ⟨a, _, rfl, ⟨ha, hda⟩, _, _, rfl, ⟨c, hc, rfl⟩, b, _, rfl, ⟨hb, hdb⟩, _, y, rfl,
      ⟨c', hc', rfl⟩, hy, hdy⟩
    exact ⟨⟨a, b, y, c, c', ⟨hda, hdb, hdy⟩, hc, hc'⟩, ⟨ha, hb, hy⟩, rfl⟩
  · rintro ⟨⟨a, b, y, c, c', ⟨hda, hdb, hdy⟩, hc, hc'⟩, ⟨ha, hb, hy⟩, rfl⟩
    exact ⟨a, _, rfl, ⟨ha, hda⟩, [c], _, rfl, ⟨c, hc, rfl⟩, b, _, rfl, ⟨hb, hdb⟩, [c'], y, rfl,
      ⟨c', hc', rfl⟩, hy, hdy⟩

/-! ## Matches -/

/-- A pattern that reads, between word boundaries, just the runs of some kind. -/
structure ReadsRuns (p : Pattern) (Allowed : DigitRuns → Prop) : Prop where
  /-- Word boundaries are only around it. -/
  hasNoEdge : p.hasNoEdge = true
  /-- It starts with a word character. -/
  startsInWord : p.startsInWord = true
  /-- It ends with a word character. -/
  endsInWord : p.endsInWord = true
  /-- It reads these runs and remembers each of them. -/
  reads_iff : ∀ {n s g}, (Pattern.whole p).Reads n s g ↔
    ∃ r : DigitRuns, Allowed r ∧ s = r.text ∧ g = r.captures n

/-- A numeric date captures its three runs of digits. -/
theorem readsRuns_numericDate : ReadsRuns (.inOrder [.capture 1 shortNumber, separator,
    .capture 2 shortNumber, separator, .capture 3 yearDigits]) DigitRuns.IsNumeric :=
  ⟨by decide, by decide, by decide, reads_numericDate⟩

theorem readsRuns_isoDate : ReadsRuns (.inOrder [.capture 1 (.exactly 4 .digit),
    .one (.exactly '-'), .capture 2 shortNumber, .one (.exactly '-'), .capture 3 shortNumber])
    DigitRuns.IsIso :=
  ⟨by decide, by decide, by decide, reads_isoDate⟩

namespace ReadsRuns

variable {p : Pattern} {Allowed : DigitRuns → Prop} (hp : ReadsRuns p Allowed)
include hp

/-- What a match has read. -/
theorem runs_of_matchAt? {place : Place} {m : Match}
    (h : (Pattern.whole p).matchAt? place = some m) :
    ∃ r rest, Allowed r ∧ m.text = r.text ∧ m.stop.captures = r.captures place.offset ∧
      place.after = r.text ++ rest ∧ place.before.head?.any isWordChar = false ∧
      rest.head?.any isWordChar = false := by
  obtain ⟨s, rest, hreads, hafter, htext, hstart, hplace⟩ := Pattern.reads_of_matchAt? h
  obtain ⟨r, hr, rfl, hcaptures⟩ := hp.reads_iff.1 hreads
  obtain ⟨-, hstop⟩ := Pattern.mem_reaches_of_matchAt? h
  obtain ⟨hbefore, hrest⟩ := Pattern.outside_of_leads_whole hp.startsInWord hp.endsInWord
    (Pattern.leads_of_mem_reaches hstop)
  rw [hstart] at hbefore
  rw [hplace] at hrest
  exact ⟨r, rest, hr, htext, hcaptures, hafter, hbefore, hrest⟩

/-- In front of runs of its kind it reads them. -/
theorem matchAt?_text {r : DigitRuns} {before rest : List Char} (hr : Allowed r)
    (hbefore : before.head?.any isWordChar = false) (hrest : rest.head?.any isWordChar = false) :
    ∃ m, (Pattern.whole p).matchAt? ⟨before, r.text ++ rest⟩ = some m ∧ m.text = r.text ∧
      m.stop.captures = r.captures before.length := by
  have hreads : p.Reads 0 r.text (r.captures 0) :=
    Pattern.reads_whole.1 (hp.reads_iff.2 ⟨r, hr, rfl, rfl⟩)
  have hleads := Pattern.leads_whole_of_describes hp.hasNoEdge hp.startsInWord hp.endsInWord
    (Pattern.describes_of_reads hreads) hbefore hrest
  obtain ⟨m, hm⟩ := Option.isSome_iff_exists.1 (Pattern.matchAt?_isSome_iff.2 ⟨_, hleads⟩)
  -- the match has read runs of its own, which can only be these
  obtain ⟨r', rest', -, htext, hcaptures, hafter, -, hrest'⟩ := hp.runs_of_matchAt? hm
  obtain ⟨rfl, -⟩ := DigitRuns.text_inj hrest hrest' hafter
  exact ⟨m, hm, htext, hcaptures⟩

/-- On their own such runs are found first, and as a whole. -/
theorem find?_text {r : DigitRuns} (hr : Allowed r) :
    ∃ m, (Pattern.whole p).find? r.text = some m ∧ m.text = r.text ∧
      m.stop.captures = r.captures 0 := by
  obtain ⟨m, hm, htext, hcaptures⟩ := @matchAt?_text p Allowed hp r [] [] hr rfl rfl
  rw [List.append_nil] at hm
  exact ⟨m, Pattern.findFrom?_eq_some hm, htext, hcaptures⟩

/-- A text that is a date has a match that is all of it. -/
theorem all_text {r : DigitRuns} (hr : Allowed r) :
    ∃ m others, (Pattern.whole p).all r.text = m :: others ∧ m.text = r.text := by
  obtain ⟨m, hm, htext, -⟩ := @matchAt?_text p Allowed hp r [] [] hr rfl rfl
  rw [List.append_nil] at hm
  obtain ⟨others, hall⟩ := Pattern.all_eq_cons (by simp [DigitRuns.text]) hm
  exact ⟨m, others, hall, htext⟩

end ReadsRuns

/-! ## Numbers of runs -/

/-- A number of `k` digits is below ten to the `k`. -/
theorem digitsValue_lt {s : List Char} (hs : ∀ c ∈ s, c.isDigit = true) :
    Layout.digitsValue s < 10 ^ s.length := by
  have hdigit : ∀ c : Char, c.isDigit = true → c.toNat ≤ 57 := by
    intro c hc
    simp only [Char.isDigit, ge_iff_le, Bool.and_eq_true, decide_eq_true_eq,
      UInt32.le_iff_toNat_le] at hc
    exact hc.2
  -- from the front, with the number that has been read so far
  have hfold : ∀ n, s.foldl (fun n c => n * 10 + (c.toNat - 48)) n < (n + 1) * 10 ^ s.length := by
    induction s with
    | nil => simp
    | cons c s ih =>
      intro n
      have hc := hdigit c (hs c List.mem_cons_self)
      have hrest := ih (fun d hd => hs d (List.mem_cons_of_mem c hd)) (n * 10 + (c.toNat - 48))
      have hle : (n * 10 + (c.toNat - 48) + 1) * 10 ^ s.length ≤ (n + 1) * 10 * 10 ^ s.length :=
        Nat.mul_le_mul_right _ (by omega)
      rw [List.foldl_cons, List.length_cons, Nat.pow_succ']
      rw [Nat.mul_assoc] at hle
      exact hrest.trans_le hle
  simpa [Layout.digitsValue] using hfold 0

/-- One or two digits stand for a number exactly if they are one of its forms. -/
theorem number?_eq_some_iff_short {s : List Char} {n : Nat} (hs : s.length = 1 ∨ s.length = 2)
    (hn : n < 100) : number? s = some n ↔ s ∈ shortForms n := by
  have htwo : (padded 2 n).toList.length = 2 := length_padded (length_numeral_le (by decide) hn)
  constructor
  · intro h
    obtain ⟨hdigits, hvalue⟩ := number?_eq_some h
    rcases hs with hs | hs
    · -- ten digits can be looked at one by one
      have hone : ∀ c ∈ Decimal.digits, [c] ∈ shortForms (Layout.digitsValue [c]) :=
        Text.forall_of_all (by decide)
      obtain ⟨c, rfl⟩ := List.length_eq_one_iff.1 hs
      exact hvalue ▸ hone c (Decimal.mem_digits_of_isDigit (hdigits c List.mem_cons_self))
    · have heq : s = (padded 2 n).toList :=
        Decimal.eq_of_digitsValue (by rw [hs, htwo]) hdigits isDigit_of_mem_padded
          (by rw [hvalue, digitsValue_padded])
      rw [heq]
      exact List.mem_cons_of_mem _ List.mem_cons_self
  · intro h
    have hlimit : n ≤ 4294967295 := by omega
    have hnumeral : number? (numeral n) = some n := Decimal.natUpTo?_numeral hlimit
    simp only [shortForms, List.mem_cons, List.not_mem_nil, or_false] at h
    rcases h with h | h
    · rw [h, hnumeral]
    · rw [h, number?_padded hlimit]

/-- Four or two digits stand for a year exactly if they are one of its forms. -/
theorem number?_eq_some_iff_year {s : List Char} {year : Int} (hs : s.length = 4 ∨ s.length = 2) :
    (∃ y : Nat, number? s = some y ∧ (if s.length = 2 then (y : Int) + 2000 else y) = year) ↔
      s ∈ yearForms year := by
  have hwidth : ∀ {k n : Nat}, 0 < k → n < 10 ^ k → (padded k n).toList.length = k :=
    fun hk hn => length_padded (length_numeral_le hk hn)
  constructor
  · rintro ⟨y, hy, hyear⟩
    obtain ⟨hdigits, hvalue⟩ := number?_eq_some hy
    have hlt := digitsValue_lt hdigits
    rw [hvalue] at hlt
    -- among the texts of a length, the number has one form
    have hpadded : ∀ {k}, 0 < k → s.length = k → s = (padded k y).toList := by
      intro k hk hlength
      refine Decimal.eq_of_digitsValue ?_ hdigits isDigit_of_mem_padded
        (by rw [hvalue, digitsValue_padded])
      rw [hlength, hwidth hk (hlength ▸ hlt)]
    rcases hs with hs | hs
    · rw [hs] at hlt
      rw [hs, if_neg (by decide)] at hyear
      have hrange : 0 ≤ year ∧ year ≤ 9999 := by omega
      have hwhole : year.natAbs = y := by omega
      rw [yearForms, if_pos hrange, hwhole, hpadded (by decide) hs]
      exact List.mem_append_left _ List.mem_cons_self
    · rw [hs] at hlt
      rw [hs, if_pos rfl] at hyear
      have hrange : 2000 ≤ year ∧ year ≤ 2099 := by omega
      have hlast : year.natAbs - 2000 = y := by omega
      rw [yearForms, if_pos hrange, hlast, hpadded (by decide) hs]
      exact List.mem_append_right _ List.mem_cons_self
  · intro h
    rw [yearForms, List.mem_append] at h
    rcases h with h | h
    · split at h
      · next hrange =>
        have hs : s = (padded 4 year.natAbs).toList := List.mem_singleton.1 h
        refine ⟨year.natAbs, by rw [hs, number?_padded (by omega)], ?_⟩
        rw [hs, hwidth (by decide) (by omega), if_neg (by decide)]
        omega
      · cases h
    · split at h
      · next hrange =>
        have hs : s = (padded 2 (year.natAbs - 2000)).toList := List.mem_singleton.1 h
        refine ⟨year.natAbs - 2000, by rw [hs, number?_padded (by omega)], ?_⟩
        rw [hs, hwidth (by decide) (by omega), if_pos rfl]
        omega
      · cases h

/-! ## Dates of runs -/

theorem ofCivil?_eq_some_iff {y : Int} {m d : Nat} {e : Date} :
    Date.ofCivil? y m d = some e ↔ y = e.year ∧ m = e.month ∧ d = e.day := by
  constructor
  · intro h
    obtain ⟨hy, hm, hd⟩ := Date.eq_of_ofCivil? h
    exact ⟨hy.symm, hm.symm, hd.symm⟩
  · rintro ⟨rfl, rfl, rfl⟩
    exact Date.ofCivil?_self e

theorem day_lt_and_month_lt (d : Date) : d.day < 100 ∧ d.month < 100 := by
  have hcivil := d.isCivil
  have hdays := Date.daysIn_le d.year d.month
  omega

/-- A day or a month is spelled with one or two digits. -/
theorem length_of_mem_shortForms {s : List Char} {n : Nat} (hn : n < 100) (h : s ∈ shortForms n) :
    s.length = 1 ∨ s.length = 2 := by
  have htwo : (numeral n).length ≤ 2 := length_numeral_le (by decide) hn
  simp only [shortForms, List.mem_cons, List.not_mem_nil, or_false] at h
  rcases h with h | h
  · have hpos : 0 < (numeral n).length := List.length_pos_of_ne_nil (Decimal.numeral_ne_nil n)
    rw [h]
    omega
  · exact .inr (by rw [h, length_padded htwo])

theorem length_of_mem_yearForms {s : List Char} {year : Int} (h : s ∈ yearForms year) :
    s.length = 4 ∨ s.length = 2 := by
  rw [yearForms, List.mem_append] at h
  rcases h with h | h
  · split at h
    · exact .inl (by rw [List.mem_singleton.1 h,
        length_padded (length_numeral_le (by decide) (by omega))])
    · cases h
  · split at h
    · exact .inr (by rw [List.mem_singleton.1 h,
        length_padded (length_numeral_le (by decide) (by omega))])
    · cases h

/-! The forms of numbers are ASCII digits. -/

theorem isDigit_of_mem_shortForms {s : List Char} {n : Nat} (h : s ∈ shortForms n) :
    ∀ c ∈ s, c.isDigit = true := by
  have hnumeral : ∀ c ∈ numeral n, c.isDigit = true := fun c hc => Decimal.isDigit_of_mem_numeral hc
  simp only [shortForms, List.mem_cons, List.not_mem_nil, or_false] at h
  rcases h with h | h
  · exact h ▸ hnumeral
  · exact h ▸ isDigit_of_mem_padded

theorem isDigit_of_mem_yearForms {s : List Char} {year : Int} (h : s ∈ yearForms year) :
    ∀ c ∈ s, c.isDigit = true := by
  rw [yearForms, List.mem_append] at h
  rcases h with h | h <;> split at h
  · exact List.mem_singleton.1 h ▸ isDigit_of_mem_padded
  · cases h
  · exact List.mem_singleton.1 h ▸ isDigit_of_mem_padded
  · cases h

/-- The spellings of a date are runs of digits. -/
theorem exists_runs_of_isSpelled {d : Date} {s : List Char} (h : d.IsSpelled s) :
    ∃ r : DigitRuns, r.IsNumeric ∧ s = r.text ∧ r.first ∈ shortForms d.day ∧
      r.second ∈ shortForms d.month ∧ r.third ∈ yearForms d.year := by
  obtain ⟨day, hday, month, hmonth, year, hyear, c, hc, c', hc', rfl⟩ := h
  obtain ⟨hdayLt, hmonthLt⟩ := day_lt_and_month_lt d
  have hdigits : ∀ {s : List Char}, (∀ c ∈ s, c.isDigit = true) → ∀ c ∈ s, Text.isDigit c = true :=
    fun hs c hc => isDigit_of_asciiDigit (hs c hc)
  exact ⟨⟨day, month, year, c, c', ⟨hdigits (isDigit_of_mem_shortForms hday),
      hdigits (isDigit_of_mem_shortForms hmonth),
      hdigits (isDigit_of_mem_yearForms hyear)⟩, hc, hc'⟩,
    ⟨length_of_mem_shortForms hdayLt hday, length_of_mem_shortForms hmonthLt hmonth,
      length_of_mem_yearForms hyear⟩, rfl, hday, hmonth, hyear⟩

/-- The runs of digits of a spelled ISO date. -/
theorem exists_runs_of_isSpelledIso {d : Date} {s : List Char} (h : d.IsSpelledIso s) :
    ∃ r : DigitRuns, r.IsIso ∧ s = r.text ∧ (0 ≤ d.year ∧ d.year ≤ 9999) ∧
      r.first = (padded 4 d.year.natAbs).toList ∧ r.second ∈ shortForms d.month ∧
      r.third ∈ shortForms d.day := by
  obtain ⟨hfour, month, hmonth, day, hday, hs⟩ := h
  obtain ⟨hdayLt, hmonthLt⟩ := day_lt_and_month_lt d
  obtain ⟨year, hyear⟩ : ∃ year, year = (padded 4 d.year.natAbs).toList := ⟨_, rfl⟩
  have hlength : year.length = 4 := by
    rw [hyear, length_padded (length_numeral_le (by decide) (by omega))]
  have hyearDigits : ∀ c ∈ year, c.isDigit = true := hyear ▸ isDigit_of_mem_padded
  rw [← hyear] at hs
  have hdigits : ∀ {s : List Char}, (∀ c ∈ s, c.isDigit = true) → ∀ c ∈ s, Text.isDigit c = true :=
    fun hs c hc => isDigit_of_asciiDigit (hs c hc)
  exact ⟨⟨year, month, day, '-', '-', ⟨hdigits hyearDigits,
      hdigits (isDigit_of_mem_shortForms hmonth),
      hdigits (isDigit_of_mem_shortForms hday)⟩, by decide⟩,
    ⟨hlength, length_of_mem_shortForms hmonthLt hmonth, length_of_mem_shortForms hdayLt hday, rfl,
      rfl⟩, hs, hfour, hyear, hmonth, hday⟩

section
variable {m : Match} {r : DigitRuns} {n : Nat} {d : Date} (h : m.stop.captures = r.captures n)
include h

/-- Numeric dates stand for the dates that they spell. -/
theorem numericDateOf?_eq_some_iff (hr : r.IsNumeric) :
    numericDateOf? m = some d ↔ d.IsSpelled r.text := by
  obtain ⟨hfirst, hsecond, hthird⟩ := DigitRuns.groups_of_captures h
  obtain ⟨hday, hmonth⟩ := day_lt_and_month_lt d
  constructor
  · intro hd
    rw [numericDateOf?, hfirst, hsecond, hthird] at hd
    split at hd
    · next dd mo y hdd hmo hy =>
      obtain ⟨hyear, rfl, rfl⟩ := ofCivil?_eq_some_iff.1 hd
      exact ⟨r.first, (number?_eq_some_iff_short hr.1 hday).1 hdd,
        r.second, (number?_eq_some_iff_short hr.2.1 hmonth).1 hmo,
        r.third, (number?_eq_some_iff_year hr.2.2).1 ⟨y, hy, hyear⟩,
        r.mark, r.areMarks.1, r.mark', r.areMarks.2, rfl⟩
    · cases hd
  · intro hd
    -- a text falls into runs of digits in one way only, so the spelling has the runs of the match
    obtain ⟨r', -, htext, hfirst', hsecond', hthird'⟩ := exists_runs_of_isSpelled hd
    obtain rfl := DigitRuns.eq_of_text_eq htext
    obtain ⟨y, hy, hyear⟩ := (number?_eq_some_iff_year hr.2.2).2 hthird'
    rw [numericDateOf?, hfirst, hsecond, hthird,
      (number?_eq_some_iff_short hr.1 hday).2 hfirst',
      (number?_eq_some_iff_short hr.2.1 hmonth).2 hsecond', hy]
    exact ofCivil?_eq_some_iff.2 ⟨hyear, rfl, rfl⟩

/-- ISO dates stand for the dates that they spell. -/
theorem isoDateOf?_eq_some_iff (hr : r.IsIso) :
    isoDateOf? m = some d ↔ d.IsSpelledIso r.text := by
  obtain ⟨hfirst, hsecond, hthird⟩ := DigitRuns.groups_of_captures h
  obtain ⟨hday, hmonth⟩ := day_lt_and_month_lt d
  obtain ⟨hfour, htwo, htwo', hmark, hmark'⟩ := hr
  constructor
  · intro hd
    rw [isoDateOf?, hfirst, hsecond, hthird] at hd
    split at hd
    · next y mo dd hy hmo hdd =>
      obtain ⟨hyear, rfl, rfl⟩ := ofCivil?_eq_some_iff.1 hd
      obtain ⟨hdigits, hvalue⟩ := number?_eq_some hy
      -- four digits hold a year that needs no sign
      have hlt := digitsValue_lt hdigits
      rw [hfour, hvalue] at hlt
      have hnat : d.year.natAbs = y := by omega
      have hform : r.first = (padded 4 d.year.natAbs).toList := by
        refine Decimal.eq_of_digitsValue ?_ hdigits isDigit_of_mem_padded
          (by rw [hvalue, digitsValue_padded, hnat])
        rw [hfour, length_padded (length_numeral_le (by decide) (by omega))]
      refine ⟨by omega, r.second, (number?_eq_some_iff_short htwo hmonth).1 hmo, r.third,
        (number?_eq_some_iff_short htwo' hday).1 hdd, ?_⟩
      rw [DigitRuns.text, hform, hmark, hmark']
    · cases hd
  · intro hd
    obtain ⟨r', -, htext, hrange, hfirst', hsecond', hthird'⟩ := exists_runs_of_isSpelledIso hd
    obtain rfl := DigitRuns.eq_of_text_eq htext
    rw [isoDateOf?, hfirst, hsecond, hthird, hfirst', number?_padded (by omega),
      (number?_eq_some_iff_short htwo hmonth).2 hsecond',
      (number?_eq_some_iff_short htwo' hday).2 hthird']
    exact ofCivil?_eq_some_iff.2 ⟨by omega, rfl, rfl⟩

end

/-! ## Texts that are one date -/

theorem trim_text (r : DigitRuns) : Text.trim r.text = r.text :=
  Text.trim_eq_self fun _ hc => DigitRuns.isBlank_of_mem_text hc

/-- Runs of the lengths of a numeric date stand for the date that they spell. -/
theorem readNumericDate?_text {r : DigitRuns} {d : Date} (hr : r.IsNumeric) :
    readNumericDate? r.text = some d ↔ d.IsSpelled r.text := by
  obtain ⟨m, hm, -, hcaptures⟩ := readsRuns_numericDate.find?_text hr
  have hread : readNumericDate? r.text = numericDateOf? m := by
    rw [readNumericDate?, trim_text, numericDate, hm, Option.bind_some]
  rw [hread, numericDateOf?_eq_some_iff hcaptures hr]

/-- Three runs of digits are read as the ISO date they spell. -/
theorem readIsoDate?_text {r : DigitRuns} {d : Date} (hr : r.IsIso) :
    readIsoDate? r.text = some d ↔ d.IsSpelledIso r.text := by
  obtain ⟨m, hm, -, hcaptures⟩ := readsRuns_isoDate.find?_text hr
  have hread : readIsoDate? r.text = isoDateOf? m := by
    rw [readIsoDate?, trim_text, isoDate, hm, Option.bind_some]
  rw [hread, isoDateOf?_eq_some_iff hcaptures hr]

/-- What the pattern of a range takes for a date stands for one exactly if it spells it. -/
theorem readNumericDate?_eq_some_iff {s : List Char} {d : Date} (h : bareNumericDate.Describes s) :
    readNumericDate? s = some d ↔ d.IsSpelled s := by
  obtain ⟨r, hr, rfl⟩ := describes_bareNumericDate.1 h
  exact readNumericDate?_text hr

/-- A spelled date is read. -/
theorem readNumericDate?_spelled {s : List Char} {d : Date} (h : d.IsSpelled s) :
    readNumericDate? s = some d := by
  obtain ⟨r, hr, rfl, -⟩ := exists_runs_of_isSpelled h
  exact (readNumericDate?_text hr).2 h

/-- A spelled ISO date is read. -/
theorem readIsoDate?_spelled {s : List Char} {d : Date} (h : d.IsSpelledIso s) :
    readIsoDate? s = some d := by
  obtain ⟨r, hr, rfl, -⟩ := exists_runs_of_isSpelledIso h
  exact (readIsoDate?_text hr).2 h

/-- A spelled date is digits and marks. -/
theorem mem_dateChars {s day month year : List Char} {c c' : Char} (hc : c ∈ dateMarks)
    (hc' : c' ∈ dateMarks) (hday : ∀ e ∈ day, e.isDigit = true)
    (hmonth : ∀ e ∈ month, e.isDigit = true) (hyear : ∀ e ∈ year, e.isDigit = true)
    (hs : s = day ++ c :: (month ++ c' :: year)) : ∀ e ∈ s, e ∈ "-/0123456789".toList := by
  have hmark : ∀ e ∈ dateMarks, e ∈ "-/0123456789".toList := Text.forall_of_all (by decide)
  have hdigit : ∀ {e : Char}, e.isDigit = true → e ∈ "-/0123456789".toList := fun he =>
    List.mem_cons_of_mem '-' (List.mem_cons_of_mem '/' (Decimal.mem_digits_of_isDigit he))
  subst hs
  simp only [List.forall_mem_append, List.forall_mem_cons]
  exact ⟨fun e he => hdigit (hday e he), hmark c hc, fun e he => hdigit (hmonth e he),
    hmark c' hc', fun e he => hdigit (hyear e he)⟩

/-- A range takes more than digits and marks. -/
theorem findRange?_of_dateChars {s : List Char} (h : ∀ c ∈ s, c ∈ "-/0123456789".toList) :
    findRange? s = none := by
  have habsent : fromTo.IsAbsent s :=
    Pattern.isAbsent_of_cannotRead (by decide) h
  simp [findRange?, endpoints?, habsent.find?]

section
variable {d : Date} {s : List Char}

/-- A message that is a spelled date is about that day. -/
theorem find?_spelled (h : d.IsSpelled s) (now : Moment) : find? s now = some (day d) := by
  have hrange : findRange? s = none := by
    obtain ⟨a, ha, b, hb, y, hy, c, hc, c', hc', hs⟩ := h
    exact findRange?_of_dateChars (mem_dateChars hc hc' (isDigit_of_mem_shortForms ha)
      (isDigit_of_mem_shortForms hb) (isDigit_of_mem_yearForms hy) hs)
  have hread := readNumericDate?_spelled h
  obtain ⟨r, hr, rfl, -⟩ := exists_runs_of_isSpelled h
  obtain ⟨m, others, hall, htext⟩ := readsRuns_numericDate.all_text hr
  have hday : findDay? r.text = some (day d) := by
    rw [findDay?, numericDate, hall, List.findSome?_cons, htext, hread]
    rfl
  simp [find?, hrange, hday]

/-- So is one that is a spelled ISO date. -/
theorem find?_spelledIso (h : d.IsSpelledIso s) (now : Moment) : find? s now = some (day d) := by
  have hread := readIsoDate?_spelled h
  have hparts := h
  obtain ⟨hfour, a, ha, b, hb, hs⟩ := hparts
  have hlength : (padded 4 d.year.natAbs).toList.length = 4 :=
    length_padded (length_numeral_le (by decide) (by omega))
  have hrange : findRange? s = none :=
    findRange?_of_dateChars (mem_dateChars (by decide) (by decide) isDigit_of_mem_padded
      (isDigit_of_mem_shortForms ha) (isDigit_of_mem_shortForms hb) hs)
  -- with four digits in front of it no numeric date starts in the text
  have hnumeric : numericDate.all s = [] := by
    rw [hs]
    exact numericDate_all_eq_nil (isIn_looseDate_eq_false isDigit_of_mem_padded
      (isDigit_of_mem_shortForms ha) (isDigit_of_mem_shortForms hb) (by omega))
  obtain ⟨r, hr, rfl, -⟩ := exists_runs_of_isSpelledIso h
  obtain ⟨m, others, hall, htext⟩ := readsRuns_isoDate.all_text hr
  have hday : findDay? r.text = some (day d) := by
    rw [findDay?, hnumeric, List.findSome?_nil, Option.none_or, isoDate, hall, List.findSome?_cons,
      htext, hread]
    rfl
  simp [find?, hrange, hday]

end

end DatePhrase

end AskLedger
