import Mathlib.Algebra.Group.Nat.Defs
import AskLedger.Proofs.PatternReading
import AskLedger.Question.Filter
import AskLedger.Question.Keyword
import AskLedger.Text.Lowercase

/-!
# Numbers in a message

The decimal numeral of a natural number stands for that number wherever a message is read: as a
count, as an amount and as a year. Its digits are word characters and no blanks, so a numeral
between other characters is one word and one run of digits.

* `Decimal.natUpTo?_numeral`, `Decimal.read?_numeral`: a numeral is read as its number.
* `Text.words_append`, `Keyword.counts_numeral`: a numeral as a word and as a keyword.
* `DatePhrase.findFrom?_yearWord_numeral`: a numeral is a year exactly from 2024 to 2026.
-/

namespace AskLedger

/-! ## Numerals -/

/-- What is found at each character of a text in turn holds of all of them. -/
theorem Text.forall_of_all {P : Char → Prop} [DecidablePred P] {s : List Char}
    (h : s.all (P ·) = true) : ∀ c ∈ s, P c :=
  -- to decide the conclusion itself can mean to try every character there is
  fun c hc => of_decide_eq_true (List.all_eq_true.1 h c hc)

/-! A run of characters of one kind is found as a whole, if what follows it is of another kind. -/

section
variable {p : Char → Bool} {run rest : List Char} (hrun : ∀ c ∈ run, p c = true)
  (hrest : ∀ c ∈ rest.head?, p c = false)
include hrun hrest

/-- A run is taken as a whole. -/
theorem Text.takeWhile_run : (run ++ rest).takeWhile p = run := by
  rw [List.takeWhile_append_of_pos hrun]
  cases rest with
  | nil => simp
  | cons c rest => simp [hrest c rfl]

theorem Text.dropWhile_run : (run ++ rest).dropWhile p = rest := by
  rw [List.dropWhile_append_of_pos hrun]
  cases rest with
  | nil => rfl
  | cons c rest => simp [hrest c rfl]

end

namespace Decimal

/-- The decimal numeral of a natural number. -/
def numeral (n : Nat) : List Char := Nat.toDigits 10 n

/-- The decimal digits. -/
def digits : List Char := "0123456789".toList

theorem numeral_eq_toString (n : Nat) : numeral n = (toString n).toList :=
  Nat.toList_repr.symm

theorem numeral_ne_nil (n : Nat) : numeral n ≠ [] := Nat.toDigits_ne_nil

theorem mem_digits_of_isDigit {c : Char} (h : c.isDigit = true) : c ∈ digits := by
  -- the codes from 48 to 57, one by one
  have hall : ∀ n < 58, 48 ≤ n → Char.ofNat n ∈ digits := by decide
  simp only [Char.isDigit, ge_iff_le, Bool.and_eq_true, decide_eq_true_eq, UInt32.le_iff_toNat_le]
    at h
  have hc := hall c.toNat (Nat.lt_succ_of_le h.2) h.1
  rwa [Char.ofNat_toNat] at hc

/-- A numeral is written in ASCII digits. -/
theorem isDigit_of_mem_numeral {n : Nat} {c : Char} (h : c ∈ numeral n) : c.isDigit = true :=
  Nat.isDigit_of_mem_toDigits (by decide) (by decide) h

theorem isDigit_of_mem_replicate {k : Nat} : ∀ c ∈ List.replicate k '0', c.isDigit = true := by
  intro c hc
  rw [List.eq_of_mem_replicate hc]
  rfl

/-- What holds of every digit holds of every character of a numeral. -/
theorem forall_mem_numeral {P : Char → Prop} [DecidablePred P] (h : digits.all (P ·) = true)
    (n : Nat) : ∀ c ∈ numeral n, P c :=
  fun c hc => Text.forall_of_all h c (mem_digits_of_isDigit (isDigit_of_mem_numeral hc))

/-- A numeral has the value of its number. -/
theorem digitsValue_numeral (n : Nat) : Layout.digitsValue (numeral n) = n := by
  have hvalue : Nat.ofDigitChars 10 (Nat.toDigits 10 n) 0 = n := Nat.ofDigitChars_ten_toDigits
  rw [Nat.ofDigitChars_eq_foldl] at hvalue
  simp only [Nat.mul_comm 10] at hvalue
  exact hvalue

/-- Digits of one length are decided by the number that they stand for. -/
theorem eq_of_digitsValue {s t : List Char} (hlength : s.length = t.length)
    (hs : ∀ c ∈ s, c.isDigit = true) (ht : ∀ c ∈ t, c.isDigit = true)
    (h : Layout.digitsValue s = Layout.digitsValue t) : s = t := by
  have hdigit : ∀ c : Char, c.isDigit = true → 48 ≤ c.toNat ∧ c.toNat ≤ 57 := by
    intro c hc
    simpa [Char.isDigit, UInt32.le_iff_toNat_le] using hc
  -- with numbers in front, these are decided as well
  suffices hfrom : ∀ {m n : Nat}, s.foldl (fun n c => n * 10 + (c.toNat - 48)) m =
      t.foldl (fun n c => n * 10 + (c.toNat - 48)) n → m = n ∧ s = t from (hfrom h).2
  clear h
  induction s generalizing t with
  | nil =>
    obtain rfl := List.length_eq_zero_iff.1 hlength.symm
    exact fun h => ⟨h, rfl⟩
  | cons c s ih =>
    cases t with
    | nil => cases hlength
    | cons d t =>
      obtain ⟨hc, hs⟩ := List.forall_mem_cons.1 hs
      obtain ⟨hd, ht⟩ := List.forall_mem_cons.1 ht
      intro m n h
      obtain ⟨hfirst, rfl⟩ := ih (Nat.succ.inj hlength) hs ht h
      simp only at hfirst
      have hcbounds := hdigit c hc
      have hdbounds := hdigit d hd
      obtain rfl : c = d := Char.toNat_inj.1 (by omega)
      exact ⟨by omega, rfl⟩

/-- A numeral determines its number. -/
theorem numeral_inj {m n : Nat} : numeral m = numeral n ↔ m = n := by
  constructor
  · intro h
    rw [← digitsValue_numeral m, h, digitsValue_numeral]
  · rintro rfl
    rfl

/-- How many digits a numeral has is decided by powers of ten. -/
theorem length_numeral_le_iff {k n : Nat} (hk : 0 < k) : (numeral n).length ≤ k ↔ n < 10 ^ k :=
  Nat.length_toDigits_le_iff (by decide) hk

/-- Small numbers have short numerals. -/
theorem length_numeral_le {k n : Nat} (hk : 0 < k) (hn : n < 10 ^ k) : (numeral n).length ≤ k :=
  (length_numeral_le_iff hk).2 hn

/-- A numeral has more than two digits from one hundred on. -/
theorem two_lt_length_numeral {n : Nat} : 2 < (numeral n).length ↔ 100 ≤ n := by
  have hlength : (numeral n).length ≤ 2 ↔ n < 10 ^ 2 := length_numeral_le_iff (by decide)
  omega

/-- A numeral has more than one digit from ten on. -/
theorem one_lt_length_numeral {n : Nat} : 1 < (numeral n).length ↔ 10 ≤ n := by
  have hlength : (numeral n).length ≤ 1 ↔ n < 10 ^ 1 := length_numeral_le_iff (by decide)
  omega

/-- A numeral is read as its number, up to the limit of what is read. -/
theorem natUpTo?_numeral {limit n : Nat} (h : n ≤ limit) :
    natUpTo? limit (numeral n) = some n := by
  have hall : (numeral n).all Char.isDigit = true :=
    List.all_eq_true.2 fun _ => isDigit_of_mem_numeral
  simp [natUpTo?, numeral_ne_nil, hall, digitsValue_numeral, h]

/-- A numeral is read as the number nearest to its value. -/
theorem unsigned?_numeral (n : Nat) : unsigned? (numeral n) = some (nearest n 0) := by
  have hdigit : ∀ c ∈ numeral n, c.isDigit = true := fun _ => isDigit_of_mem_numeral
  have htake : (numeral n ++ []).takeWhile Char.isDigit = numeral n ++ [] :=
    List.takeWhile_append_of_pos hdigit
  have hdrop : (numeral n ++ []).dropWhile Char.isDigit = [] :=
    List.dropWhile_append_of_pos hdigit
  rw [List.append_nil] at htake hdrop
  simp [unsigned?, htake, hdrop, numeral_ne_nil, exponent?, digitsValue_numeral]

/-- A numeral is none of the names of numbers without digits. -/
theorem named?_numeral (n : Nat) : named? (numeral n) = none := by
  have hname : ∀ name ∈ ["inf", "infinity", "nan"],
      String.ofList ((numeral n).map Char.toLower) ≠ name := by
    intro name hname heq
    have hletters : ∀ c ∈ numeral n, ∀ name ∈ ["inf", "infinity", "nan"],
        c.toLower ∉ name.toList := forall_mem_numeral (by decide) n
    obtain ⟨c, hc⟩ := List.exists_mem_of_ne_nil _ (numeral_ne_nil n)
    have hmem : c.toLower ∈ name.toList := by
      rw [← heq, String.toList_ofList]
      exact List.mem_map_of_mem hc
    exact hletters c hc name hname hmem
  simp [named?, hname]

/-- A numeral is read as the number of double precision nearest to it. -/
theorem read?_numeral (n : Nat) : read? (numeral n) = some (nearest n 0) := by
  obtain ⟨c, s, hs⟩ := List.exists_cons_of_ne_nil (numeral_ne_nil n)
  have hc : c ≠ '-' ∧ c ≠ '+' := by
    have hsign : ∀ c ∈ numeral n, c ≠ '-' ∧ c ≠ '+' := forall_mem_numeral (by decide) n
    exact hsign c (by simp [hs])
  have hbody : read? (c :: s) = (named? (c :: s)).or (unsigned? (c :: s)) := by
    simp [read?, hc]
  rw [hs, hbody, ← hs, named?_numeral, unsigned?_numeral]
  rfl

end Decimal

open Decimal (numeral digits forall_mem_numeral numeral_ne_nil)

/-! ## Words -/

namespace Text

/-- A text without blanks goes on with the word. -/
theorem wordsFrom_append {w : List Char} (hw : ∀ c ∈ w, isBlank c = false) (word rest : List Char) :
    wordsFrom word (w ++ rest) = wordsFrom (w.reverse ++ word) rest := by
  induction w generalizing word with
  | nil => rfl
  | cons c w ih =>
    obtain ⟨hc, hw⟩ := List.forall_mem_cons.1 hw
    rw [List.cons_append, wordsFrom, hc, if_neg Bool.false_ne_true, ih hw]
    simp

/-- The last stretch without blanks is the last word. -/
theorem words_eq_singleton {w : List Char} (hne : w ≠ []) (hw : ∀ c ∈ w, isBlank c = false) :
    words w = [w] := by
  have hfrom := wordsFrom_append hw [] []
  simpa [words, wordsFrom, hne] using hfrom

/-- A stretch without blanks in front of a blank is a word. -/
theorem words_append {w : List Char} (hne : w ≠ []) (hw : ∀ c ∈ w, isBlank c = false)
    (rest : List Char) : words (w ++ ' ' :: rest) = w :: words rest := by
  have hblank : isBlank ' ' = true := rfl
  have hfrom := wordsFrom_append hw [] (' ' :: rest)
  simpa [words, wordsFrom, hne, hblank] using hfrom

/-- A digit is the same letter as itself only. -/
theorem eq_of_sameLetter_digit {d c : Char} (hd : d ∈ digits) (h : sameLetter d c = true) :
    c = d := by
  have hfold : ∀ d ∈ digits, fold d = d ∧ d ≠ 's' ∧ d ≠ 'k' ∧ d.val < 97 :=
    forall_of_all (by decide)
  obtain ⟨hself, hs, hk, hsmall⟩ := hfold d hd
  rw [sameLetter, hself, beq_iff_eq, fold] at h
  split at h
  · exact absurd h hs
  · split at h
    · exact absurd h hk
    · -- a capital would become a small letter and no digit
      subst h
      unfold Char.toLower at hsmall ⊢
      split at hsmall
      · next hc =>
        simp only [UInt32.lt_iff_toNat_lt, UInt32.le_iff_toNat_le, UInt32.toNat_add, ge_iff_le]
          at hc hsmall
        simp at hc hsmall
        omega
      · next hc => rw [dif_neg hc]

/-- Whether lowercasing leaves a character as it is. -/
def isLowered (c : Char) : Bool := c != 'Σ' && lowerChar c == [c]

/-- A text in lowercase stays as it is. -/
theorem lower_eq_self {s : List Char} (h : ∀ c ∈ s, isLowered c = true) : lower s = s := by
  suffices hfrom : ∀ before, lowerFrom before s = s from hfrom []
  induction s with
  | nil => intro before; rfl
  | cons c s ih =>
    intro before
    obtain ⟨hc, hs⟩ := List.forall_mem_cons.1 h
    obtain ⟨hsigma, hsmall⟩ := (Bool.and_eq_true _ _).mp hc
    rw [lowerFrom, if_neg (bne_iff_ne.1 hsigma), beq_iff_eq.1 hsmall, ih hs]
    rfl

theorem isBlank_of_mem_numeral {n : Nat} : ∀ c ∈ numeral n, isBlank c = false :=
  forall_mem_numeral (by decide) n

theorem isWordChar_of_mem_numeral {n : Nat} : ∀ c ∈ numeral n, isWordChar c = true :=
  forall_mem_numeral (by decide) n

/-- A numeral is written in ASCII digits. -/
theorem isDigit_of_mem_numeral {n : Nat} : ∀ c ∈ numeral n, isDigit c = true :=
  forall_mem_numeral (by decide) n

theorem isLowered_of_mem_numeral {n : Nat} : ∀ c ∈ numeral n, isLowered c = true :=
  forall_mem_numeral (by decide) n

end Text

namespace Keyword

/-- A word with a character that no idle word has counts if it is long enough. -/
theorem counts_eq_of_mem {w : List Char} {c : Char} (hc : c ∈ w)
    (hidle : ∀ idle ∈ idleWords, c ∉ idle.toList) : counts w = decide (2 < w.length) := by
  have hnot : String.ofList w ∉ idleWords := by
    intro hmem
    apply hidle _ hmem
    rwa [String.toList_ofList]
  simp [counts, hnot]

/-- A numeral counts as a keyword from one hundred on, with a mark in front of it from ten on. -/
theorem counts_numeral (n : Nat) : counts (numeral n) = decide (100 ≤ n) := by
  have hidle : ∀ c ∈ numeral n, ∀ idle ∈ idleWords, c ∉ idle.toList :=
    forall_mem_numeral (by decide) n
  -- any digit of the numeral will do
  obtain ⟨c, hc⟩ := List.exists_mem_of_ne_nil _ (numeral_ne_nil n)
  rw [counts_eq_of_mem hc (hidle c hc), decide_eq_decide]
  exact Decimal.two_lt_length_numeral

end Keyword

/-! ## Runs of digits -/

section
variable {n : Nat} {rest : List Char}

/-- No blank is in front of a numeral. -/
theorem Decimal.isBlank_of_mem_head? : ∀ c ∈ (numeral n ++ rest).head?, Text.isBlank c = false := by
  obtain ⟨c, s, hs⟩ := List.exists_cons_of_ne_nil (numeral_ne_nil n)
  intro d hd
  rw [hs, List.cons_append, List.head?_cons, Option.mem_some_iff] at hd
  exact Text.isBlank_of_mem_numeral d (by rw [hs, hd]; exact List.mem_cons_self)

/-- There is no word boundary inside a numeral. -/
theorem Decimal.not_atWordEdge {a b before : List Char} {c : Char} (h : numeral n = a ++ c :: b)
    (ha : a ≠ []) : Place.atWordEdge ⟨a.reverse ++ before, c :: (b ++ rest)⟩ = false := by
  obtain ⟨d, a', hd⟩ := List.exists_cons_of_ne_nil (List.reverse_ne_nil_iff.2 ha)
  have hmem : d ∈ a := List.mem_reverse.1 (by rw [hd]; exact List.mem_cons_self)
  have hdword : Text.isWordChar d = true :=
    Text.isWordChar_of_mem_numeral d (by rw [h]; exact List.mem_append_left _ hmem)
  have hcword : Text.isWordChar c = true :=
    Text.isWordChar_of_mem_numeral c (by rw [h]; simp)
  simp [Place.atWordEdge, hd, hdword, hcword]

/-- There is one behind a numeral that no word character follows. -/
theorem Decimal.atWordEdge_behind {before : List Char}
    (hrest : rest.head?.any Text.isWordChar = false) :
    Place.atWordEdge ⟨(numeral n).reverse ++ before, rest⟩ = true := by
  obtain ⟨c, s, hs⟩ := List.exists_cons_of_ne_nil (List.reverse_ne_nil_iff.2 (numeral_ne_nil n))
  have hc : Text.isWordChar c = true :=
    Text.isWordChar_of_mem_numeral c (List.mem_reverse.1 (by rw [hs]; exact List.mem_cons_self))
  simp [Place.atWordEdge, hs, hc, hrest]

/-- A numeral is read to its end as a run of digits. -/
theorem Decimal.readsWhole_digits (hrest : ∀ c ∈ rest.head?, Text.isDigit c = false) :
    (Pattern.oneOrMore .digit).ReadsWhole (numeral n) rest :=
  Pattern.readsWhole_oneOrMore (numeral_ne_nil n) Text.isDigit_of_mem_numeral hrest

/-- A numeral is read as an amount, if the nearest number of double precision is finite. -/
theorem AmountPhrase.read?_numeral (h : (Decimal.nearest n 0).isFinite = true) :
    AmountPhrase.read? (numeral n) = some (Decimal.nearest n 0) := by
  have hcomma : ∀ c ∈ numeral n, (c != ',') = true := Decimal.forall_mem_numeral (by decide) n
  have hwithout : Text.without ',' (numeral n) = numeral n := List.filter_eq_self.2 hcomma
  rw [AmountPhrase.read?, hwithout, Decimal.read?_numeral, Option.filter_some, if_pos h]

/-- A numeral is read to its end as a number with commas and decimals, if it is not continued. -/
theorem AmountPhrase.readsWhole_number
    (hrest : ∀ c ∈ rest.head?, Text.isDigit c = false ∧ c ≠ ',') (hpoint : '.' ∉ rest) :
    (Pattern.inOrder
      [.one .digit, .many (.digitOr [',']),
       .optional (.both (.one (.exactly '.')) (.oneOrMore .digit))]).ReadsWhole
      (numeral n) rest := by
  obtain ⟨c, s, hs⟩ := List.exists_cons_of_ne_nil (numeral_ne_nil n)
  have hdigits : ∀ d ∈ c :: s, Text.isDigit d = true := hs ▸ Text.isDigit_of_mem_numeral
  have hnopoint : '.' ∉ c :: s := by
    have hno : ∀ d ∈ numeral n, d ≠ '.' := forall_mem_numeral (by decide) n
    intro hmem
    exact hno '.' (hs ▸ hmem) rfl
  rw [hs]
  apply Pattern.readsWhole_run
  · exact hdigits c List.mem_cons_self
  · intro d hd
    simp [CharKind.accepts, hdigits d (List.mem_cons_of_mem c hd)]
  · intro d hd
    obtain ⟨hdigit, hcomma⟩ := hrest d hd
    simp [CharKind.accepts, hdigit, hcomma]
  · rintro ⟨⟨before, after⟩, captures⟩ ⟨a, ha⟩
    -- no decimals follow, since there is no point in the whole text
    cases after with
    | nil => rfl
    | cons d after =>
      simp only at ha
      have hd : d ≠ '.' := by
        rintro rfl
        have hmem : '.' ∈ (c :: s) ++ rest := by
          rw [ha]
          exact List.mem_append_right a List.mem_cons_self
        exact (List.mem_append.1 hmem).elim hnopoint hpoint
      simp [Pattern.inOrder, Pattern.optional, Pattern.reaches, CharKind.accepts, hd]

end

/-! ## Years -/

namespace DatePhrase

variable {n : Nat} {before rest : List Char}

theorem spelled_decade : Pattern.spelled "202" =
    .both (.one (.letter '2')) (.both (.one (.letter '0')) (.one (.letter '2'))) := rfl

/-- What is described as a year is the numeral of one. -/
theorem eq_numeral_of_describes_yearWord {s : List Char} (h : yearWord.Describes s) :
    ∃ y, 2024 ≤ y ∧ y ≤ 2026 ∧ s = numeral y := by
  simp only [yearWord, Pattern.whole, Pattern.inOrder, spelled_decade, Pattern.Describes,
    CharKind.accepts] at h
  obtain ⟨_, _, rfl, rfl, _, _, rfl, ⟨_, _, rfl, ⟨_, _, rfl, ⟨a, rfl, ha⟩, _, _, rfl, ⟨b, rfl, hb⟩,
    c, rfl, hc⟩, d, rfl, hd⟩, rfl⟩ := h
  obtain rfl := Text.eq_of_sameLetter_digit (by decide) ha
  obtain rfl := Text.eq_of_sameLetter_digit (by decide) hb
  obtain rfl := Text.eq_of_sameLetter_digit (by decide) hc
  have hlast : d = '4' ∨ d = '5' ∨ d = '6' := by simpa using hd
  rcases hlast with rfl | rfl | rfl
  · exact ⟨2024, by decide, by decide, rfl⟩
  · exact ⟨2025, by decide, by decide, rfl⟩
  · exact ⟨2026, by decide, by decide, rfl⟩

/-- The numeral of a year from 2024 to 2026 is a year if no word character stands next to it. -/
theorem matchAt?_yearWord_numeral (hbefore : before.head?.any Text.isWordChar = false)
    (hrest : rest.head?.any Text.isWordChar = false) (hn : 2024 ≤ n ∧ n ≤ 2026) :
    ∃ m, yearWord.matchAt? ⟨before, numeral n ++ rest⟩ = some m ∧ m.group 1 = numeral n := by
  obtain ⟨d, hd, hnumeral⟩ :
      ∃ d, (d = '4' ∨ d = '5' ∨ d = '6') ∧ numeral n = ['2', '0', '2', d] := by
    obtain rfl | rfl | rfl : n = 2024 ∨ n = 2025 ∨ n = 2026 := by omega
    · exact ⟨'4', by decide, rfl⟩
    · exact ⟨'5', by decide, rfl⟩
    · exact ⟨'6', by decide, rfl⟩
  have htwo : Text.isWordChar '2' = true := rfl
  have hlast : Text.isWordChar d = true :=
    Text.isWordChar_of_mem_numeral d (by rw [hnumeral]; simp)
  have hlength : before.length + 1 + 1 + 1 + 1 - before.length = 4 := by omega
  refine ⟨⟨⟨before, numeral n ++ rest⟩,
    ⟨⟨(numeral n).reverse ++ before, rest⟩, [⟨1, before.length, numeral n⟩]⟩⟩, ?_, rfl⟩
  simp [Pattern.matchAt?, yearWord, Pattern.whole, Pattern.inOrder, spelled_decade,
    Pattern.reaches, Pattern.sameLetter_self, Place.atWordEdge, Place.upTo, Place.offset,
    CharKind.accepts, hbefore, hnumeral, hrest, htwo, hlast, hd, hlength]

/-- A search for a year stops at the numeral of one. -/
theorem findFrom?_yearWord_of_year (hbefore : before.head?.any Text.isWordChar = false)
    (hrest : rest.head?.any Text.isWordChar = false) (hn : 2024 ≤ n ∧ n ≤ 2026) :
    (yearWord.findFrom? before (numeral n ++ rest)).map (·.group 1) = some (numeral n) := by
  obtain ⟨m, hm, hgroup⟩ := matchAt?_yearWord_numeral hbefore hrest hn
  rw [Pattern.findFrom?_eq_some hm, Option.map_some, hgroup]

/-- No year starts where a numeral of another number does. -/
theorem matchAt?_yearWord_eq_none (hrest : rest.head?.any Text.isWordChar = false)
    (hn : ¬(2024 ≤ n ∧ n ≤ 2026)) :
    yearWord.matchAt? ⟨before, numeral n ++ rest⟩ = none := by
  apply Pattern.matchAt?_eq_none
  rw [List.eq_nil_iff_forall_not_mem]
  intro e he
  obtain ⟨s, hs, hafter, hbefore⟩ := Pattern.describes_of_mem_reaches he
  obtain ⟨y, hfirst, hlast, rfl⟩ := eq_numeral_of_describes_yearWord hs
  have hstop : e.place.after.head?.any Text.isWordChar = false := by
    obtain ⟨c, s, hy⟩ := List.exists_cons_of_ne_nil (List.reverse_ne_nil_iff.2 (numeral_ne_nil y))
    have hc : Text.isWordChar c = true :=
      Text.isWordChar_of_mem_numeral c (List.mem_reverse.1 (by rw [hy]; exact List.mem_cons_self))
    have hedge := (Pattern.mem_reaches_whole he).2.2
    simpa [Place.atWordEdge, hbefore, hy, hc] using hedge
  -- a shorter year is followed by a digit, a longer one contains what follows the numeral
  rcases List.append_eq_append_iff.1 hafter with ⟨s, hy, hs⟩ | ⟨s, hnumeral, hs⟩
  · cases s with
    | nil =>
      rw [List.append_nil, Decimal.numeral_inj] at hy
      omega
    | cons c s =>
      have hc : Text.isWordChar c = true :=
        Text.isWordChar_of_mem_numeral c (by rw [hy]; simp)
      simp [hs, hc] at hrest
  · cases s with
    | nil =>
      rw [List.append_nil, Decimal.numeral_inj] at hnumeral
      omega
    | cons c s =>
      have hc : Text.isWordChar c = true :=
        Text.isWordChar_of_mem_numeral c (by rw [hnumeral]; simp)
      simp [hs, hc] at hstop

/-- A search for a year passes over the numeral of another number. -/
theorem findFrom?_yearWord_numeral (hrest : rest.head?.any Text.isWordChar = false)
    (hn : ¬(2024 ≤ n ∧ n ≤ 2026)) :
    yearWord.findFrom? before (numeral n ++ rest) =
      yearWord.findFrom? ((numeral n).reverse ++ before) rest := by
  apply Pattern.findFrom?_append
  intro a c b hsplit
  by_cases ha : a = []
  · subst ha
    rw [List.nil_append] at hsplit
    rw [← List.cons_append, ← hsplit]
    exact matchAt?_yearWord_eq_none hrest hn
  · exact Pattern.matchAt?_eq_none
      (Pattern.reaches_edge_both_of_not_edge (Decimal.not_atWordEdge hsplit ha))

end DatePhrase

end AskLedger
