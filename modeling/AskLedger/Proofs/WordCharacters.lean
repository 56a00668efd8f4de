import Mathlib.Data.List.Chain
import AskLedger.Pattern.Basic

/-!
# Word characters, digits and blanks

Digits of every script are word characters, blanks are none, and a letter of a pattern accepts word
characters only. These facts decide where words begin and end, whatever characters a message has.

The members of a table are looked up by halving. They are the characters of the stretches between
its edges, so that one table lies within another is decided by going through the stretches of both.

* `CharSet.has_of_isWithin`: a set that lies within another by its edges is a subset of it.
* `Text.isWordChar_of_isDigit`, `Text.isWordChar_of_isBlank`: digits are word characters, blanks are
  not.
* `CharKind.isWordChar_of_isWord`: kinds that accept nothing but word characters.
-/

namespace AskLedger

/-! ## Sets of characters -/

namespace CharSet

variable {s t : CharSet} {m n fuel lo hi : Nat}

/-- One halving of the search. -/
theorem countWithin_succ : s.countWithin n (fuel + 1) lo hi =
    if lo < hi then
      if s.edges.getD ((lo + hi) / 2) 0 ≤ n then s.countWithin n fuel ((lo + hi) / 2 + 1) hi
      else s.countWithin n fuel lo ((lo + hi) / 2)
    else lo := rfl

/-- The search ends within its bounds. -/
theorem countWithin_bounds (h : lo ≤ hi) :
    lo ≤ s.countWithin n fuel lo hi ∧ s.countWithin n fuel lo hi ≤ hi := by
  induction fuel generalizing lo hi with
  | zero => exact ⟨Nat.le_refl lo, h⟩
  | succ fuel ih =>
    rw [countWithin_succ]
    split
    · have hmid : lo ≤ (lo + hi) / 2 ∧ (lo + hi) / 2 + 1 ≤ hi := by omega
      split
      · have hright := @ih ((lo + hi) / 2 + 1) hi hmid.2
        omega
      · have hleft := @ih lo ((lo + hi) / 2) hmid.1
        omega
    · exact ⟨Nat.le_refl lo, h⟩

/-- The edge in front of the place where the search ends is not above the number, and the edge at
that place is. -/
theorem edges_around_countWithin (hfuel : hi - lo ≤ fuel) (h : lo ≤ hi) :
    let k := s.countWithin n fuel lo hi
    (k ≠ lo → s.edges.getD (k - 1) 0 ≤ n) ∧ (k ≠ hi → n < s.edges.getD k 0) := by
  induction fuel generalizing lo hi with
  | zero =>
    obtain rfl : lo = hi := by omega
    exact ⟨fun hne => absurd rfl hne, fun hne => absurd rfl hne⟩
  | succ fuel ih =>
    rw [countWithin_succ]
    split
    · have hmid : lo ≤ (lo + hi) / 2 ∧ (lo + hi) / 2 + 1 ≤ hi := by omega
      split
      · next hle =>
        obtain ⟨hbelow, habove⟩ := @ih ((lo + hi) / 2 + 1) hi (by omega) hmid.2
        refine ⟨fun _ => ?_, habove⟩
        -- where the search of the right half ends at its start, the edge in front is the middle
        by_cases heq : s.countWithin n fuel ((lo + hi) / 2 + 1) hi = (lo + hi) / 2 + 1
        · rw [heq, Nat.add_sub_cancel]
          exact hle
        · exact hbelow heq
      · next hlt =>
        obtain ⟨hbelow, habove⟩ := @ih lo ((lo + hi) / 2) (by omega) hmid.1
        refine ⟨hbelow, fun _ => ?_⟩
        by_cases heq : s.countWithin n fuel lo ((lo + hi) / 2) = (lo + hi) / 2
        · rw [heq]
          omega
        · exact habove heq
    · obtain rfl : lo = hi := by omega
      exact ⟨fun hne => absurd rfl hne, fun hne => absurd rfl hne⟩

/-- The stretches of members that edges delimit. -/
def stretches : List Nat → List (Nat × Nat)
  | first :: stop :: rest => (first, stop) :: stretches rest
  | _ => []

/-- The stretches of a list of edges are its pairs. -/
theorem mem_stretches_iff {l : List Nat} {a b : Nat} :
    (a, b) ∈ stretches l ↔ ∃ i, l[2 * i]? = some a ∧ l[2 * i + 1]? = some b := by
  fun_induction stretches l with
  | case1 first stop rest ih =>
    rw [List.mem_cons, ih]
    constructor
    · rintro (heq | ⟨i, hi⟩)
      · cases heq
        exact ⟨0, rfl, rfl⟩
      · exact ⟨i + 1, hi⟩
    · rintro ⟨i, hi⟩
      cases i with
      | zero => exact .inl (Prod.ext (Option.some.inj hi.1).symm (Option.some.inj hi.2).symm)
      | succ i => exact .inr ⟨i, hi⟩
  | case2 l hshort =>
    simp only [List.not_mem_nil, false_iff, not_exists, not_and]
    intro i _ hb
    obtain ⟨hlt, -⟩ := List.getElem?_eq_some_iff.1 hb
    -- fewer than two ends make no stretch
    rcases l with _ | ⟨x, _ | ⟨y, l⟩⟩
    · simp at hlt
    · simp at hlt
    · exact hshort x y l rfl

theorem getElem?_edges {k : Nat} (h : k < s.edges.size) :
    s.edges.toList[k]? = some (s.edges.getD k 0) := by
  simp [h]

/-- Whether edges ascend and all stretches of members come to an end. -/
def IsOrderly (s : CharSet) : Prop :=
  s.edges.toList.IsChain (· < ·) ∧ s.edges.toList.length % 2 = 0

instance (s : CharSet) : Decidable s.IsOrderly := inferInstanceAs (Decidable (_ ∧ _))

/-- A place in front of another does not hold a larger edge. -/
theorem IsOrderly.getD_le (hs : s.IsOrderly) {i j : Nat} (hij : i ≤ j) (hj : j < s.edges.size) :
    s.edges.getD i 0 ≤ s.edges.getD j 0 := by
  have hsorted := List.pairwise_iff_getElem.1 (List.isChain_iff_pairwise.1 hs.1)
  rcases Nat.lt_or_eq_of_le hij with hlt | rfl
  · have h := hsorted i j (by rw [Array.length_toList]; omega) (by rwa [Array.length_toList]) hlt
    have hi : i < s.edges.size := by omega
    simpa [hi, hj] using Nat.le_of_lt h
  · exact Nat.le_refl _

/-- The members of a set are the characters of its stretches. -/
theorem has_iff (hs : s.IsOrderly) {c : Char} :
    s.has c = true ↔ ∃ a b, (a, b) ∈ stretches s.edges.toList ∧ a ≤ c.toNat ∧ c.toNat < b := by
  have heven : s.edges.size % 2 = 0 := by
    rw [← Array.length_toList]
    exact hs.2
  have hle := (@countWithin_bounds s c.toNat s.edges.size 0 s.edges.size (Nat.zero_le _)).2
  have haround := @edges_around_countWithin s c.toNat s.edges.size 0 s.edges.size (by omega)
    (Nat.zero_le _)
  have hhas : s.has c = true ↔ s.edgesUpTo c.toNat % 2 = 1 := by rw [has, beq_iff_eq]
  rw [hhas, edgesUpTo]
  -- only the edges around the place `k` where the search ends matter from here on
  generalize s.countWithin c.toNat s.edges.size 0 s.edges.size = k at *
  obtain ⟨hbelow, habove⟩ := haround
  constructor
  · intro hodd
    refine ⟨s.edges.getD (k - 1) 0, s.edges.getD k 0, mem_stretches_iff.2 ⟨k / 2, ?_, ?_⟩,
      hbelow (by omega), habove (by omega)⟩
    · rw [show 2 * (k / 2) = k - 1 by omega]
      exact getElem?_edges (by omega)
    · rw [show 2 * (k / 2) + 1 = k by omega]
      exact getElem?_edges (by omega)
  · rintro ⟨a, b, hmem, ha, hb⟩
    obtain ⟨i, hia, hib⟩ := mem_stretches_iff.1 hmem
    have hi : 2 * i + 1 < s.edges.size := by
      rw [← Array.length_toList]
      exact (List.getElem?_eq_some_iff.1 hib).1
    rw [getElem?_edges (by omega), Option.some_inj] at hia hib
    -- the search can end neither in front of the stretch nor behind it
    have hge : 2 * i < k := by
      refine Nat.lt_of_not_le fun hki => ?_
      have h := hs.getD_le hki (by omega)
      have := habove (by omega)
      omega
    have hle : k ≤ 2 * i + 1 := by
      refine Nat.le_of_not_lt fun hki => ?_
      have h := hs.getD_le (show 2 * i + 1 ≤ k - 1 by omega) (by omega)
      have := hbelow (by omega)
      omega
    omega

/-- Takes stretches off the front that lie within given bounds. -/
def dropWithin (first stop : Nat) : List (Nat × Nat) → List (Nat × Nat)
  | (a, b) :: rest =>
    if first ≤ a && b ≤ stop then dropWithin first stop rest else (a, b) :: rest
  | [] => []

/-- Whether all stretches lie within others, both ascending. -/
def isWithin (inner : List (Nat × Nat)) : List (Nat × Nat) → Bool
  | (first, stop) :: outer => isWithin (dropWithin first stop inner) outer
  | [] => inner.isEmpty

theorem mem_dropWithin {first stop : Nat} {l : List (Nat × Nat)} {p : Nat × Nat} (hp : p ∈ l) :
    first ≤ p.1 ∧ p.2 ≤ stop ∨ p ∈ dropWithin first stop l := by
  induction l with
  | nil => cases hp
  | cons q l ih =>
    rw [dropWithin]
    split
    · next hq =>
      rcases List.mem_cons.1 hp with rfl | hp
      · exact .inl (by simpa using hq)
      · exact ih hp
    · exact .inr hp

/-- A stretch within others lies within one of them. -/
theorem exists_of_isWithin {inner outer : List (Nat × Nat)} (h : isWithin inner outer = true)
    {p : Nat × Nat} (hp : p ∈ inner) : ∃ q ∈ outer, q.1 ≤ p.1 ∧ p.2 ≤ q.2 := by
  induction outer generalizing inner with
  | nil => simp [List.isEmpty_iff.1 h] at hp
  | cons q outer ih =>
    rcases @mem_dropWithin q.1 q.2 _ _ hp with hwithin | hp
    · exact ⟨q, List.mem_cons_self, hwithin⟩
    · obtain ⟨q', hq', hwithin⟩ := ih h hp
      exact ⟨q', List.mem_cons_of_mem q hq', hwithin⟩

/-- A set whose stretches lie within those of another is a subset of it. -/
theorem has_of_isWithin (hs : s.IsOrderly) (ht : t.IsOrderly)
    (h : isWithin (stretches s.edges.toList) (stretches t.edges.toList) = true) {c : Char}
    (hc : s.has c = true) : t.has c = true := by
  obtain ⟨a, b, hmem, ha, hb⟩ := (has_iff hs).1 hc
  obtain ⟨⟨first, stop⟩, hq, hfirst, hstop⟩ := exists_of_isWithin h hmem
  exact (has_iff ht).2 ⟨first, stop, hq, Nat.le_trans hfirst ha, Nat.lt_of_lt_of_le hb hstop⟩

set_option maxRecDepth 10000 in
/-- The table of digits is in order. -/
theorem isOrderly_digit : digitBeyondAscii.IsOrderly := by decide

theorem isOrderly_word : wordBeyondAscii.IsOrderly := by decide +kernel

set_option maxRecDepth 10000 in
/-- Digits beyond ASCII are word characters. -/
theorem word_of_digit {c : Char} (h : digitBeyondAscii.has c = true) :
    wordBeyondAscii.has c = true :=
  has_of_isWithin isOrderly_digit isOrderly_word (by decide) h

end CharSet

/-! ## Word characters -/

namespace Text

/-- Digits of every script are word characters. -/
theorem isWordChar_of_isDigit {c : Char} (h : isDigit c = true) : isWordChar c = true := by
  unfold isDigit at h
  unfold isWordChar
  split
  · next hascii =>
    rw [if_pos hascii] at h
    simp [Char.isAlphanum, h]
  · next hascii =>
    rw [if_neg hascii] at h
    exact CharSet.word_of_digit h

/-- The code points of blanks. -/
def blankCodes : List Nat :=
  [9, 10, 11, 12, 13, 32, 0x85, 0xA0, 0x1680, 0x2000, 0x2001, 0x2002, 0x2003, 0x2004, 0x2005,
   0x2006, 0x2007, 0x2008, 0x2009, 0x200A, 0x2028, 0x2029, 0x202F, 0x205F, 0x3000]

/-- What holds of every blank by its code holds of all blanks. -/
theorem of_isBlank {P : Char → Prop} (h : ∀ n ∈ blankCodes, P (Char.ofNat n)) {c : Char}
    (hc : isBlank c = true) : P c := by
  have hmem : c.toNat ∈ blankCodes := by
    simp [isBlank] at hc
    simp [blankCodes]
    omega
  have hchar := h c.toNat hmem
  rwa [Char.ofNat_toNat] at hchar

set_option maxRecDepth 10000 in
/-- Blanks are no word characters. -/
theorem isWordChar_of_isBlank {c : Char} (h : isBlank c = true) : isWordChar c = false :=
  of_isBlank (P := fun c => isWordChar c = false) (by decide) h

/-- What is no word character is no digit. -/
theorem isDigit_of_not_isWordChar {c : Char} (h : isWordChar c = false) : isDigit c = false := by
  rw [Bool.eq_false_iff]
  intro hdigit
  rw [isWordChar_of_isDigit hdigit] at h
  cases h

/-- What is no word character is no digit. -/
theorem any_isDigit_of_not_isWordChar {c? : Option Char} (h : c?.any isWordChar = false) :
    c?.any isDigit = false := by
  cases c? with
  | none => rfl
  | some c => exact isDigit_of_not_isWordChar h

/-- Digits are not blank. -/
theorem not_isBlank_of_isDigit {c : Char} (h : isDigit c = true) : isBlank c = false := by
  rw [Bool.eq_false_iff]
  intro hblank
  rw [isDigit_of_not_isWordChar (isWordChar_of_isBlank hblank)] at h
  cases h

/-- What does not depend on the case of the capitals of ASCII does not depend on case. -/
theorem apply_toLower {α : Type} {f : Char → α}
    (h : ∀ n < 91, 65 ≤ n → f (Char.ofNat n).toLower = f (Char.ofNat n)) (c : Char) :
    f c.toLower = f c := by
  -- only capital letters of ASCII have another letter in lower case
  by_cases hc : 65 ≤ c.toNat ∧ c.toNat < 91
  · have hupper := h c.toNat hc.2 hc.1
    rwa [Char.ofNat_toNat] at hupper
  · have hsame : c.toLower = c := by
      refine dif_neg fun h => hc ?_
      simp only [ge_iff_le, UInt32.le_iff_toNat_le] at h
      exact ⟨h.1, Nat.lt_succ_of_le h.2⟩
    rw [hsame]

/-- Letters in either case are word characters alike. -/
theorem isWordChar_toLower (c : Char) : isWordChar c.toLower = isWordChar c :=
  apply_toLower (by decide) c

/-- What does not depend on the case of any letter, the long s and the Kelvin sign included, is the
same of what letters are compared by. -/
theorem apply_fold {α : Type} {f : Char → α} (hlong : f 's' = f 'ſ')
    (hkelvin : f 'k' = f '\u212A') (hlower : ∀ c : Char, f c.toLower = f c) (c : Char) :
    f (fold c) = f c := by
  unfold fold
  split
  · next h => rw [h, hlong]
  · split
    · next h => rw [h, hkelvin]
    · exact hlower c

set_option maxRecDepth 10000 in
/-- Folding keeps word characters. -/
theorem isWordChar_fold (c : Char) : isWordChar (fold c) = isWordChar c :=
  apply_fold (by decide) (by decide) isWordChar_toLower c

/-- Characters that are equal up to case are word characters alike. -/
theorem isWordChar_of_sameLetter {a b : Char} (h : sameLetter a b = true) :
    isWordChar b = isWordChar a := by
  rw [← isWordChar_fold a, beq_iff_eq.1 h, isWordChar_fold]

end Text

namespace CharKind

/-- Whether a kind accepts word characters only. -/
def isWord : CharKind → Bool
  | exactly c | letter c => Text.isWordChar c
  | digit => true
  | blank => false
  | oneOf cs | digitOr cs => cs.all Text.isWordChar

/-- A kind of word characters accepts these only. -/
theorem isWordChar_of_isWord {k : CharKind} {c : Char} (hk : k.isWord = true)
    (hc : k.accepts c = true) : Text.isWordChar c = true := by
  cases k with
  | exactly d =>
    obtain rfl := beq_iff_eq.1 hc
    exact hk
  | letter d => exact (Text.isWordChar_of_sameLetter hc).trans hk
  | digit => exact Text.isWordChar_of_isDigit hc
  | blank => cases hk
  | oneOf cs => exact List.all_eq_true.1 hk c (List.contains_iff_mem.1 hc)
  | digitOr cs =>
    rcases Bool.or_eq_true_iff.1 hc with hdigit | hmem
    · exact Text.isWordChar_of_isDigit hdigit
    · exact List.all_eq_true.1 hk c (List.contains_iff_mem.1 hmem)

end CharKind

end AskLedger
