import AskLedger.Proofs.LetterCase
import AskLedger.Proofs.PatternGroups
import AskLedger.Question.DatePhrase
import AskLedger.Question.Filter
import AskLedger.Question.Ranking

/-!
# The numerals that phrases read

The phrases for amounts, for the number of entries and for the last days each remember numerals of a
message. None of them begins behind a digit, and none breaks off between two digits: what stands
around the numeral in the phrase is no digit, it is a word boundary, or the numeral is read as far
as it goes.

* `Pattern.startsAmong`, `Pattern.endsAmong`: the kinds of the first and the last character.
* `Pattern.StopsBefore`: the preferred match does not break off in front of some characters.
* `Pattern.exists_capture`: the place of what is remembered within a pattern.
* `Capture.IsNumeralOf`: a numeral with its place in a text.
* `isNumeralOf_of_mem_readAmounts`, `isNumeralOf_of_mem_readCounts`: all numerals that phrases read.
-/

namespace AskLedger

open Text (isDigit isWordChar)

/-! ## First and last characters -/

/-- Whether the characters of a kind are no digits. -/
def CharKind.isNoDigit : CharKind → Bool
  | exactly c | letter c => !isDigit c
  | digit | digitOr _ => false
  | blank => true
  | oneOf cs => cs.all fun c => !isDigit c

/-- Folding makes no digits. -/
theorem Text.isDigit_fold (c : Char) : isDigit (fold c) = isDigit c :=
  apply_fold (by decide +kernel) (by decide +kernel) isDigit_toLower c

/-- A kind without digits accepts none. -/
theorem CharKind.isDigit_of_isNoDigit {kind : CharKind} {c : Char} (h : kind.isNoDigit = true)
    (hc : kind.accepts c = true) : isDigit c = false := by
  cases kind with
  | exactly d =>
    obtain rfl := beq_iff_eq.1 hc
    simpa [isNoDigit] using h
  | letter d =>
    rw [← Text.isDigit_fold, ← beq_iff_eq.1 hc, Text.isDigit_fold]
    simpa [isNoDigit] using h
  | digit | digitOr _ => cases h
  | blank =>
    exact Text.isDigit_of_not_isWordChar (Text.isWordChar_of_isBlank hc)
  | oneOf cs =>
    have hall := List.all_eq_true.1 h c (by simpa [accepts] using hc)
    simpa using hall

namespace Pattern

variable {p q : Pattern} {s : List Char}

/-- Whether the first character that is read is of certain kinds. -/
def startsAmong (kinds : CharKind → Bool) : Pattern → Bool
  | nothing | edge => true
  | one kind | many kind => kinds kind
  | both p q => p.startsAmong kinds && (p.takesSome || q.startsAmong kinds)
  | either p q => p.startsAmong kinds && q.startsAmong kinds
  | capture _ p => p.startsAmong kinds

/-- Whether the last character that is read is of certain kinds. -/
def endsAmong (kinds : CharKind → Bool) : Pattern → Bool
  | nothing | edge => true
  | one kind | many kind => kinds kind
  | both p q => q.endsAmong kinds && (q.takesSome || p.endsAmong kinds)
  | either p q => p.endsAmong kinds && q.endsAmong kinds
  | capture _ p => p.endsAmong kinds

section
variable {kinds : CharKind → Bool} {property : Char → Bool}
  (hkinds : ∀ kind c, kinds kind = true → kind.accepts c = true → property c = false)

include hkinds

theorem head?_of_startsAmong (hp : p.startsAmong kinds = true) (h : p.Describes s) :
    s.head?.any property = false := by
  induction p generalizing s with
  | nothing | edge =>
    obtain rfl : s = [] := h
    rfl
  | one kind =>
    obtain ⟨c, rfl, hc⟩ := h
    exact hkinds kind c hp hc
  | many kind =>
    cases s with
    | nil => rfl
    | cons c s => exact hkinds kind c hp (h c List.mem_cons_self)
  | both p q ihp ihq =>
    obtain ⟨a, b, rfl, ha, hb⟩ := h
    obtain ⟨hp, hq⟩ := (Bool.and_eq_true _ _).mp hp
    -- the text starts with the first part, unless nothing of it is there
    cases a with
    | cons c a =>
      have hhead : (c :: a).head?.any property = false := ihp hp ha
      exact hhead
    | nil =>
      rcases Bool.or_eq_true_iff.1 hq with hsome | hq
      · exact absurd rfl (ne_nil_of_takesSome hsome ha)
      · exact ihq hq hb
  | either p q ihp ihq =>
    obtain ⟨hp, hq⟩ := (Bool.and_eq_true _ _).mp hp
    exact h.elim (ihp hp) (ihq hq)
  | capture slot p ih => exact ih hp h

theorem getLast?_of_endsAmong (hp : p.endsAmong kinds = true) (h : p.Describes s) :
    s.getLast?.any property = false := by
  induction p generalizing s with
  | nothing | edge =>
    obtain rfl : s = [] := h
    rfl
  | one kind =>
    obtain ⟨c, rfl, hc⟩ := h
    exact hkinds kind c hp hc
  | many kind =>
    cases hs : s.getLast? with
    | none => rfl
    | some c => exact hkinds kind c hp (h c (List.mem_of_getLast? hs))
  | both p q ihp ihq =>
    obtain ⟨a, b, rfl, ha, hb⟩ := h
    obtain ⟨hq, hp⟩ := (Bool.and_eq_true _ _).mp hp
    -- the text ends with the second part, unless nothing of it is there
    by_cases hnil : b = []
    · subst hnil
      rw [List.append_nil]
      rcases Bool.or_eq_true_iff.1 hp with hsome | hp
      · exact absurd rfl (ne_nil_of_takesSome hsome hb)
      · exact ihp hp ha
    · rw [List.getLast?_append_of_ne_nil _ hnil]
      exact ihq hq hb
  | either p q ihp ihq =>
    obtain ⟨hp, hq⟩ := (Bool.and_eq_true _ _).mp hp
    exact h.elim (ihp hp) (ihq hq)
  | capture slot p ih => exact ih hp h

end

/-! ## Preferred matches -/

/-- Whether the preferred match of a pattern does not break off in front of certain characters. -/
def StopsBefore (property : Char → Bool) (p : Pattern) : Prop :=
  ∀ r e, (p.reaches r).head? = some e → e.place.after.head?.any property = false

section
variable {property : Char → Bool}

/-- What comes last decides. -/
theorem StopsBefore.both (hq : q.StopsBefore property) : (both p q).StopsBefore property := by
  intro r e he
  rw [reaches, List.head?_flatMap] at he
  obtain ⟨m, -, hm⟩ := List.exists_of_findSome?_eq_some he
  exact hq m e hm

theorem StopsBefore.capture {slot : Nat} (hp : p.StopsBefore property) :
    (capture slot p).StopsBefore property := by
  intro r e he
  rw [reaches, List.head?_map, Option.map_eq_some_iff] at he
  obtain ⟨m, hm, rfl⟩ := he
  exact hp r m hm

/-- The farthest place of a run is in front of another character. -/
theorem exists_reaches_many {kind : CharKind}
    (hkind : ∀ c, property c = true → kind.accepts c = true) (r : Reach) :
    ∃ e others, (many kind).reaches r = e :: others ∧ e.place.after.head?.any property = false := by
  -- the reach tried first is the longest run, which no character of its kind follows
  obtain ⟨run, rest, hsplit, hrun, hrest⟩ : ∃ run rest, r.place.after = run ++ rest ∧
      (∀ c ∈ run, kind.accepts c = true) ∧ ∀ c ∈ rest.head?, kind.accepts c = false := by
    refine ⟨_, _, (List.takeWhile_append_dropWhile (p := kind.accepts)).symm,
      fun c hc => List.all_eq_true.1 List.all_takeWhile c hc, ?_⟩
    intro c hc
    exact Bool.eq_false_iff.2 fun h => by
      have hnot := List.head?_dropWhile_not kind.accepts r.place.after
      rw [Option.mem_def.1 hc] at hnot
      simp [h] at hnot
  obtain ⟨⟨before, after⟩, captures⟩ := r
  simp only at hsplit
  subst hsplit
  obtain ⟨others, hothers⟩ := @exists_runFrom_eq_cons kind run rest before [] hrun hrest
  refine ⟨_, _, by rw [reaches, hothers, List.map_cons], ?_⟩
  cases rest with
  | nil => rfl
  | cons c rest =>
    refine Bool.eq_false_iff.2 fun h => ?_
    have hnot := hrest c rfl
    rw [hkind c h] at hnot
    cases hnot

theorem stopsBefore_many {kind : CharKind}
    (hkind : ∀ c, property c = true → kind.accepts c = true) : (many kind).StopsBefore property := by
  intro r e he
  obtain ⟨e', others, hreaches, hstop⟩ := exists_reaches_many hkind r
  rw [hreaches, List.head?_cons] at he
  obtain rfl := Option.some.inj he
  exact hstop

/-- Behind a run something else may be read. -/
theorem stopsBefore_many_optional {kind : CharKind}
    (hkind : ∀ c, property c = true → kind.accepts c = true) (hp : p.StopsBefore property) :
    (Pattern.both (many kind) (optional p)).StopsBefore property := by
  intro r e he
  obtain ⟨m, others, hreaches, hstop⟩ := exists_reaches_many hkind r
  rw [reaches, hreaches, List.flatMap_cons, optional, reaches, reaches, List.append_assoc] at he
  -- behind the farthest place of the run, what may follow is tried before nothing is
  cases hhead : (p.reaches m).head? with
  | some e' =>
    rw [List.head?_append, hhead, Option.some_or] at he
    obtain rfl := Option.some.inj he
    exact hp m e' hhead
  | none =>
    rw [List.head?_append, hhead, Option.none_or] at he
    obtain rfl := Option.some.inj he
    exact hstop

end

/-! ## Remembered parts -/

theorem reaches_inOrder_append {ps qs : List Pattern} {r : Reach} :
    (inOrder (ps ++ qs)).reaches r = ((inOrder ps).reaches r).flatMap (inOrder qs).reaches := by
  have hcons : ∀ (p : Pattern) (ps : List Pattern) (r : Reach),
      (inOrder (p :: ps)).reaches r = (p.reaches r).flatMap (inOrder ps).reaches := by
    intro p ps r
    cases ps with
    | nil => exact (List.flatMap_singleton' _).symm
    | cons q ps => rfl
  induction ps generalizing r with
  | nil => exact (List.flatMap_singleton _ _).symm
  | cons p ps ih =>
    rw [List.cons_append, hcons, hcons, List.flatMap_assoc]
    exact List.flatMap_congr fun m _ => ih

/-- What is remembered under a number that only one part uses is what this part reads, behind what
the parts before it read. -/
theorem exists_capture (ps qs : List Pattern) {slot : Nat} {m : Match}
    (hslot : slot ∉ (inOrder qs).slots)
    (h : m.stop ∈ (inOrder (ps ++ capture slot p :: qs)).reaches ⟨m.start, []⟩) :
    ∃ front s rest, (inOrder ps).Describes front ∧ p.Describes s ∧
      m.start.after = front ++ (s ++ rest) ∧
      m.capture? slot = some ⟨slot, m.start.offset + front.length, s⟩ ∧
      (inOrder qs).Leads ⟨s.reverse ++ (front.reverse ++ m.start.before), rest⟩ m.stop.place := by
  -- the pattern falls into what stands before the captured part, that part, and what follows
  have hsplit : (inOrder (ps ++ capture slot p :: qs)).reaches ⟨m.start, []⟩ =
      ((inOrder ps).reaches ⟨m.start, []⟩).flatMap fun n =>
        ((capture slot p).reaches n).flatMap (inOrder qs).reaches := by
    rw [reaches_inOrder_append]
    exact List.flatMap_congr fun n _ => @reaches_inOrder_append [capture slot p] qs n
  rw [hsplit, List.mem_flatMap] at h
  obtain ⟨n, hn, h⟩ := h
  obtain ⟨k, hk, hstop⟩ := List.mem_flatMap.1 h
  simp only [reaches, List.mem_map] at hk
  obtain ⟨e, he, rfl⟩ := hk
  obtain ⟨front, hfront, hafter, hbefore⟩ := describes_of_mem_reaches hn
  obtain ⟨s, hs, hafter', hbefore'⟩ := describes_of_mem_reaches he
  have hfind := find?_captures_of_mem_reaches hslot hstop
  have hleads := leads_of_mem_reaches hstop
  simp only at hafter hbefore hleads
  refine ⟨front, s, e.place.after, hfront, hs, by rw [hafter, hafter'], ?_, ?_⟩
  · rw [Match.capture?, hfind, List.find?_cons_of_pos (by simp), Place.upTo, Place.offset,
      Place.offset, Place.offset, hbefore', hbefore, hafter']
    simp [Nat.add_comm]
  · rw [← hbefore, ← hbefore']
    exact hleads

end Pattern

/-! ## Numerals -/

/-- Whether a remembered stretch is a numeral of a text: digits, commas and points, with no digit in
front of it, and not broken off between two digits. -/
def Capture.IsNumeralOf (c : Capture) (text : List Char) : Prop :=
  (∀ d ∈ c.text, isDigit d = true ∨ d = ',' ∨ d = '.') ∧
  ∃ before after, text = before ++ (c.text ++ after) ∧ before.length = c.offset ∧
    before.getLast?.any isDigit = false ∧
    (c.text.getLast?.any isDigit = true → after.head?.any isDigit = false)

namespace Pattern

/-- Whether the characters of a numeral are of a kind. -/
def readsNumerals : Pattern → Bool
  | nothing | edge => true
  | one kind | many kind => kind == .digit || kind == .digitOr [','] || kind == .exactly '.'
  | both p q | either p q => p.readsNumerals && q.readsNumerals
  | capture _ p => p.readsNumerals

/-- A numeral has digits, commas and points only. -/
theorem numeral_chars {p : Pattern} {s : List Char} (hp : p.readsNumerals = true)
    (h : p.Describes s) : ∀ c ∈ s, isDigit c = true ∨ c = ',' ∨ c = '.' := by
  -- the only kinds in such a pattern take digits, digits and commas, or the point
  have hkind : ∀ {kind : CharKind} {c : Char},
      (kind == .digit || kind == .digitOr [','] || kind == .exactly '.') = true →
      kind.accepts c = true → isDigit c = true ∨ c = ',' ∨ c = '.' := by
    intro kind c hkind hc
    simp only [Bool.or_eq_true, beq_iff_eq] at hkind
    rcases hkind with (rfl | rfl) | rfl
    · exact .inl hc
    · have hor : isDigit c = true ∨ c = ',' := by simpa [CharKind.accepts] using hc
      exact hor.imp_right .inl
    · exact .inr (.inr (beq_iff_eq.1 hc))
  induction p generalizing s with
  | nothing | edge =>
    obtain rfl : s = [] := h
    exact List.forall_mem_nil _
  | one kind =>
    obtain ⟨c, rfl, hc⟩ := h
    simpa using hkind hp hc
  | many kind => exact fun c hc => hkind hp (h c hc)
  | both p q ihp ihq =>
    obtain ⟨a, b, rfl, ha, hb⟩ := h
    obtain ⟨hp, hq⟩ := (Bool.and_eq_true _ _).mp hp
    exact List.forall_mem_append.2 ⟨ihp hp ha, ihq hq hb⟩
  | either p q ihp ihq =>
    obtain ⟨hp, hq⟩ := (Bool.and_eq_true _ _).mp hp
    exact h.elim (ihp hp) (ihq hq)
  | capture slot p ih => exact ih hp h

/-- What a part of a phrase remembers is a numeral if the parts before it end with something other
than a digit and it does not break off between two digits. -/
theorem isNumeralOf_of_mem_reaches (ps qs : List Pattern) {p : Pattern} {slot : Nat} {m : Match}
    {c : Capture} (hslot : slot ∉ (inOrder qs).slots) (hp : p.readsNumerals = true)
    (hps : (inOrder ps).endsAmong CharKind.isNoDigit = true ∧ (inOrder ps).takesSome = true)
    (h : m.stop ∈ (inOrder (ps ++ capture slot p :: qs)).reaches ⟨m.start, []⟩)
    (hcapture : m.capture? slot = some c)
    (hnext : ∀ b : Place, (inOrder qs).Leads b m.stop.place →
      b.before.head?.any isDigit = true → b.after.head?.any isDigit = false) :
    c.IsNumeralOf m.start.whole ∧ p.Describes c.text := by
  obtain ⟨front, s, rest, hfront, hs, hafter, hfound, hleads⟩ := exists_capture ps qs hslot h
  rw [hfound] at hcapture
  obtain rfl := Option.some.inj hcapture
  refine ⟨⟨numeral_chars hp hs, m.start.before.reverse ++ front, rest, ?_, ?_, ?_, ?_⟩, hs⟩
  · rw [Place.whole, hafter, List.append_assoc]
  · simp [Place.offset]
  · rw [List.getLast?_append_of_ne_nil _ (ne_nil_of_takesSome hps.2 hfront)]
    exact getLast?_of_endsAmong (fun _ _ => CharKind.isDigit_of_isNoDigit) hps.1 hfront
  · intro hlast
    -- what follows the part is read from just behind its last digit
    refine hnext _ hleads ?_
    simp only
    have hne : s ≠ [] := by
      rintro rfl
      cases hlast
    rw [List.head?_append_of_ne_nil _ (List.reverse_ne_nil_iff.2 hne), List.head?_reverse]
    exact hlast

/-- Behind a digit there is no other digit in front of something else or of a word boundary. -/
theorem next_of_leads {qs : List Pattern} {a b : Place}
    (hqs : (inOrder qs).startsAmong CharKind.isNoDigit = true)
    (hedge : (inOrder qs).takesSome = true ∨ b.atWordEdge = true) (h : (inOrder qs).Leads a b)
    (hlast : a.before.head?.any isDigit = true) : a.after.head?.any isDigit = false := by
  obtain ⟨s, hs, hafter, hbefore⟩ := exists_stretch_of_leads h
  have hhead := head?_of_startsAmong (fun _ _ => CharKind.isDigit_of_isNoDigit) hqs hs
  cases s with
  | cons c s =>
    rw [hafter]
    exact hhead
  | nil =>
    rcases hedge with hsome | hedge
    · exact absurd rfl (ne_nil_of_takesSome hsome hs)
    · -- nothing is read up to the word boundary, where a word ends behind the digit
      have hword : a.before.head?.any isWordChar = true := by
        cases hbefore' : a.before.head? with
        | none => simp [hbefore'] at hlast
        | some c =>
          rw [hbefore'] at hlast
          exact Text.isWordChar_of_isDigit hlast
      rw [Place.atWordEdge, hbefore, List.reverse_nil, List.nil_append, hword] at hedge
      rw [hafter]
      exact Text.any_isDigit_of_not_isWordChar (by simpa using hedge)

theorem accepts_of_describes_upToMore {kind : CharKind} {k : Nat} {s : List Char}
    (h : (upToMore k kind).Describes s) : ∀ c ∈ s, kind.accepts c = true := by
  induction k generalizing s with
  | zero =>
    obtain ⟨c, rfl, hc⟩ := h
    simpa using hc
  | succ k ih =>
    obtain ⟨_, b, rfl, ⟨c, rfl, hc⟩, hb⟩ := h
    refine List.forall_mem_cons.2 ⟨hc, ?_⟩
    rcases hb with hb | rfl
    · exact ih hb
    · exact fun c hc => nomatch hc

/-- What ends with a word edge ends at one. -/
theorem atWordEdge_of_leads (qs : List Pattern) {a b : Place}
    (h : (inOrder (qs ++ [edge])).Leads a b) : b.atWordEdge = true := by
  obtain ⟨n, -, rfl, hedge⟩ := leads_inOrder_append.1 h
  exact hedge

/-- The preferred match stops where its pattern does. -/
theorem StopsBefore.matchAt? {p : Pattern} {property : Char → Bool} {place : Place} {m : Match}
    (hp : p.StopsBefore property) (h : p.matchAt? place = some m) :
    m.stop.place.after.head?.any property = false := by
  rw [Pattern.matchAt?, Option.map_eq_some_iff] at h
  obtain ⟨e, he, rfl⟩ := h
  exact hp _ e he

end Pattern

/-! ## The phrases that read numerals -/

/-- The numerals that a message is read for as amounts: the bound and the two amounts between which
others lie. -/
def readAmounts (text : List Char) : List Capture :=
  ((AmountPhrase.bound.find? text).bind (·.capture? 4)).toList ++
  ((AmountPhrase.between.find? text).bind (·.capture? 2)).toList ++
  ((AmountPhrase.between.find? text).bind (·.capture? 5)).toList

/-- The numerals that a message is read for as counts: the numbers of entries and the number of the
last days. -/
def readCounts (text : List Char) : List Capture :=
  (Ranking.countPhrase.all text).filterMap (·.capture? 1) ++
  ((DatePhrase.lastDaysPhrase.find? text).bind (·.capture? 1)).toList

open Pattern

variable {text : List Char} {c : Capture} {m : Match}

/-- The number of a bound is a numeral of the text. -/
theorem isNumeralOf_bound (h : AmountPhrase.bound.find? text = some m)
    (hc : m.capture? 4 = some c) : c.IsNumeralOf text := by
  obtain ⟨hwhole, hstop⟩ := mem_reaches_of_find? h
  obtain ⟨front, rest, -, hm, -⟩ := find?_eq_some_iff.1 h
  -- the number comes last and is read as far as it goes
  have hdigit : ∀ c, isDigit c = true → CharKind.digit.accepts c = true := fun _ h => h
  have hdigitOr : ∀ c, isDigit c = true → (CharKind.digitOr [',']).accepts c = true :=
    fun c h => by simp [CharKind.accepts, h]
  have hnumber : (AmountPhrase.number 4).StopsBefore isDigit :=
    (stopsBefore_many_optional hdigitOr (stopsBefore_many hdigit).both.both).both.capture
  have hbound : AmountPhrase.bound.StopsBefore isDigit := hnumber.both.both.both.both
  have hnext := hbound.matchAt? hm
  rw [← hwhole]
  refine (isNumeralOf_of_mem_reaches [edge, _, _, _] [] (by decide) (by decide)
    (by decide +kernel) hstop hc ?_).1
  rintro b rfl -
  exact hnext

theorem isNumeralOf_between (h : AmountPhrase.between.find? text = some m)
    (hc : m.capture? 2 = some c ∨ m.capture? 5 = some c) : c.IsNumeralOf text := by
  obtain ⟨hwhole, hstop⟩ := mem_reaches_of_find? h
  rw [← hwhole]
  -- a blank stands behind the first amount at the latest, a word boundary behind the second
  rcases hc with hc | hc
  · refine (isNumeralOf_of_mem_reaches [edge, _, _, _, _]
      [AmountPhrase.ordinal 3, gap, _, gap, AmountPhrase.article, AmountPhrase.currency 4,
        AmountPhrase.number 5, AmountPhrase.ordinal 6, edge]
      (by decide) (by decide) (by decide +kernel) hstop hc ?_).1
    exact fun b hb => next_of_leads (by decide +kernel) (.inl (by decide)) hb
  · refine (isNumeralOf_of_mem_reaches [edge, _, _, _, _, _, _, _, _, _, _, _]
      [AmountPhrase.ordinal 6, edge] (by decide) (by decide) (by decide +kernel) hstop hc ?_).1
    intro b hb
    exact next_of_leads (by decide +kernel) (.inr (atWordEdge_of_leads [_] hb)) hb

/-- Whatever is read as an amount is a numeral of the message. -/
theorem isNumeralOf_of_mem_readAmounts (h : c ∈ readAmounts text) : c.IsNumeralOf text := by
  simp only [readAmounts, List.mem_append, Option.mem_toList, Option.bind_eq_some_iff] at h
  rcases h with (⟨m, hm, hc⟩ | ⟨m, hm, hc⟩) | ⟨m, hm, hc⟩
  · exact isNumeralOf_bound hm hc
  · exact isNumeralOf_between hm (.inl hc)
  · exact isNumeralOf_between hm (.inr hc)

/-- The number of a count is a numeral of the text. -/
theorem isNumeralOf_countPhrase (h : m ∈ Ranking.countPhrase.all text)
    (hc : m.capture? 1 = some c) : c.IsNumeralOf text ∧ ∀ d ∈ c.text, isDigit d = true := by
  obtain ⟨hwhole, hstop⟩ := mem_reaches_of_mem_all h
  have hnumeral : c.IsNumeralOf m.start.whole ∧ (oneOrMore .digit).Describes c.text := by
    refine isNumeralOf_of_mem_reaches [edge, _, _] [_, edge] (by decide) (by decide)
      (by decide +kernel) hstop hc ?_
    intro b hb
    exact next_of_leads (by decide +kernel) (.inr (atWordEdge_of_leads [_] hb)) hb
  rw [hwhole] at hnumeral
  obtain ⟨hnumeral, _, b, hsplit, ⟨d, rfl, hd⟩, hb⟩ := hnumeral
  exact ⟨hnumeral, by rw [hsplit]; exact List.forall_mem_cons.2 ⟨hd, hb⟩⟩

theorem isNumeralOf_lastDaysPhrase (h : DatePhrase.lastDaysPhrase.find? text = some m)
    (hc : m.capture? 1 = some c) : c.IsNumeralOf text ∧ ∀ d ∈ c.text, isDigit d = true := by
  obtain ⟨hwhole, hstop⟩ := mem_reaches_of_find? h
  have hnumeral : c.IsNumeralOf m.start.whole ∧ (upToMore 3 .digit).Describes c.text := by
    refine isNumeralOf_of_mem_reaches [_, gap] [gap, _] (by decide) (by decide)
      (by decide +kernel) (mem_reaches_whole hstop).1 hc ?_
    exact fun b hb => next_of_leads (by decide +kernel) (.inl (by decide)) hb
  rw [hwhole] at hnumeral
  exact ⟨hnumeral.1, accepts_of_describes_upToMore hnumeral.2⟩

/-- Whatever is read as a count is a numeral of the message, of digits only. -/
theorem isNumeralOf_of_mem_readCounts (h : c ∈ readCounts text) :
    c.IsNumeralOf text ∧ ∀ d ∈ c.text, isDigit d = true := by
  simp only [readCounts, List.mem_append, Option.mem_toList, Option.bind_eq_some_iff,
    List.mem_filterMap] at h
  rcases h with ⟨m, hm, hc⟩ | ⟨m, hm, hc⟩
  · exact isNumeralOf_countPhrase hm hc
  · exact isNumeralOf_lastDaysPhrase hm hc

end AskLedger
