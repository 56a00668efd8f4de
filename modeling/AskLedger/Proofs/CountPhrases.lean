import AskLedger.Proofs.AmountPhrases
import AskLedger.Proofs.ReadNumerals
import AskLedger.Proofs.Replacements

/-!
# How many entries a message asks for

A message that asks for a ranking says how many entries it wants with one of five words and a number
behind it. If a unit of time follows, the number belongs to a period. The pattern for counts finds
all of these phrases, since no two of them share a character, and tells counts from periods by what
it prefers to read behind the number.

* `Pattern.pairwise_all`, `Pattern.mem_all_of_matchAt?`: matches come one after the other, and one
  that no other overlaps is among them.
* `Ranking.CountPhrase`: the phrases of a message, of which `Ranking.exists_countPhrase` shows that
  the pattern matches nothing else and `Ranking.CountPhrase.exists_mem_all` that it finds all.
* `Ranking.limit_of_first_count`: the count that decides how many entries are kept.
-/

namespace AskLedger

open Text (isBlank isDigit isWordChar)

/-! ## Stretches that share characters -/

namespace Stretch

variable {s t : Stretch} {text : List Char}

/-- What overlaps a stretch of two parts overlaps one of the parts. -/
theorem overlaps_append {offset : Nat} {u v : List Char} (hs : s.text ≠ [])
    (h : s.Overlaps ⟨offset, u ++ v⟩) :
    s.Overlaps ⟨offset, u⟩ ∨ s.Overlaps ⟨offset + u.length, v⟩ := by
  have hpos := List.length_pos_of_ne_nil hs
  simp only [Overlaps, stop, List.length_append] at h ⊢
  omega

/-- Words and gaps of one text do not overlap. -/
theorem not_overlaps_gap {front back front' back' : List Char}
    (hne : s.text ≠ []) (hs : ∀ c ∈ s.text, isWordChar c = true) (ht : Text.IsGap t.text)
    (hsText : text = front ++ (s.text ++ back)) (hsOffset : s.offset = front.length)
    (htText : text = front' ++ (t.text ++ back')) (htOffset : t.offset = front'.length) :
    ¬s.Overlaps t := by
  rintro ⟨hstart, hstart'⟩
  have hpos := List.length_pos_of_ne_nil hne
  have hpos' := List.length_pos_of_ne_nil ht.1
  simp only [stop] at hstart hstart'
  -- the character where the later one starts belongs to both
  obtain ⟨i, hi⟩ : ∃ i, i = max s.offset t.offset := ⟨_, rfl⟩
  have hsChar : text[i]? = s.text[i - s.offset]? := by
    rw [hsText, List.getElem?_append_right (by omega), List.getElem?_append_left (by omega),
      hsOffset]
  have htChar : text[i]? = t.text[i - t.offset]? := by
    rw [htText, List.getElem?_append_right (by omega), List.getElem?_append_left (by omega),
      htOffset]
  have hword := hs _ (List.getElem_mem (show i - s.offset < s.text.length by omega))
  have hblank := ht.2 _ (List.getElem_mem (show i - t.offset < t.text.length by omega))
  rw [hsChar, List.getElem?_eq_getElem (by omega), List.getElem?_eq_getElem (by omega)] at htChar
  rw [Option.some.inj htChar, Text.isWordChar_of_isBlank hblank] at hword
  cases hword

end Stretch

/-- A remembered stretch with its place. -/
def Capture.stretch (c : Capture) : Stretch := ⟨c.offset, c.text⟩

namespace Pattern

variable {p : Pattern} {text : List Char} {m : Match}

/-! ## The order of all matches -/

/-- All matches are preferred matches in their places. -/
theorem matchAt?_of_mem_all (h : m ∈ p.all text) : p.matchAt? m.start = some m := by
  -- for the induction the search may stand anywhere and have characters to pass over
  suffices hfrom : ∀ before skip, m ∈ p.allFrom before skip text → p.matchAt? m.start = some m from
    hfrom [] 0 h
  clear h
  have hstart : ∀ {a : Place}, p.matchAt? a = some m → p.matchAt? m.start = some m := by
    intro a hm
    rwa [(mem_reaches_of_matchAt? hm).1]
  induction text with
  | nil =>
    intro before skip h
    cases skip with
    | zero => exact hstart (Option.mem_toList.1 h)
    | succ skip => cases h
  | cons c text ih =>
    intro before skip h
    cases skip with
    | zero =>
      rw [allFrom] at h
      split at h
      · next m' hm' =>
        rcases List.mem_cons.1 h with rfl | h
        · exact hstart hm'
        · exact ih _ _ h
      · exact ih _ _ h
    | succ skip => exact ih _ _ h

section
variable (hp : p.takesSome = true)
include hp

/-- Each match ends where the next one starts at the latest. -/
theorem pairwise_all (text : List Char) :
    (p.all text).Pairwise fun m m' => m.stretch.stop ≤ m'.stretch.offset := by
  suffices hfrom : ∀ before,
      (p.allFrom before 0 text).Pairwise fun m m' => m.stretch.stop ≤ m'.stretch.offset from
    hfrom []
  -- a match takes several characters of the text at once
  induction hn : text.length using Nat.strong_induction_on generalizing text with
  | _ n ih =>
    intro before
    cases text with
    | nil =>
      rw [allFrom]
      cases p.matchAt? ⟨before, []⟩ <;> simp
    | cons c text =>
      cases hm : p.matchAt? ⟨before, c :: text⟩ with
      | none =>
        rw [allFrom, hm]
        exact ih text.length (by rw [← hn, List.length_cons]; omega) text rfl (c :: before)
      | some m =>
        obtain ⟨rest, hne, hsplit, hoffset, -, hall⟩ := step_of_match hp hm
        have hpos := List.length_pos_of_ne_nil hne
        rw [hall, List.pairwise_cons]
        constructor
        · intro m' hm'
          have hle := le_offset_of_mem_allFrom hm'
          rw [List.length_append, List.length_reverse] at hle
          have hstretch : m.stretch = ⟨before.length, m.text⟩ := Stretch.ext hoffset rfl
          rw [hstretch]
          simp only [Stretch.stop]
          omega
        · refine ih rest.length ?_ rest rfl _
          rw [← hn, hsplit, List.length_append]
          omega

/-- A match is one of all matches if no other overlaps what it starts with. -/
theorem mem_all_of_matchAt? {front s back : List Char} (hs : s ≠ [])
    (hm : p.matchAt? ⟨front.reverse, s ++ back⟩ = some m)
    (hfree : ∀ m' ∈ p.all (front ++ (s ++ back)), m'.stretch.Overlaps ⟨front.length, s⟩ → m' = m) :
    m ∈ p.all (front ++ (s ++ back)) := by
  by_contra hnot
  have hnone : ∀ m' ∈ p.all (front ++ (s ++ back)), ¬m'.stretch.Overlaps ⟨front.length, s⟩ :=
    fun m' hm' hover => hnot (hfree m' hm' hover ▸ hm')
  -- the search gets to the place of the match
  obtain ⟨out, found, hpasses⟩ := exists_passes_of_free hp (by simp) hs hnone
  obtain ⟨rest, -, -, -, -, hall⟩ := step_of_match hp hm
  refine hnot ?_
  rw [all, (hpasses.split hp).2, List.append_nil, hall]
  exact List.mem_append_right _ List.mem_cons_self

end

/-! ## What comes last in a match -/

/-- The preferred match goes on in the preferred way from where its first parts lead. -/
theorem exists_mid_of_matchAt? (ps qs : List Pattern) {a : Place}
    (h : (inOrder (ps ++ qs)).matchAt? a = some m) :
    m.start = a ∧
      ∃ e ∈ (inOrder ps).reaches ⟨a, []⟩, ((inOrder qs).reaches e).head? = some m.stop := by
  rw [matchAt?, Option.map_eq_some_iff] at h
  obtain ⟨e', he', rfl⟩ := h
  rw [reaches_inOrder_append, List.head?_flatMap] at he'
  exact ⟨rfl, List.exists_of_findSome?_eq_some he'⟩

/-- What is optional in front of a word boundary is read if it leads to one. -/
theorem optional_of_head?_reaches {e e' : Reach}
    (h : ((inOrder [optional p, edge]).reaches e).head? = some e') :
    (e' ∈ p.reaches e ∧ e'.place.atWordEdge = true) ∨
      (e' = e ∧ e.place.atWordEdge = true ∧ ∀ u ∈ p.reaches e, u.place.atWordEdge = false) := by
  have hedge : ∀ {us : List Reach} {u : Reach}, u ∈ us.flatMap edge.reaches ↔
      u ∈ us ∧ u.place.atWordEdge = true := by
    intro us u
    simp only [List.mem_flatMap, reaches]
    constructor
    · rintro ⟨v, hv, hu⟩
      split at hu
      · next hv' =>
        obtain rfl := List.mem_singleton.1 hu
        exact ⟨hv, hv'⟩
      · cases hu
    · rintro ⟨hu, hu'⟩
      exact ⟨u, hu, by simp [hu']⟩
  -- the reaches with the optional part are all tried before the one without it
  have hsplit : (inOrder [optional p, edge]).reaches e =
      (p.reaches e).flatMap edge.reaches ++ [e].flatMap edge.reaches := List.flatMap_append
  rw [hsplit, List.head?_append] at h
  cases hhead : ((p.reaches e).flatMap edge.reaches).head? with
  | some u =>
    rw [hhead, Option.some_or] at h
    obtain rfl := Option.some.inj h
    exact .inl (hedge.1 (List.mem_of_head? hhead))
  | none =>
    rw [hhead, Option.none_or] at h
    obtain ⟨hmem, hat⟩ := hedge.1 (List.mem_of_head? h)
    obtain rfl := List.mem_singleton.1 hmem
    refine .inr ⟨rfl, hat, fun u hu => ?_⟩
    rw [List.head?_eq_none_iff] at hhead
    by_contra hat'
    have hfound := hedge.2 ⟨hu, Bool.not_eq_false _ ▸ hat'⟩
    rw [hhead] at hfound
    cases hfound

/-- A word with or without a plural. -/
theorem describes_plural {w : String} {s : List Char} :
    (plural w).Describes s ↔ Text.Spells w s ∨ Text.Spells (w ++ "s") s := by
  have hletter : ∀ {t : List Char}, (one (.letter 's')).Describes t ↔ Text.Spells "s" t :=
    describes_spelled_iff (w := "s")
  rw [plural, Describes]
  simp only [optional, Describes, describes_spelled_iff]
  constructor
  · rintro ⟨a, b, rfl, ha, hb | rfl⟩
    · refine .inr ?_
      rw [Text.Spells, String.toList_append, List.map_append, List.map_append, ha, hletter.1 hb]
    · exact .inl (by rwa [List.append_nil])
  · rintro (hs | hs)
    · exact ⟨s, [], (List.append_nil s).symm, hs, .inr rfl⟩
    · rw [Text.Spells, String.toList_append, List.map_append] at hs
      obtain ⟨a, b, rfl, ha, hb⟩ := List.map_eq_append_iff.1 hs
      exact ⟨a, b, rfl, ha, .inl (hletter.2 hb)⟩

end Pattern

namespace Text

variable {s front rest : List Char}

theorem IsGap.head?_append (h : IsGap s) : (s ++ rest).head?.any isWordChar = false := by
  rw [List.head?_append_of_ne_nil _ h.1]
  exact head?_any_of_blanks h.2

theorem IsGap.getLast?_append (h : IsGap s) : (front ++ s).getLast?.any isWordChar = false := by
  rw [List.getLast?_append_of_ne_nil _ h.1, List.getLast?_eq_some_getLast h.1]
  exact isWordChar_of_isBlank (h.2 _ (List.getLast_mem h.1))

/-- What does not depend on the case of letters holds of a word however it is spelled. -/
theorem forall_of_spells {words : List String} {property : Char → Bool} {value : Bool}
    (hfold : ∀ c, property (fold c) = property c)
    (hwords : (words.all fun w => w.toList.all fun c => property c == value) = true)
    (hs : ∃ w ∈ words, Spells w s) : ∀ c ∈ s, property c = value := by
  obtain ⟨w, hw, hs⟩ := hs
  intro c hc
  have hmem : fold c ∈ w.toList.map fold := hs ▸ List.mem_map_of_mem hc
  obtain ⟨d, hd, heq⟩ := List.mem_map.1 hmem
  have hvalue := List.all_eq_true.1 (List.all_eq_true.1 hwords w hw) d hd
  rw [← hfold, ← heq, hfold, beq_iff_eq.1 hvalue]

end Text

namespace Ranking

open Pattern

/-! ## Phrases for counts -/

/-- The words in front of the number of a count. -/
def countWords : List String := ["top", "latest", "recent", "first", "last"]

/-- The units of time. -/
def unitWords : List String :=
  ["day", "days", "week", "weeks", "month", "months", "year", "years"]

/-- A phrase of a text that says a number, with what stands around it. -/
@[ext]
structure CountPhrase (text : List Char) where
  /-- What stands in front of the phrase. -/
  front : List Char
  /-- The word for the count. -/
  word : List Char
  /-- The blanks behind the word. -/
  gap : List Char
  /-- The digits of the number. -/
  digits : List Char
  /-- What follows the number. -/
  back : List Char
  /-- All of it together is the text. -/
  text_eq : text = front ++ (word ++ (gap ++ (digits ++ back)))
  /-- The word is not the end of a longer one. -/
  front_apart : front.getLast?.any isWordChar = false
  /-- The word is one of the words for counts. -/
  isCountWord : ∃ w ∈ countWords, Text.Spells w word
  /-- There are blanks between the word and the number. -/
  isGap : Text.IsGap gap
  /-- There are some digits. -/
  digits_ne_nil : digits ≠ []
  /-- They are digits of any script. -/
  areDigits : ∀ c ∈ digits, isDigit c = true
  /-- The number is not the start of a longer word. -/
  back_apart : back.head?.any isWordChar = false

/-- Whether a text goes on with blanks and a unit of time. -/
def SpeaksOfUnit (s : List Char) : Prop :=
  ∃ gap unit rest, s = gap ++ (unit ++ rest) ∧ Text.IsGap gap ∧
    (∃ w ∈ unitWords, Text.Spells w unit) ∧ rest.head?.any isWordChar = false

namespace CountPhrase

variable {text : List Char} (p p' : CountPhrase text)

/-- The place where a phrase starts. -/
def place : Place := ⟨p.front.reverse, p.word ++ (p.gap ++ (p.digits ++ p.back))⟩

theorem whole_place : p.place.whole = text := by
  have hwhole : p.place.whole = p.front ++ (p.word ++ (p.gap ++ (p.digits ++ p.back))) := by
    simp [place, Place.whole]
  exact hwhole.trans p.text_eq.symm

/-- The number of a phrase with its place. -/
def number : Stretch := ⟨p.front.length + p.word.length + p.gap.length, p.digits⟩

/-- Whether the number of a phrase is that of a period. -/
def IsPeriod : Prop := SpeaksOfUnit p.back

/-- The word of a phrase has word characters only. -/
theorem isWordChar_of_mem_word : ∀ c ∈ p.word, isWordChar c = true :=
  Text.forall_of_spells Text.isWordChar_fold (by decide) p.isCountWord

theorem isDigit_of_mem_word : ∀ c ∈ p.word, isDigit c = false :=
  Text.forall_of_spells Text.isDigit_fold (by decide) p.isCountWord

theorem word_ne_nil : p.word ≠ [] := by
  obtain ⟨w, hw, hs⟩ := p.isCountWord
  have hne : ∀ w ∈ countWords, w.toList.map Text.fold ≠ [] := by decide
  intro hnil
  rw [Text.Spells, hnil] at hs
  exact hne w hw hs.symm

/-- The word of a phrase stands apart. -/
theorem word_standsIn : Stretch.StandsIn ⟨p.front.length, p.word⟩ text :=
  ⟨p.front, p.gap ++ (p.digits ++ p.back), p.text_eq, rfl, p.front_apart, p.isGap.head?_append⟩

/-- So does its number. -/
theorem number_standsIn : p.number.StandsIn text :=
  ⟨p.front ++ p.word ++ p.gap, p.back, by simp [p.text_eq, number],
    by simp [number, Nat.add_assoc], p.isGap.getLast?_append, p.back_apart⟩

/-- The parts of a phrase can be told apart, so in each place there is at most one. -/
theorem eq_of_front (h : p.front.length = p'.front.length) : p = p' := by
  have hsolid : ∀ q : CountPhrase text, ∀ c ∈ q.word, isBlank c = false := by
    intro q c hc
    by_contra hblank
    have hword := q.isWordChar_of_mem_word c hc
    rw [Text.isWordChar_of_isBlank (Bool.not_eq_false _ ▸ hblank)] at hword
    cases hword
  have hdigits : ∀ q : CountPhrase text, (q.digits ++ q.back).head?.any isBlank = false :=
    fun q => Text.head?_any_isBlank_of_solid q.digits_ne_nil fun c hc =>
      Text.not_isBlank_of_isDigit (q.areDigits c hc)
  obtain ⟨hfront, hphrase⟩ := List.append_inj (p.text_eq.symm.trans p'.text_eq) h
  obtain ⟨hword, hnumber⟩ := Text.gap_inj (hsolid p) (hsolid p') p.isGap p'.isGap (hdigits p)
    (hdigits p') hphrase
  obtain ⟨hsame, hback⟩ := Text.run_inj p.areDigits
    (Text.any_isDigit_of_not_isWordChar p.back_apart) p'.areDigits
    (Text.any_isDigit_of_not_isWordChar p'.back_apart) hnumber
  rw [hword, hnumber] at hphrase
  have hgap : p.gap = p'.gap := List.append_cancel_right (List.append_cancel_left hphrase)
  exact CountPhrase.ext hfront hword hgap hsame hback

end CountPhrase

/-! ## The pattern for counts -/

/-- What may follow a number: blanks and a unit of time. -/
def unitPart : Pattern :=
  .both .gap (.anyOf [.plural "day", .plural "week", .plural "month", .plural "year"])

/-- A unit stands behind a gap and is one of the words for it. -/
theorem describes_unitPart {s : List Char} : unitPart.Describes s ↔
    ∃ gap unit, s = gap ++ unit ∧ Text.IsGap gap ∧ ∃ w ∈ unitWords, Text.Spells w unit := by
  have hunit : ∀ {u : List Char},
      (anyOf [.plural "day", .plural "week", .plural "month", .plural "year"]).Describes u ↔
        ∃ w ∈ unitWords, Text.Spells w u := by
    intro u
    have hplurals : "day" ++ "s" = "days" ∧ "week" ++ "s" = "weeks" ∧
        "month" ++ "s" = "months" ∧ "year" ++ "s" = "years" := by decide
    simp only [describes_anyOf, List.mem_cons, List.not_mem_nil, or_false, exists_eq_or_imp,
      exists_eq_left, describes_plural, hplurals, unitWords, or_assoc]
  rw [unitPart, Describes]
  simp only [describes_gap, hunit]

/-- A text goes on with a unit of time if this part leads to a word boundary. -/
theorem speaksOfUnit_iff {before s : List Char} : SpeaksOfUnit s ↔
    ∃ b, unitPart.Leads ⟨before, s⟩ b ∧ b.atWordEdge = true := by
  have hend : unitPart.endsInWord = true := by decide +kernel
  constructor
  · rintro ⟨gap, unit, rest, rfl, hgap, hunit, hrest⟩
    have hdescribes := describes_unitPart.2 ⟨gap, unit, rfl, hgap, hunit⟩
    have hleads : unitPart.Leads ⟨before, gap ++ unit ++ rest⟩
        ⟨(gap ++ unit).reverse ++ before, rest⟩ :=
      leads_of_describes (by decide +kernel) hdescribes
    refine ⟨_, by rwa [List.append_assoc] at hleads, ?_⟩
    rw [Place.atWordEdge, before_of_endsInWord hend hleads, hrest]
    rfl
  · rintro ⟨b, hleads, hedge⟩
    obtain ⟨t, ht, hafter, -⟩ := exists_stretch_of_leads hleads
    obtain ⟨gap, unit, rfl, hgap, hunit⟩ := describes_unitPart.1 ht
    exact ⟨gap, unit, b.after, by simpa using hafter, hgap, hunit,
      after_of_atWordEdge hedge (before_of_endsInWord hend hleads)⟩

/-- A unit starts with no word character, since a gap comes first. -/
theorem head?_of_speaksOfUnit {s : List Char} (h : SpeaksOfUnit s) :
    s.head?.any isWordChar = false := by
  obtain ⟨gap, unit, rest, rfl, hgap, -⟩ := h
  exact hgap.head?_append

/-- Behind a number, a unit of time is read and remembered if there is one, and nothing if there is
none. -/
theorem unit_of_head?_reaches {e e' : Reach} (hlast : e.place.before.head?.any isWordChar = true)
    (h : ((inOrder [.optional (.capture 2 unitPart), .edge]).reaches e).head? = some e') :
    e.place.after.head?.any isWordChar = false ∧
    ∃ tail g, e.place.after = tail ++ e'.place.after ∧
      e'.place.before = tail.reverse ++ e.place.before ∧ e'.captures = g ++ e.captures ∧
      (SpeaksOfUnit e.place.after ∧ g = [⟨2, e.place.offset, tail⟩] ∧ unitPart.Describes tail ∧
          e'.place.after.head?.any isWordChar = false ∨
        ¬SpeaksOfUnit e.place.after ∧ g = [] ∧ tail = []) := by
  rcases optional_of_head?_reaches h with ⟨hmem, hedge⟩ | ⟨rfl, hedge, hnone⟩
  · obtain ⟨tail, g, hreads, hafter, hbefore, hcaptures⟩ := reads_of_mem_reaches hmem
    obtain ⟨htail, rfl⟩ := (AmountPhrase.reads_capture (by decide)).1 hreads
    have hleads := leads_of_mem_reaches (p := .capture 2 unitPart) hmem
    have hspeaks : SpeaksOfUnit e.place.after := speaksOfUnit_iff.2 ⟨_, hleads, hedge⟩
    exact ⟨head?_of_speaksOfUnit hspeaks, tail, _, hafter, hbefore, hcaptures,
      .inl ⟨hspeaks, rfl, htail, after_of_atWordEdge hedge
        (before_of_endsInWord (by decide +kernel) hleads)⟩⟩
  · refine ⟨after_of_atWordEdge hedge hlast, [], [], rfl, rfl, rfl,
      .inr ⟨fun hspeaks => ?_, rfl, rfl⟩⟩
    -- a unit of time would have been preferred
    obtain ⟨b, hleads, hb⟩ := speaksOfUnit_iff.1 hspeaks
    obtain ⟨captures, hmem⟩ := exists_mem_reaches (p := .capture 2 unitPart) hleads e'.captures
    rw [hnone _ hmem] at hb
    cases hb

namespace CountPhrase

variable {text : List Char} {m : Match}

/-- Whether a match is that of a phrase. -/
structure IsReadBy (p : CountPhrase text) (m : Match) : Prop where
  /-- It starts with the word. -/
  start : m.start = p.place
  /-- It remembers the number. -/
  number : (m.capture? 1).map Capture.stretch = some p.number
  /-- It remembers a unit of time exactly if one follows. -/
  isPeriod : m.has 2 = true ↔ p.IsPeriod
  /-- It reads the unit as well, if there is one. -/
  text : ∃ tail rest, m.text = p.word ++ (p.gap ++ (p.digits ++ tail)) ∧ p.back = tail ++ rest ∧
    (tail = [] ∨ unitPart.Describes tail ∧ rest.head?.any isWordChar = false)

/-- Whatever the pattern for counts matches is a phrase. -/
theorem exists_isReadBy {a : Place} (hwhole : a.whole = text)
    (h : countPhrase.matchAt? a = some m) : ∃ p : CountPhrase text, p.IsReadBy m := by
  obtain ⟨hstart, e, he, hhead⟩ := exists_mid_of_matchAt?
    [.edge, .oneOfWords countWords, .gap, .capture 1 (.oneOrMore .digit)]
    [.optional (.capture 2 unitPart), .edge] h
  -- the parts up to the number are read first, and the unit from where they end
  have hbefore := before_of_mem_reaches (by decide +kernel) he
  have hlast := before_of_endsInWord (by decide +kernel) (leads_of_mem_reaches he)
  obtain ⟨_, _, hreads, hafter, hplace, hcaptures⟩ := reads_of_mem_reaches he
  obtain ⟨_, _, _, _, rfl, rfl, ⟨rfl, rfl⟩, word, _, _, _, rfl, rfl, hword, gap, digits, _, _, rfl,
    rfl, hgap, hnumber⟩ := hreads
  rw [reads_of_slots_eq_nil (by decide), describes_oneOfWords_iff] at hword
  rw [reads_of_slots_eq_nil (by decide), describes_gap] at hgap
  obtain ⟨hword, rfl⟩ := hword
  obtain ⟨hgap, rfl⟩ := hgap
  obtain ⟨hdigits, rfl⟩ := (AmountPhrase.reads_capture (by decide)).1 hnumber
  obtain ⟨hne, hdigits⟩ := describes_oneOrMore.1 hdigits
  obtain ⟨hback, tail, g, htail, hstop, hcaptures', htails⟩ := unit_of_head?_reaches hlast hhead
  simp only [List.nil_append, List.append_nil, List.append_assoc] at hafter hplace hcaptures
  obtain ⟨before, after⟩ := a
  simp only at hafter hbefore hplace
  subst hafter hwhole
  refine ⟨⟨before.reverse, word, gap, digits, e.place.after, by simp [Place.whole],
    by rwa [List.getLast?_reverse], hword, hgap, hne, hdigits, hback⟩, ⟨?_, ?_, ?_, ?_⟩⟩
  · rw [hstart, place, List.reverse_reverse]
  · rcases htails with ⟨-, rfl, -⟩ | ⟨-, rfl, -⟩ <;>
      simp [Match.capture?, hcaptures', hcaptures, Capture.stretch, number, Place.offset]
  · rcases htails with ⟨hspeaks, rfl, -⟩ | ⟨hnone, rfl, -⟩
    · exact iff_of_true (by simp [Match.has, Match.capture?, hcaptures']) hspeaks
    · exact iff_of_false (by simp [Match.has, Match.capture?, hcaptures', hcaptures]) hnone
  · obtain ⟨s, rest, -, -, htext, -, hplace'⟩ := reads_of_matchAt? h
    rw [hplace', hplace] at hstop
    refine ⟨tail, m.stop.place.after, ?_, htail, htails.symm.imp (fun h => h.2.2) fun h => h.2.2⟩
    have hread : s.reverse ++ before = (word ++ (gap ++ (digits ++ tail))).reverse ++ before := by
      simpa using hstop
    rw [htext, List.reverse_injective (List.append_cancel_right hread)]

section
variable {p p' : CountPhrase text}

/-- Each phrase is matched in its place, and it is what the match reads. -/
theorem exists_match (p : CountPhrase text) :
    ∃ m, countPhrase.matchAt? p.place = some m ∧ p.IsReadBy m := by
  have hword : (oneOfWords countWords).Describes p.word :=
    describes_oneOfWords_iff.2 p.isCountWord
  have hleadsWord : (oneOfWords countWords).Leads p.place
      ⟨p.word.reverse ++ p.front.reverse, p.gap ++ (p.digits ++ p.back)⟩ :=
    leads_of_describes (by decide +kernel) hword
  have hdigits : (Pattern.capture 1 (.oneOrMore .digit)).Describes p.digits :=
    describes_oneOrMore.2 ⟨p.digits_ne_nil, p.areDigits⟩
  have hleadsDigits : (Pattern.capture 1 (.oneOrMore .digit)).Leads
      ⟨p.gap.reverse ++ (p.word.reverse ++ p.front.reverse), p.digits ++ p.back⟩
      ⟨p.digits.reverse ++ (p.gap.reverse ++ (p.word.reverse ++ p.front.reverse)), p.back⟩ :=
    leads_of_describes (by decide +kernel) hdigits
  have hstart : p.place.atWordEdge = true := by
    rw [Place.atWordEdge, after_of_startsInWord (by decide +kernel) hleadsWord, place,
      List.head?_reverse, p.front_apart]
    rfl
  have hstop : Place.atWordEdge
      ⟨p.digits.reverse ++ (p.gap.reverse ++ (p.word.reverse ++ p.front.reverse)), p.back⟩ =
        true := by
    rw [Place.atWordEdge, before_of_endsInWord (by decide +kernel) hleadsDigits, p.back_apart]
    rfl
  have hgap : Pattern.gap.Describes p.gap := describes_gap.2 p.isGap
  -- without a unit of time the pattern leads to the end of the number
  have hleads : ∃ b, countPhrase.Leads p.place b :=
    ⟨_, _, ⟨rfl, hstart⟩, _, hleadsWord, _, leads_of_describes (by decide) hgap, _, hleadsDigits, _,
      .inr rfl, rfl, hstop⟩
  obtain ⟨m, hm⟩ := Option.isSome_iff_exists.1 (matchAt?_isSome_iff.2 hleads)
  obtain ⟨p', hp'⟩ := exists_isReadBy p.whole_place hm
  have hplace : p.place = p'.place := (mem_reaches_of_matchAt? hm).1.symm.trans hp'.start
  have hfront : p.front = p'.front := List.reverse_injective (congrArg Place.before hplace)
  exact ⟨m, hm, p.eq_of_front p' (congrArg List.length hfront) ▸ hp'⟩

theorem IsReadBy.offset (h : p.IsReadBy m) : m.stretch.offset = p.front.length := by
  simp [Match.stretch, h.start, place, Place.offset]

/-- No number is a word for counts. -/
theorem not_overlaps_number : ¬Stretch.Overlaps ⟨p.front.length, p.word⟩ p'.number := by
  intro hover
  have heq := Stretch.eq_of_overlaps p.isWordChar_of_mem_word
    (fun c hc => Text.isWordChar_of_isDigit (p'.areDigits c hc)) p.word_standsIn
    p'.number_standsIn hover
  have hsame : p.word = p'.digits := congrArg Stretch.text heq
  obtain ⟨c, hc⟩ := List.exists_mem_of_ne_nil _ p.word_ne_nil
  have hdigit := p'.areDigits c (hsame ▸ hc)
  rw [p.isDigit_of_mem_word c hc] at hdigit
  cases hdigit

/-- Neither is a unit of time. -/
theorem not_overlaps_unit {t : Stretch} (hunit : ∃ w ∈ unitWords, Text.Spells w t.text)
    (ht : t.StandsIn text) : ¬Stretch.Overlaps ⟨p.front.length, p.word⟩ t := by
  intro hover
  have heq := Stretch.eq_of_overlaps p.isWordChar_of_mem_word
    (Text.forall_of_spells Text.isWordChar_fold (by decide) hunit) p.word_standsIn ht hover
  have hsame : p.word = t.text := congrArg Stretch.text heq
  have hdiffer : ∀ w ∈ countWords, ∀ w' ∈ unitWords,
      w.toList.map Text.fold ≠ w'.toList.map Text.fold := by
    decide
  obtain ⟨w, hw, hs⟩ := p.isCountWord
  obtain ⟨w', hw', hs'⟩ := hunit
  exact hdiffer w hw w' hw' (hs.symm.trans ((congrArg (List.map Text.fold) hsame).trans hs'))

/-- The word of a phrase overlaps only the match of this phrase. -/
theorem eq_of_overlaps (h : p'.IsReadBy m)
    (hover : m.stretch.Overlaps ⟨p.front.length, p.word⟩) : p' = p := by
  obtain ⟨tail, rest, hread, hback, htail⟩ := h.text
  have hstretch : m.stretch = ⟨p'.front.length, p'.word ++ (p'.gap ++ (p'.digits ++ tail))⟩ :=
    Stretch.ext h.offset hread
  have hword := p.isWordChar_of_mem_word
  have hne := p.word_ne_nil
  replace hover := hover.symm
  rw [hstretch] at hover
  -- the match is a word, a gap, a number and a unit, and a count word overlaps only the first
  rcases Stretch.overlaps_append hne hover with hover | hover
  · have heq := Stretch.eq_of_overlaps hword p'.isWordChar_of_mem_word p.word_standsIn
      p'.word_standsIn hover
    exact p'.eq_of_front p (congrArg Stretch.offset heq).symm
  rcases Stretch.overlaps_append hne hover with hover | hover
  · exact absurd hover (Stretch.not_overlaps_gap hne hword p'.isGap p.text_eq rfl
      (by rw [List.append_assoc]; exact p'.text_eq) (by simp))
  rcases htail with rfl | ⟨htail, hrest⟩
  · rw [List.append_nil] at hover
    exact absurd hover not_overlaps_number
  rcases Stretch.overlaps_append hne hover with hover | hover
  · exact absurd hover not_overlaps_number
  obtain ⟨gap, unit, rfl, hgap, hunit⟩ := describes_unitPart.1 htail
  rcases Stretch.overlaps_append hne hover with hover | hover
  · have htext : text = (p'.front ++ (p'.word ++ (p'.gap ++ p'.digits))) ++
        (gap ++ (unit ++ rest)) := by
      simp [p'.text_eq, hback]
    exact absurd hover (Stretch.not_overlaps_gap hne hword hgap p.text_eq rfl htext
      (by simp [Nat.add_assoc]))
  · have hstands : Stretch.StandsIn ⟨_, unit⟩ text :=
      ⟨p'.front ++ (p'.word ++ (p'.gap ++ p'.digits)) ++ gap, rest, by simp [p'.text_eq, hback],
        rfl, hgap.getLast?_append, hrest⟩
    exact absurd (by simpa [Nat.add_assoc] using hover) (not_overlaps_unit hunit hstands)

/-- The pattern for counts finds each phrase. -/
theorem exists_mem_all (p : CountPhrase text) : ∃ m ∈ countPhrase.all text, p.IsReadBy m := by
  obtain ⟨m, hm, hp⟩ := p.exists_match
  refine ⟨m, ?_, hp⟩
  have htext : p.front ++ (p.word ++ (p.gap ++ (p.digits ++ p.back))) = text := p.text_eq.symm
  have hmem := mem_all_of_matchAt? (p := countPhrase) (by decide) p.word_ne_nil hm
  rw [htext] at hmem
  refine hmem fun m' hm' hover => ?_
  obtain ⟨hwhole, -⟩ := mem_reaches_of_mem_all hm'
  obtain ⟨p', hp'⟩ := exists_isReadBy hwhole (matchAt?_of_mem_all hm')
  obtain rfl := eq_of_overlaps hp' hover
  have hmatch := matchAt?_of_mem_all hm'
  rw [hp'.start, hm] at hmatch
  exact (Option.some.inj hmatch).symm

end

end CountPhrase

/-- All matches are phrases. -/
theorem exists_countPhrase {text : List Char} {m : Match} (h : m ∈ countPhrase.all text) :
    ∃ p : CountPhrase text, p.IsReadBy m :=
  CountPhrase.exists_isReadBy (mem_reaches_of_mem_all h).1 (matchAt?_of_mem_all h)

/-! ## The counts of a message -/

/-- Whether a stretch of a text is the number of a phrase and speaks of no period. -/
def IsCountIn (s : Stretch) (text : List Char) : Prop :=
  ∃ p : CountPhrase text, ¬p.IsPeriod ∧ p.number = s

/-- The number of entries that a count asks for, if it can be read. -/
def number? (s : Stretch) : Option Nat := Decimal.natUpTo? Decimal.largestCount s.text

/-- The counts of a text, from left to right. -/
def countNumbers (text : List Char) : List Stretch :=
  (countPhrase.all text).filterMap fun m =>
    if m.has 2 then none else (m.capture? 1).map Capture.stretch

variable {text : List Char} {s t : Stretch} {m : Match} {c : Capture} {n : Nat}

/-- The counts that are found are the counts in the text. -/
theorem mem_countNumbers_iff : s ∈ countNumbers text ↔ IsCountIn s text := by
  rw [countNumbers, List.mem_filterMap]
  constructor
  · rintro ⟨m, hm, hs⟩
    obtain ⟨p, hp⟩ := exists_countPhrase hm
    split at hs
    · cases hs
    · next hhas =>
      have hnumber : p.number = s := Option.some.inj (hp.number.symm.trans hs)
      exact ⟨p, fun hperiod => hhas (hp.isPeriod.2 hperiod), hnumber⟩
  · rintro ⟨p, hperiod, rfl⟩
    obtain ⟨m, hm, hp⟩ := p.exists_mem_all
    exact ⟨m, hm, by rw [if_neg fun hhas => hperiod (hp.isPeriod.1 hhas), hp.number]⟩

/-- The counts are found from left to right. -/
theorem pairwise_countNumbers (text : List Char) :
    (countNumbers text).Pairwise fun s t => s.offset ≤ t.offset := by
  rw [countNumbers, List.pairwise_filterMap]
  refine (pairwise_all (by decide) text).imp_of_mem fun {m m'} hm hm' hle s hs t ht => ?_
  obtain ⟨p, hp⟩ := exists_countPhrase hm
  obtain ⟨p', hp'⟩ := exists_countPhrase hm'
  split at hs
  · cases hs
  split at ht
  · cases ht
  obtain rfl := Option.some.inj (hp.number.symm.trans hs)
  obtain rfl := Option.some.inj (hp'.number.symm.trans ht)
  -- each number lies within its match
  obtain ⟨tail, -, htext, -⟩ := hp.text
  have hlength : m.stretch.text.length = _ := congrArg List.length htext
  rw [Stretch.stop, hp.offset, hp'.offset, hlength] at hle
  simp only [List.length_append] at hle
  simp only [CountPhrase.number]
  omega

/-- The numbers that are read are those of the counts. -/
theorem counts_eq (text : List Char) : counts text = (countNumbers text).filterMap number? := by
  rw [counts, countNumbers, List.filterMap_filterMap]
  refine List.filterMap_congr fun m _ => ?_
  split
  · rfl
  · cases hc : m.capture? 1 with
    | none => simp [Match.group, hc, Decimal.natUpTo?]
    | some c => simp [Match.group, hc, number?, Capture.stretch]

/-- Whether a stretch is a count of a text that can be read as `n`, and `n` is not less than
`least`. -/
def IsCount (least : Nat) (text : List Char) (s : Stretch) (n : Nat) : Prop :=
  IsCountIn s text ∧ number? s = some n ∧ least ≤ n

/-- Whether it is the first of these counts. -/
def IsFirstCount (least : Nat) (text : List Char) (s : Stretch) (n : Nat) : Prop :=
  IsCount least text s n ∧ ∀ t k, IsCount least text t k → s.offset ≤ t.offset

/-- The first count that can be read decides, even if it is zero. -/
theorem limit?_cases (text : List Char) :
    (∃ s n, IsFirstCount 0 text s n ∧ limit? text = if n = 0 then none else some n) ∨
      (∀ s n, ¬IsCount 0 text s n) ∧ limit? text = none := by
  cases hcounts : counts text with
  | nil =>
    refine .inr ⟨fun s n hs => ?_, by rw [limit?, hcounts]⟩
    rw [counts_eq, List.filterMap_eq_nil_iff] at hcounts
    have hnone := hcounts s (mem_countNumbers_iff.2 hs.1)
    rw [hs.2.1] at hnone
    cases hnone
  | cons n others =>
    have hlimit : limit? text = if n = 0 then none else some n := by
      rw [limit?, hcounts]
      rcases Nat.eq_zero_or_pos n with rfl | hpos
      · rfl
      · simp [hpos, Nat.ne_of_gt hpos]
    rw [counts_eq] at hcounts
    obtain ⟨l₁, s, l₂, hsplit, hnone, hs, -⟩ := List.filterMap_eq_cons_iff.1 hcounts
    have hmem : s ∈ countNumbers text := by simp [hsplit]
    refine .inl ⟨s, n, ⟨⟨mem_countNumbers_iff.1 hmem, hs, Nat.zero_le n⟩, ?_⟩, hlimit⟩
    -- counts in front of it cannot be read
    rintro t k ⟨ht, hread, -⟩
    have hsorted := pairwise_countNumbers text
    have ht' := mem_countNumbers_iff.2 ht
    rw [hsplit] at ht' hsorted
    rcases List.mem_append.1 ht' with hfront | hback
    · rw [hnone t hfront] at hread
      cases hread
    · rcases List.mem_cons.1 hback with rfl | hback
      · exact Nat.le_refl _
      · exact List.rel_of_pairwise_cons (List.pairwise_append.1 hsorted).2.1 hback

/-! ## Last days -/

/-- The number of the last days is followed by a unit of time. -/
theorem exists_unit_of_lastDays (h : DatePhrase.lastDaysPhrase.find? text = some m)
    (hc : m.capture? 1 = some c) : (∀ d ∈ c.text, isDigit d = true) ∧
    ∃ front back, text = front ++ (c.text ++ back) ∧ c.offset = front.length ∧
      front.getLast?.any isWordChar = false ∧ SpeaksOfUnit back := by
  obtain ⟨hwhole, hstop⟩ := mem_reaches_of_find? h
  obtain ⟨hreach, -, hedge⟩ := mem_reaches_whole hstop
  obtain ⟨front, digits, rest, hfront, hdigits, hafter, hfound, k, hgap, hday⟩ :=
    exists_capture [.oneOfWords ["last", "past", "previous"], .gap] [.gap, .plural "day"]
      (p := .upToMore 3 .digit) (by decide) hreach
  obtain rfl := Option.some.inj (hfound.symm.trans hc)
  obtain ⟨word, gap, rfl, -, hgapFront⟩ := hfront
  have hunit : SpeaksOfUnit rest := speaksOfUnit_iff.2 ⟨_, ⟨k, hgap, .inl hday⟩, hedge⟩
  refine ⟨accepts_of_describes_upToMore hdigits, m.start.before.reverse ++ word ++ gap, rest, ?_,
    by simp [Place.offset], (describes_gap.1 hgapFront).getLast?_append, hunit⟩
  rw [← hwhole, Place.whole, hafter]
  simp

/-- So it is not the number of a count, nor does it share digits with one. -/
theorem not_overlaps_lastDays (h : DatePhrase.lastDaysPhrase.find? text = some m)
    (hc : m.capture? 1 = some c) (hs : IsCountIn s text) : ¬s.Overlaps c.stretch := by
  obtain ⟨hdigits, front, back, htext, hoffset, hfront, hunit⟩ := exists_unit_of_lastDays h hc
  obtain ⟨p, hperiod, rfl⟩ := hs
  intro hover
  have hword : ∀ {s : List Char}, (∀ c ∈ s, isDigit c = true) → ∀ c ∈ s, isWordChar c = true :=
    fun hs c hc => Text.isWordChar_of_isDigit (hs c hc)
  -- two numbers that stand apart overlap only if they are one and the same
  have heq := Stretch.eq_of_overlaps (hword p.areDigits) (hword hdigits) p.number_standsIn
    ⟨front, back, htext, hoffset, hfront, head?_of_speaksOfUnit hunit⟩ hover
  have hplace : (p.front ++ p.word ++ p.gap).length = front.length := by
    have hsame : p.number.offset = c.offset := congrArg Stretch.offset heq
    rw [← hoffset, ← hsame]
    simp [CountPhrase.number, Nat.add_assoc]
  have hsplit : (p.front ++ p.word ++ p.gap) ++ (p.digits ++ p.back) =
      front ++ (c.text ++ back) := by
    rw [← htext]
    simpa using p.text_eq.symm
  obtain ⟨-, hrest⟩ := List.append_inj hsplit hplace
  have hsame : p.digits = c.text := congrArg Stretch.text heq
  rw [hsame] at hrest
  have hback : p.back = back := List.append_cancel_left hrest
  exact hperiod (by rwa [CountPhrase.IsPeriod, hback])

/-! ## How many entries are kept -/

theorem exists_ranking (hrank : smallestWord.isIn text = true ∨ biggestWord.isIn text = true ∨
    latestWord.isIn text = true) (defaultLimit : Nat) :
    ∃ r, find? text defaultLimit = some r ∧ r.limit = (limit? text).getD defaultLimit := by
  have hsome : (keyAndOrder? text).isSome = true := by
    rw [keyAndOrder?]
    split
    · rfl
    · split
      · rfl
      · split
        · rfl
        · simp_all
  obtain ⟨⟨key, order⟩, hkey⟩ := Option.isSome_iff_exists.1 hsome
  exact ⟨_, by rw [find?, hkey]; rfl, rfl⟩

/-- A ranking keeps as many entries as the first count of its message asks for that can be read. If
that count is zero, or if there is none, it keeps as many as are kept by default. Counts that cannot
be read are passed over. A number of last days never is, nor overlaps, a count. -/
theorem limit_of_first_count (defaultLimit : Nat)
    (hrank : smallestWord.isIn text = true ∨ biggestWord.isIn text = true ∨
      latestWord.isIn text = true) :
    ∃ r, find? text defaultLimit = some r ∧
      ((∃ s n, IsFirstCount 0 text s n ∧ r.limit = if n = 0 then defaultLimit else n) ∨
        (∀ s n, ¬IsCount 0 text s n) ∧ r.limit = defaultLimit) ∧
      ∀ m c, DatePhrase.lastDaysPhrase.find? text = some m → m.capture? 1 = some c →
        ∀ s, IsCountIn s text → ¬s.Overlaps c.stretch := by
  obtain ⟨r, hr, hlimit⟩ := exists_ranking hrank defaultLimit
  refine ⟨r, hr, ?_, fun m c hm hc s hs => not_overlaps_lastDays hm hc hs⟩
  rcases limit?_cases text with ⟨s, n, hfirst, hcount⟩ | ⟨hnone, hcount⟩
  · refine .inl ⟨s, n, hfirst, ?_⟩
    rw [hlimit, hcount]
    split <;> rfl
  · exact .inr ⟨hnone, by rw [hlimit, hcount]; rfl⟩

/-- A message with a count that is too large, a count and a number of days. -/
def mixedCounts : List Char := "latest 99999999999999999999, top 3 of the last 30 days".toList

/-- The first count is passed over, and the days do not count. -/
theorem limit_of_mixedCounts : biggestWord.isIn mixedCounts = true ∧
    find? mixedCounts 10 = some ⟨.amount, .descending, 3⟩ ∧
    (∃ s, IsFirstCount 0 mixedCounts s 3) ∧
    ∀ s, IsCountIn s mixedCounts → ¬s.Overlaps ⟨47, "30".toList⟩ := by
  have hrank : biggestWord.isIn mixedCounts = true := by decide +kernel
  have hfind : find? mixedCounts 10 = some ⟨.amount, .descending, 3⟩ := by decide +kernel
  have hdays : (DatePhrase.lastDaysPhrase.find? mixedCounts).bind (·.capture? 1) =
      some ⟨1, 47, "30".toList⟩ := by
    decide +kernel
  obtain ⟨r, hr, hlimit, hapart⟩ := limit_of_first_count 10 (.inr (.inl hrank))
  obtain ⟨m, hm, hc⟩ := Option.bind_eq_some_iff.1 hdays
  obtain rfl := Option.some.inj (hfind.symm.trans hr)
  refine ⟨hrank, hfind, ?_, hapart m _ hm hc⟩
  rcases hlimit with ⟨s, n, hfirst, hn⟩ | ⟨-, hn⟩
  · split at hn
    · cases hn
    · obtain rfl : 3 = n := hn
      exact ⟨s, hfirst⟩
  · cases hn

/-- A message whose first count is zero. -/
def zeroFirst : List Char := "top 0 latest 5".toList

/-- A count that is zero is not passed over, so the limit is not always the first count that is not
zero. -/
theorem zero_count_decides : ¬∀ (text : List Char) (defaultLimit : Nat) (r : Ranking),
    find? text defaultLimit = some r →
      (∃ s n, IsFirstCount 1 text s n ∧ r.limit = n) ∨
        (∀ s n, ¬IsCount 1 text s n) ∧ r.limit = defaultLimit := by
  have hfind : find? zeroFirst 10 = some ⟨.amount, .descending, 10⟩ := by decide +kernel
  have hcounts : countNumbers zeroFirst = [⟨4, ['0']⟩, ⟨13, ['5']⟩] := by decide +kernel
  intro hclaim
  rcases hclaim zeroFirst 10 _ hfind with ⟨s, n, ⟨⟨hs, hread, -⟩, -⟩, hn⟩ | ⟨hnone, -⟩
  · -- no count is the default
    rw [← mem_countNumbers_iff, hcounts, List.mem_cons, List.mem_singleton] at hs
    obtain rfl : 10 = n := hn
    rcases hs with rfl | rfl <;> revert hread <;> decide
  · exact hnone ⟨13, ['5']⟩ 5
      ⟨mem_countNumbers_iff.1 (by rw [hcounts]; decide), by decide, by decide⟩

end Ranking

end AskLedger
