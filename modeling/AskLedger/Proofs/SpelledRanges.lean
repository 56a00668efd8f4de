import AskLedger.Proofs.LetterCase
import AskLedger.Proofs.SpelledDates

/-!
# Ranges of dates in a message

A message says a range with the words `from A to B`, in letters of either case and with any blanks
between the words. The range pattern reads A and B in the first phrase of this kind whose A and B
have the shape of numeric dates, and it reads them as they are written, since the parts of such a
phrase can be told apart. If the first phrase names a date that does not exist, or if the dates are
ISO dates, then the message is about a single day.

* `DatePhrase.IsFromTo`: the phrase, of which `DatePhrase.IsFromTo.inj` shows that its parts can be
  told apart.
* `DatePhrase.endpoints?_eq_some_iff`: the dates that the range pattern reads.
* `DatePhrase.spelled_dates`: spelled dates, and ranges of them, on their own.
* `DatePhrase.range_or_day`: messages with such a phrase somewhere.
-/

namespace AskLedger

open Text (isBlank isWordChar asciiLower)

/-! ## Words and gaps -/

namespace Text

/-- Whether a text is a word in letters of either case. -/
def Says (word : String) (s : List Char) : Prop := asciiLower s = word.toList

instance (word : String) (s : List Char) : Decidable (Says word s) :=
  inferInstanceAs (Decidable (asciiLower s = word.toList))

/-- Whether a text is blanks, at least one. -/
def IsGap (s : List Char) : Prop := s ≠ [] ∧ ∀ c ∈ s, isBlank c = true

instance (s : List Char) : Decidable (IsGap s) :=
  decidable_of_iff (s ≠ [] ∧ s.all isBlank = true) (by rw [IsGap, List.all_eq_true])

section
variable {s s' gap gap' rest rest' : List Char}

theorem head?_any_isBlank_of_solid (hne : s ≠ []) (hs : ∀ c ∈ s, isBlank c = false) :
    (s ++ rest).head?.any isBlank = false := by
  obtain ⟨c, s, rfl⟩ := List.exists_cons_of_ne_nil hne
  exact hs c List.mem_cons_self

/-- A stretch without blanks ends where a gap starts, and the gap where something else follows. -/
theorem gap_inj (hs : ∀ c ∈ s, isBlank c = false) (hs' : ∀ c ∈ s', isBlank c = false)
    (hgap : IsGap gap) (hgap' : IsGap gap') (hrest : rest.head?.any isBlank = false)
    (hrest' : rest'.head?.any isBlank = false) (h : s ++ (gap ++ rest) = s' ++ (gap' ++ rest')) :
    s = s' ∧ rest = rest' := by
  have hsolid : ∀ {s : List Char}, (∀ c ∈ s, isBlank c = false) →
      ∀ c ∈ s, (fun c => !isBlank c) c = true := fun hs c hc => by simp [hs c hc]
  have hhead : ∀ {gap rest : List Char}, IsGap gap →
      (gap ++ rest).head?.any (fun c => !isBlank c) = false := by
    rintro gap rest ⟨hne, hblank⟩
    obtain ⟨c, gap, rfl⟩ := List.exists_cons_of_ne_nil hne
    simp [hblank c List.mem_cons_self]
  obtain ⟨rfl, hgaps⟩ := run_inj (hsolid hs) (hhead hgap) (hsolid hs') (hhead hgap') h
  exact ⟨rfl, (run_inj hgap.2 hrest hgap'.2 hrest' hgaps).2⟩

end

/-- Whether a character is a small letter that only one other character equals up to case. -/
def isPlainLetter (c : Char) : Bool :=
  fold c == c && c ∉ ['s', 'k', 'ſ', '\u212A']

/-- A plain letter is the same as itself in either case. -/
theorem sameLetter_eq_true_iff {c x : Char} (hc : isPlainLetter c = true) :
    sameLetter c x = true ↔ x.toLower = c := by
  simp only [isPlainLetter, Bool.and_eq_true, beq_iff_eq, decide_eq_true_eq, List.mem_cons,
    List.not_mem_nil, or_false, not_or] at hc
  obtain ⟨hself, hs, hk, hlong, hkelvin⟩ := hc
  rw [sameLetter, hself, beq_iff_eq, fold]
  split
  · next hx =>
    rw [hx]
    exact ⟨fun h => absurd h hs, fun h => absurd h.symm hlong⟩
  · split
    · next hx =>
      rw [hx]
      exact ⟨fun h => absurd h hk, fun h => absurd h.symm hkelvin⟩
    · exact eq_comm

end Text

namespace Pattern

/-- Several patterns describe what the first and then the others describe. -/
theorem describes_inOrder_cons {p : Pattern} {ps : List Pattern} {s : List Char} :
    (inOrder (p :: ps)).Describes s ↔
      ∃ a b, s = a ++ b ∧ p.Describes a ∧ (inOrder ps).Describes b := by
  cases ps with
  | nil =>
    constructor
    · intro h
      exact ⟨s, [], by simp, h, rfl⟩
    · rintro ⟨a, _, rfl, h, rfl⟩
      rw [List.append_nil]
      exact h
  | cons q ps => rfl

/-- A spelling describes its word in letters of either case. -/
theorem describes_spelled {w : String} {s : List Char}
    (hw : w.toList.all Text.isPlainLetter = true) : (spelled w).Describes s ↔ Text.Says w s := by
  rw [spelled, Text.Says]
  generalize w.toList = cs at hw ⊢
  induction cs generalizing s with
  | nil => exact (List.map_eq_nil_iff).symm
  | cons c cs ih =>
    rw [List.all_cons, Bool.and_eq_true] at hw
    rw [List.map_cons, describes_inOrder_cons]
    constructor
    · rintro ⟨_, b, rfl, ⟨x, rfl, hx⟩, hb⟩
      rw [List.singleton_append, Text.asciiLower_cons, (ih hw.2).1 hb,
        (Text.sameLetter_eq_true_iff hw.1).1 hx]
    · intro h
      cases s with
      | nil => cases h
      | cons x s =>
        rw [Text.asciiLower_cons] at h
        obtain ⟨hx, hs⟩ := List.cons.inj h
        exact ⟨[x], s, rfl, ⟨x, rfl, (Text.sameLetter_eq_true_iff hw.1).2 hx⟩, (ih hw.2).2 hs⟩

/-- A choice of plain words describes the texts that say one of them. -/
theorem describes_oneOfWords {ws : List String} {s : List Char}
    (hws : (ws.all fun w => w.toList.all Text.isPlainLetter) = true) :
    (oneOfWords ws).Describes s ↔ ∃ w ∈ ws, Text.Says w s := by
  rw [oneOfWords, describes_anyOf]
  constructor
  · rintro ⟨p, hp, hs⟩
    obtain ⟨w, hw, rfl⟩ := List.mem_map.1 hp
    exact ⟨w, hw, (describes_spelled (List.all_eq_true.1 hws w hw)).1 hs⟩
  · rintro ⟨w, hw, hs⟩
    exact ⟨spelled w, List.mem_map_of_mem hw,
      (describes_spelled (List.all_eq_true.1 hws w hw)).2 hs⟩

theorem describes_oneOrMore {kind : CharKind} {s : List Char} :
    (oneOrMore kind).Describes s ↔ s ≠ [] ∧ ∀ c ∈ s, kind.accepts c = true := by
  constructor
  · rintro ⟨_, b, rfl, ⟨c, rfl, hc⟩, hb⟩
    exact ⟨by simp, List.forall_mem_cons.2 ⟨hc, hb⟩⟩
  · rintro ⟨hne, hs⟩
    obtain ⟨c, b, rfl⟩ := List.exists_cons_of_ne_nil hne
    obtain ⟨hc, hb⟩ := List.forall_mem_cons.1 hs
    exact ⟨[c], b, rfl, ⟨c, rfl, hc⟩, hb⟩

theorem describes_gap {s : List Char} : gap.Describes s ↔ Text.IsGap s :=
  describes_oneOrMore

end Pattern

namespace DatePhrase

/-! ## Phrases for ranges -/

/-- Whether a text is `from A to B`, with `till` or `until` instead of `to` at will. -/
def IsFromTo (A B s : List Char) : Prop :=
  ∃ word gap gap' connector gap'' : List Char, Text.Says "from" word ∧
    (∃ w ∈ ["to", "till", "until"], Text.Says w connector) ∧
    Text.IsGap gap ∧ Text.IsGap gap' ∧ Text.IsGap gap'' ∧
    s = word ++ (gap ++ (A ++ (gap' ++ (connector ++ (gap'' ++ B)))))

/-- Words have no blanks in them. -/
theorem solid_of_word {w : String} {s : List Char}
    (hw : w.toList ≠ [] ∧ w.toList.all (fun c => !isBlank c) = true) (h : Text.Says w s) :
    s ≠ [] ∧ ∀ c ∈ s, isBlank c = false := by
  constructor
  · rintro rfl
    exact hw.1 h.symm
  · intro c hc
    have hmem : c.toLower ∈ w.toList := h ▸ List.mem_map_of_mem hc
    simpa [Text.isBlank_toLower] using List.all_eq_true.1 hw.2 _ hmem

theorem solid_of_connector {s : List Char}
    (h : ∃ w ∈ ["to", "till", "until"], Text.Says w s) : s ≠ [] ∧ ∀ c ∈ s, isBlank c = false := by
  have hall : ∀ w ∈ ["to", "till", "until"],
      w.toList ≠ [] ∧ w.toList.all (fun c => !isBlank c) = true := by decide
  obtain ⟨w, hw, hs⟩ := h
  exact solid_of_word (hall w hw) hs

theorem solid_text (r : DigitRuns) : r.text ≠ [] ∧ ∀ c ∈ r.text, isBlank c = false :=
  ⟨by simp [DigitRuns.text], fun _ hc => DigitRuns.isBlank_of_mem_text hc⟩

/-- The parts of a phrase that no word character follows can be told apart wherever it stands. -/
theorem IsFromTo.inj {r r' r₁ r₁' : DigitRuns} {s s₁ rest rest₁ : List Char}
    (h : IsFromTo r.text r'.text s) (h₁ : IsFromTo r₁.text r₁'.text s₁)
    (hrest : rest.head?.any isWordChar = false) (hrest₁ : rest₁.head?.any isWordChar = false)
    (heq : s ++ rest = s₁ ++ rest₁) : r = r₁ ∧ r' = r₁' := by
  have hdateHead : ∀ {r : DigitRuns} {rest : List Char},
      (r.text ++ rest).head?.any isBlank = false :=
    fun {r _} => Text.head?_any_isBlank_of_solid (solid_text r).1 (solid_text r).2
  have hfrom : "from".toList ≠ [] ∧ "from".toList.all (fun c => !isBlank c) = true := by decide
  obtain ⟨word, gap, gap', connector, gap'', hword, hconnector, hgap, hgap', hgap'', rfl⟩ := h
  obtain ⟨word₁, gap₁, gap₁', connector₁, gap₁'', hword₁, hconnector₁, hgap₁, hgap₁', hgap₁'',
    rfl⟩ := h₁
  obtain ⟨hne, hsolid⟩ := solid_of_connector hconnector
  obtain ⟨hne₁, hsolid₁⟩ := solid_of_connector hconnector₁
  simp only [List.append_assoc] at heq
  -- from the front, each gap tells what stands before it from what stands behind it
  obtain ⟨-, hdates⟩ := Text.gap_inj (solid_of_word hfrom hword).2 (solid_of_word hfrom hword₁).2
    hgap hgap₁ hdateHead hdateHead heq
  obtain ⟨hdate, hconnectors⟩ := Text.gap_inj (solid_text r).2 (solid_text r₁).2 hgap' hgap₁'
    (Text.head?_any_isBlank_of_solid hne hsolid) (Text.head?_any_isBlank_of_solid hne₁ hsolid₁)
    hdates
  obtain ⟨-, hlast⟩ := Text.gap_inj hsolid hsolid₁ hgap'' hgap₁'' hdateHead hdateHead hconnectors
  exact ⟨DigitRuns.eq_of_text_eq hdate, (DigitRuns.text_inj hrest hrest₁ hlast).1⟩

/-! ## What the range pattern reads -/

/-- The range pattern reads such phrases and remembers both dates. -/
theorem reads_fromTo {n : Nat} {s : List Char} {g : List Capture} : fromTo.Reads n s g ↔
    ∃ A B, bareNumericDate.Describes A ∧ bareNumericDate.Describes B ∧ ∃ word gap gap' connector
      gap'' : List Char, Text.Says "from" word ∧
      (∃ w ∈ ["to", "till", "until"], Text.Says w connector) ∧
      Text.IsGap gap ∧ Text.IsGap gap' ∧ Text.IsGap gap'' ∧
      s = word ++ (gap ++ (A ++ (gap' ++ (connector ++ (gap'' ++ B))))) ∧
      g = [⟨2, n + word.length + gap.length + A.length + gap'.length + connector.length +
        gap''.length, B⟩, ⟨1, n + word.length + gap.length, A⟩] := by
  -- only the two dates are remembered; of the other parts it matters just what they describe
  have hfrom : (Pattern.spelled "from").slots = [] := by decide
  have hconnector : (Pattern.oneOfWords ["to", "till", "until"]).slots = [] := by decide
  have hdate : bareNumericDate.slots = [] := by decide
  have hgap : Pattern.gap.slots = [] := by decide
  have hdescribesFrom : ∀ {s}, (Pattern.spelled "from").Describes s ↔ Text.Says "from" s :=
    Pattern.describes_spelled (by decide)
  have hdescribesConnector : ∀ {s}, (Pattern.oneOfWords ["to", "till", "until"]).Describes s ↔
      ∃ w ∈ ["to", "till", "until"], Text.Says w s :=
    Pattern.describes_oneOfWords (by decide)
  simp only [fromTo, Pattern.reads_whole, Pattern.phrase, Pattern.inOrder, Pattern.Reads,
    Pattern.reads_of_slots_eq_nil hfrom, Pattern.reads_of_slots_eq_nil hconnector,
    Pattern.reads_of_slots_eq_nil hdate, Pattern.reads_of_slots_eq_nil hgap, hdescribesFrom,
    hdescribesConnector, Pattern.describes_gap]
  constructor
  · rintro ⟨word, _, _, _, rfl, rfl, ⟨hword, rfl⟩, gap, _, _, _, rfl, rfl, ⟨hgap, rfl⟩,
      A, _, _, _, rfl, rfl, ⟨_, rfl, hA, rfl⟩, gap', _, _, _, rfl, rfl, ⟨hgap', rfl⟩,
      connector, _, _, _, rfl, rfl, ⟨hconnector, rfl⟩, gap'', _, _, _, rfl, rfl, ⟨hgap'', rfl⟩,
      _, rfl, hB, rfl⟩
    exact ⟨A, _, hA, hB, word, gap, gap', connector, gap'', hword, hconnector, hgap, hgap', hgap'',
      rfl, rfl⟩
  · rintro ⟨A, B, hA, hB, word, gap, gap', connector, gap'', hword, hconnector, hgap, hgap', hgap'',
      rfl, rfl⟩
    exact ⟨word, _, _, _, rfl, rfl, ⟨hword, rfl⟩, gap, _, _, _, rfl, rfl, ⟨hgap, rfl⟩,
      A, _, _, _, rfl, rfl, ⟨_, rfl, hA, rfl⟩, gap', _, _, _, rfl, rfl, ⟨hgap', rfl⟩,
      connector, _, _, _, rfl, rfl, ⟨hconnector, rfl⟩, gap'', _, _, _, rfl, rfl, ⟨hgap'', rfl⟩,
      _, rfl, hB, rfl⟩

/-- Whether a message has, behind `front`, a phrase between word boundaries that says a range of A
and B, both in the shape of numeric dates. -/
def HasRange (text front A B : List Char) : Prop :=
  ∃ s rest, text = front ++ (s ++ rest) ∧ IsFromTo A B s ∧ bareNumericDate.Describes A ∧
    bareNumericDate.Describes B ∧ front.getLast?.any isWordChar = false ∧
    rest.head?.any isWordChar = false

/-- Whether A and B are the dates of the first such phrase of a message. -/
def HasFirstRange (text A B : List Char) : Prop :=
  ∃ front, HasRange text front A B ∧
    ∀ front' A' B', HasRange text front' A' B' → front.length ≤ front'.length

section
variable {text front rest A B : List Char}

theorem HasRange.exists_append (h : HasRange text front A B) : ∃ rest, text = front ++ rest := by
  obtain ⟨s, rest, htext, -⟩ := h
  exact ⟨s ++ rest, htext⟩

/-- A match of the range pattern is such a phrase, whose dates are remembered. -/
theorem hasRange_of_matchAt? {m : Match} (h : fromTo.matchAt? ⟨front.reverse, rest⟩ = some m) :
    HasRange (front ++ rest) front (m.group 1) (m.group 2) := by
  obtain ⟨s, rest', hreads, hafter, -, hstart, hplace⟩ := Pattern.reads_of_matchAt? h
  obtain ⟨A, B, hA, hB, word, gap, gap', connector, gap'', hword, hconnector, hgap, hgap', hgap'',
    hs, hcaptures⟩ := reads_fromTo.1 hreads
  have hgroups : m.group 1 = A ∧ m.group 2 = B := by
    simp [Match.group, Match.capture?, hcaptures]
  obtain ⟨-, hstop⟩ := Pattern.mem_reaches_of_matchAt? h
  obtain ⟨hbefore, hrest⟩ := Pattern.outside_of_leads_whole (by decide) (by decide)
    (Pattern.leads_of_mem_reaches hstop)
  rw [hstart, List.head?_reverse] at hbefore
  rw [hplace] at hrest
  rw [hgroups.1, hgroups.2]
  exact ⟨s, rest', congrArg (front ++ ·) hafter, ⟨word, gap, gap', connector, gap'', hword,
    hconnector, hgap, hgap', hgap'', hs⟩, hA, hB, hbefore, hrest⟩

/-- Where there is such a phrase, the range pattern matches, and remembers its dates. -/
theorem matchAt?_of_hasRange (h : HasRange (front ++ rest) front A B) :
    ∃ m, fromTo.matchAt? ⟨front.reverse, rest⟩ = some m ∧ m.group 1 = A ∧ m.group 2 = B := by
  obtain ⟨s, rest', hsplit, hs, hA, hB, hbefore, hrest'⟩ := h
  obtain rfl := List.append_cancel_left hsplit
  have hphrase := hs
  obtain ⟨word, gap, gap', connector, gap'', hword, hconnector, hgap, hgap', hgap'', hparts⟩ :=
    hphrase
  have hreads := (reads_fromTo (n := 0)).2 ⟨A, B, hA, hB, word, gap, gap', connector, gap'', hword,
    hconnector, hgap, hgap', hgap'', hparts, rfl⟩
  have hdescribes := Pattern.describes_of_reads (Pattern.reads_whole.1 hreads)
  have hleads := Pattern.leads_whole_of_describes (by decide) (by decide) (by decide) hdescribes
    (by rwa [List.head?_reverse]) hrest'
  obtain ⟨m, hm⟩ := Option.isSome_iff_exists.1 (Pattern.matchAt?_isSome_iff.2 ⟨_, hleads⟩)
  -- the match has read a phrase, too, and its dates can only be the same
  obtain ⟨s₁, rest₁, hsplit₁, hs₁, hA₁, hB₁, -, hrest₁⟩ := hasRange_of_matchAt? hm
  obtain ⟨r, -, rfl⟩ := describes_bareNumericDate.1 hA
  obtain ⟨r', -, rfl⟩ := describes_bareNumericDate.1 hB
  obtain ⟨r₁, -, heq₁⟩ := describes_bareNumericDate.1 hA₁
  obtain ⟨r₁', -, heq₁'⟩ := describes_bareNumericDate.1 hB₁
  rw [heq₁, heq₁'] at hs₁
  obtain ⟨rfl, rfl⟩ := hs.inj hs₁ hrest' hrest₁ (List.append_cancel_left hsplit₁)
  exact ⟨m, hm, heq₁, heq₁'⟩

/-- The range pattern finds the dates of the first phrase. -/
theorem hasFirstRange_iff :
    HasFirstRange text A B ↔ ∃ m, fromTo.find? text = some m ∧ m.group 1 = A ∧ m.group 2 = B := by
  constructor
  · rintro ⟨front, hrange, hfirst⟩
    obtain ⟨rest, rfl⟩ := hrange.exists_append
    obtain ⟨m, hm, hgroups⟩ := matchAt?_of_hasRange hrange
    refine ⟨m, Pattern.find?_eq_some_iff.2 ⟨front, rest, rfl, hm, ?_⟩, hgroups⟩
    intro front' rest' hsplit hlt
    rw [Option.eq_none_iff_forall_ne_some]
    intro m' hm'
    -- a match further in front would be a range further in front
    have hle := hfirst front' _ _ (hsplit ▸ hasRange_of_matchAt? hm')
    omega
  · rintro ⟨m, hm, rfl, rfl⟩
    obtain ⟨front, rest, rfl, hm, hfirst⟩ := Pattern.find?_eq_some_iff.1 hm
    refine ⟨front, hasRange_of_matchAt? hm, ?_⟩
    intro front' A' B' hrange
    obtain ⟨rest', hsplit⟩ := hrange.exists_append
    -- and a range further in front would have been matched there
    obtain ⟨m', hm', -⟩ := matchAt?_of_hasRange (hsplit ▸ hrange)
    by_contra hlt
    rw [hfirst front' rest' hsplit (Nat.lt_of_not_le hlt)] at hm'
    cases hm'

/-- The dates of a range are those that its first phrase spells. -/
theorem endpoints?_eq_some_iff {a b : Date} : endpoints? text = some (a, b) ↔
    ∃ A B, HasFirstRange text A B ∧ a.IsSpelled A ∧ b.IsSpelled B := by
  constructor
  · intro h
    rw [endpoints?] at h
    split at h
    · next m hm =>
      split at h
      · next a' b' ha hb =>
        obtain ⟨rfl, rfl⟩ := Prod.mk.inj (Option.some.inj h)
        have hfirst : HasFirstRange text (m.group 1) (m.group 2) :=
          hasFirstRange_iff.2 ⟨m, hm, rfl, rfl⟩
        obtain ⟨-, ⟨-, -, -, -, hA, hB, -⟩, -⟩ := hfirst
        exact ⟨_, _, hasFirstRange_iff.2 ⟨m, hm, rfl, rfl⟩,
          (readNumericDate?_eq_some_iff hA).1 ha, (readNumericDate?_eq_some_iff hB).1 hb⟩
      · cases h
    · cases h
  · rintro ⟨A, B, hfirst, ha, hb⟩
    obtain ⟨m, hm, rfl, rfl⟩ := hasFirstRange_iff.1 hfirst
    rw [endpoints?, hm]
    simp only [readNumericDate?_spelled ha, readNumericDate?_spelled hb]

end

/-! ## Ranges of spelled dates -/

/-- The days between two dates, given in either order. -/
def between (a b : Date) : DatePhrase := if a ≤ b then range a b else range b a

/-- A range is the same with its ends exchanged. -/
theorem between_comm (a b : Date) : between a b = between b a := by
  unfold between
  by_cases hab : a ≤ b <;> by_cases hba : b ≤ a
  · obtain rfl := Date.ext_serial (Int.le_antisymm hab hba)
    rfl
  · rw [if_pos hab, if_neg hba]
  · rw [if_neg hab, if_pos hba]
  · exact absurd (Int.le_total a.serial b.serial) (not_or.2 ⟨hab, hba⟩)

theorem window?_between (a b : Date) : (between a b).window? = some (Window.between a b) := by
  unfold between Window.between Date.inOrder
  split <;> rfl

section
variable {text : List Char} {a b : Date} {now : Moment}

/-- Two ends of a range are found before all other dates. -/
theorem find?_of_endpoints? (h : endpoints? text = some (a, b)) :
    find? text now = some (between a b) := by
  have hrange : findRange? text = some (between a b) := by
    have hmap : findRange? text =
        some (range (Date.inOrder a b).1 (Date.inOrder a b).2) := by rw [findRange?, h]; rfl
    rw [hmap, between, Date.inOrder]
    split <;> rfl
  simp [find?, hrange]

/-- The filter for dates keeps just what the range stands for. -/
theorem keep?_of_endpoints? (h : endpoints? text = some (a, b)) (entries : List Entry) :
    rangeWindow? text now = (between a b).window? ∧
      Filter.dateRange.keep? text now entries = some (entries.filter (between a b).covers) := by
  have hwindow : rangeWindow? text now = some (Window.between a b) := by rw [rangeWindow?, h]
  refine ⟨by rw [hwindow, window?_between], ?_⟩
  have hcovers : (between a b).covers = fun e => (Window.between a b).holds e.date := by
    funext e
    -- whichever of the two days is the earlier, the phrase is a range of whole days
    have hdays : ∃ first last, between a b = range first last := by
      unfold between
      split
      · exact ⟨a, b, rfl⟩
      · exact ⟨b, a, rfl⟩
    obtain ⟨first, last, hdays⟩ := hdays
    have hheld : (between a b).covers e = (between a b).window?.any fun w => w.holds e.date := by
      rw [hdays]
      rfl
    rw [hheld, window?_between, Option.any_some]
  have htest : Filter.dateRange.test? text now =
      (rangeWindow? text now).map fun w e => w.holds e.date := rfl
  rw [Filter.keep?, htest, hwindow, hcovers]
  rfl

end

/-- A spelled date is described as a numeric date. -/
theorem describes_of_isSpelled {d : Date} {A : List Char} (h : d.IsSpelled A) :
    bareNumericDate.Describes A := by
  obtain ⟨r, hr, rfl, -⟩ := exists_runs_of_isSpelled h
  exact describes_bareNumericDate.2 ⟨r, hr, rfl⟩

/-- A phrase on its own is the first of its text. -/
theorem endpoints?_isFromTo {a b : Date} {A B s : List Char} (ha : a.IsSpelled A)
    (hb : b.IsSpelled B) (hs : IsFromTo A B s) : endpoints? s = some (a, b) := by
  have hrange : HasRange s [] A B :=
    ⟨s, [], by simp, hs, describes_of_isSpelled ha, describes_of_isSpelled hb, rfl, rfl⟩
  exact endpoints?_eq_some_iff.2 ⟨A, B, ⟨[], hrange, fun _ _ _ _ => Nat.zero_le _⟩, ha, hb⟩

/-- Every spelling of a date is read as that date, and a message that is a spelled date is about
that day. A message that is a range of spelled dates is about the days between them, whichever of
them comes first, and the filter for dates keeps the entries of these days. -/
theorem spelled_dates (now : Moment) :
    (∀ d s, d.IsSpelled s → readNumericDate? s = some d ∧ find? s now = some (day d)) ∧
    (∀ d s, d.IsSpelledIso s → readIsoDate? s = some d ∧ find? s now = some (day d)) ∧
    ∀ a b A B s, a.IsSpelled A → b.IsSpelled B → IsFromTo A B s →
      find? s now = some (between a b) ∧
      (∀ s', IsFromTo B A s' → find? s' now = find? s now) ∧
      rangeWindow? s now = (between a b).window? ∧
      ∀ entries, Filter.dateRange.keep? s now entries =
        some (entries.filter (between a b).covers) := by
  refine ⟨fun d s hs => ⟨readNumericDate?_spelled hs, find?_spelled hs now⟩,
    fun d s hs => ⟨readIsoDate?_spelled hs, find?_spelledIso hs now⟩, ?_⟩
  intro a b A B s ha hb hs
  have hends := endpoints?_isFromTo ha hb hs
  refine ⟨find?_of_endpoints? hends, ?_, (keep?_of_endpoints? hends []).1,
    fun entries => (keep?_of_endpoints? hends entries).2⟩
  intro s' hs'
  rw [find?_of_endpoints? (endpoints?_isFromTo hb ha hs'), find?_of_endpoints? hends,
    between_comm]

/-- The first of March 2025. -/
def march1 : Date := ⟨2025, 3, 1, by decide⟩

/-- The tenth of March 2025. -/
def march10 : Date := ⟨2025, 3, 10, by decide⟩

theorem march1_isSpelled : march1.IsSpelled "1/03-25".toList :=
  ⟨['1'], by decide, ['0', '3'], by decide, ['2', '5'], by decide, '/', by decide, '-', by decide,
    rfl⟩

theorem march10_isSpelled : march10.IsSpelled "10/3/2025".toList :=
  ⟨['1', '0'], by decide, ['3'], by decide, ['2', '0', '2', '5'], by decide, '/', by decide, '/',
    by decide, rfl⟩

theorem march_isFromTo :
    IsFromTo "10/3/2025".toList "1/03-25".toList "From 10/3/2025\ttill  1/03-25".toList :=
  ⟨"From".toList, [' '], ['\t'], "till".toList, [' ', ' '], by decide,
    ⟨"till", by decide, by decide⟩, by decide, by decide, by decide, by decide⟩

/-- Ten days in March, the last of them first. -/
theorem spelled_dates_march (now : Moment) :
    march1.IsSpelled "1/03-25".toList ∧ march10.IsSpelled "10/3/2025".toList ∧
    IsFromTo "10/3/2025".toList "1/03-25".toList "From 10/3/2025\ttill  1/03-25".toList ∧
    find? "From 10/3/2025\ttill  1/03-25".toList now = some (range march1 march10) := by
  have hrange := ((spelled_dates now).2.2 march10 march1 _ _ _ march10_isSpelled march1_isSpelled
    march_isFromTo).1
  exact ⟨march1_isSpelled, march10_isSpelled, march_isFromTo, hrange⟩

/-! ## Messages with a range somewhere -/

/-- Whether a text spells a date in one of the ways in which a message names a day. -/
def IsSpelledDay (d : Date) (s : List Char) : Prop := d.IsSpelled s ∨ d.IsSpelledIso s

/-- Whether the first range of a message, as the range pattern sees it, is one of these dates. -/
def HasDatedRange (text : List Char) (a b : Date) : Prop :=
  ∃ A B, HasFirstRange text A B ∧ a.IsSpelled A ∧ b.IsSpelled B

/-- A message has a dated range if its ends are read. -/
theorem hasDatedRange_iff {text : List Char} {a b : Date} :
    HasDatedRange text a b ↔ endpoints? text = some (a, b) :=
  endpoints?_eq_some_iff.symm

/-- ISO dates have not the shape of the dates of a range. -/
theorem not_describes_of_isSpelledIso {d : Date} {A : List Char} (h : d.IsSpelledIso A) :
    ¬bareNumericDate.Describes A := by
  intro hA
  obtain ⟨r, hiso, rfl, -⟩ := exists_runs_of_isSpelledIso h
  obtain ⟨r', hr', htext⟩ := describes_bareNumericDate.1 hA
  obtain rfl := DigitRuns.eq_of_text_eq htext
  have hfour := hiso.1
  have hshort := hr'.1
  omega

/-- So no phrase with an ISO date counts as a range. -/
theorem HasRange.not_isSpelledIso {text front A B : List Char} (h : HasRange text front A B)
    (d : Date) : ¬d.IsSpelledIso A ∧ ¬d.IsSpelledIso B := by
  obtain ⟨-, -, -, -, hA, hB, -⟩ := h
  exact ⟨fun hd => not_describes_of_isSpelledIso hd hA,
    fun hd => not_describes_of_isSpelledIso hd hB⟩

namespace ReadsRuns

variable {p : Pattern} {Allowed : DigitRuns → Prop} (hp : ReadsRuns p Allowed)
include hp

/-- Whatever is matched are runs that stand apart. -/
theorem exists_runs_of_mem_all {text : List Char} {m : Match}
    (h : m ∈ (Pattern.whole p).all text) :
    ∃ r, Allowed r ∧ m.text = r.text ∧ Text.StandsApart r.text text := by
  have hapart := Pattern.standsApart_of_mem_all hp.startsInWord hp.endsInWord h
  obtain ⟨-, hstop⟩ := Pattern.mem_reaches_of_mem_all h
  obtain ⟨s, g, hreads, hafter, hbefore, -⟩ := Pattern.reads_of_mem_reaches hstop
  obtain ⟨r, hr, rfl, -⟩ := hp.reads_iff.1 hreads
  have htext : m.text = r.text := by
    rw [Match.text, Place.upTo, Place.offset, Place.offset, hbefore, hafter]
    simp
  exact ⟨r, hr, htext, htext ▸ hapart⟩

/-- Runs behind a blank are among all matches. -/
theorem exists_mem_all {r : DigitRuns} {rest : List Char} {c : Char} (front : List Char)
    (hr : Allowed r) (hc : isBlank c = true) (hrest : rest.head?.any isWordChar = false) :
    ∃ m ∈ (Pattern.whole p).all (front ++ c :: (r.text ++ rest)), m.text = r.text := by
  obtain ⟨m, hm, htext, -⟩ := @matchAt?_text _ _ hp r (c :: front.reverse) rest hr
    (Text.isWordChar_of_isBlank hc) hrest
  refine ⟨m, Pattern.mem_all_behind_blank ?_ hc hm, htext⟩
  -- what the pattern describes are runs, which have no blanks
  intro s hs d hd
  obtain ⟨g, hreads⟩ := @Pattern.exists_reads_of_describes _ 0 _ hs
  obtain ⟨r', -, rfl, -⟩ := hp.reads_iff.1 hreads
  exact DigitRuns.isBlank_of_mem_text hd

end ReadsRuns

/-- A day that a message names is a date that stands apart in it. -/
theorem isSpelledDay_of_findDay? {text : List Char} {p : DatePhrase} (h : findDay? text = some p) :
    ∃ d D, IsSpelledDay d D ∧ Text.StandsApart D text ∧ p = day d := by
  rw [findDay?, Option.map_eq_some_iff] at h
  obtain ⟨d, hd, rfl⟩ := h
  rcases Option.or_eq_some_iff.1 hd with hd | ⟨-, hd⟩
  · obtain ⟨m, hm, hread⟩ := List.exists_of_findSome?_eq_some hd
    obtain ⟨r, hr, htext, hapart⟩ := readsRuns_numericDate.exists_runs_of_mem_all hm
    rw [htext] at hread
    exact ⟨d, r.text, .inl ((readNumericDate?_text hr).1 hread), hapart, rfl⟩
  · obtain ⟨m, hm, hread⟩ := List.exists_of_findSome?_eq_some hd
    obtain ⟨r, hr, htext, hapart⟩ := readsRuns_isoDate.exists_runs_of_mem_all hm
    rw [htext] at hread
    exact ⟨d, r.text, .inr ((readIsoDate?_text hr).1 hread), hapart, rfl⟩

/-- A message with a date behind a blank names a day. -/
theorem findDay?_isSome {d : Date} {D rest : List Char} {c : Char} (front : List Char)
    (hd : IsSpelledDay d D) (hc : isBlank c = true) (hrest : rest.head?.any isWordChar = false) :
    (findDay? (front ++ c :: (D ++ rest))).isSome = true := by
  rw [findDay?, Option.isSome_map, Option.isSome_or, Bool.or_eq_true, List.findSome?_isSome_iff,
    List.findSome?_isSome_iff]
  rcases hd with hd | hd
  · have hread := readNumericDate?_spelled hd
    obtain ⟨r, hr, rfl, -⟩ := exists_runs_of_isSpelled hd
    obtain ⟨m, hm, htext⟩ := readsRuns_numericDate.exists_mem_all front hr hc hrest
    exact .inl ⟨m, hm, by rw [htext, hread]; rfl⟩
  · have hread := readIsoDate?_spelled hd
    obtain ⟨r, hr, rfl, -⟩ := exists_runs_of_isSpelledIso hd
    obtain ⟨m, hm, htext⟩ := readsRuns_isoDate.exists_mem_all front hr hc hrest
    exact .inr ⟨m, hm, by rw [htext, hread]; rfl⟩

/-- The first date of a phrase stands between blanks. -/
theorem IsFromTo.exists_blanks {A B s : List Char} (h : IsFromTo A B s) :
    ∃ u c d v, s = u ++ c :: (A ++ d :: v) ∧ isBlank c = true ∧ isBlank d = true := by
  obtain ⟨word, gap, gap', connector, gap'', -, -, ⟨hne, hgap⟩, ⟨hne', hgap'⟩, -, rfl⟩ := h
  obtain ⟨d, gap', rfl⟩ := List.exists_cons_of_ne_nil hne'
  have hsplit : gap = gap.dropLast ++ [gap.getLast hne] := (List.dropLast_append_getLast hne).symm
  refine ⟨word ++ gap.dropLast, gap.getLast hne, d, gap' ++ (connector ++ (gap'' ++ B)), ?_,
    hgap _ (List.getLast_mem hne), hgap' d List.mem_cons_self⟩
  conv_lhs => rw [hsplit]
  simp

/-- Without a range of dates that exist, a message with such a phrase is about a day. -/
theorem exists_day_of_isFromTo {text front s rest A B : List Char} {a : Date} (now : Moment)
    (htext : text = front ++ (s ++ rest)) (hs : IsFromTo A B s) (ha : IsSpelledDay a A)
    (hends : endpoints? text = none) :
    ∃ d D, IsSpelledDay d D ∧ Text.StandsApart D text ∧ find? text now = some (day d) := by
  obtain ⟨u, c, d, v, hsplit, hc, hd⟩ := hs.exists_blanks
  -- the first date of the phrase is found at the latest
  have hfound : (findDay? text).isSome = true := by
    have hnext : (d :: (v ++ rest)).head?.any isWordChar = false := Text.isWordChar_of_isBlank hd
    have hbehind := findDay?_isSome (front ++ u) ha hc hnext
    rw [htext, hsplit]
    simpa using hbehind
  obtain ⟨p, hp⟩ := Option.isSome_iff_exists.1 hfound
  obtain ⟨e, D, he, hapart, rfl⟩ := isSpelledDay_of_findDay? hp
  exact ⟨e, D, he, hapart, by simp [find?, findRange?, hends, hp]⟩

/-- A message with a phrase `from A to B`, A being a date that exists, is about the days between the
dates of its first phrase of numeric dates, if both of these exist. Otherwise it is about a single
day, which is spelled somewhere in it. So it is about the days from A to B if both are numeric dates
and no other phrase of numeric dates starts before theirs; with an ISO date the phrase does not
count. -/
theorem range_or_day {text front s rest A B : List Char} {a : Date} (b : Date)
    (htext : text = front ++ (s ++ rest)) (hs : IsFromTo A B s)
    (hfront : front.getLast?.any isWordChar = false) (hrest : rest.head?.any isWordChar = false)
    (ha : IsSpelledDay a A) (now : Moment) :
    ((∃ first last, HasDatedRange text first last ∧ find? text now = some (between first last)) ∨
      (∀ first last, ¬HasDatedRange text first last) ∧
        ∃ d D, IsSpelledDay d D ∧ Text.StandsApart D text ∧ find? text now = some (day d)) ∧
    (a.IsSpelled A → b.IsSpelled B →
      (∀ front' A' B', HasRange text front' A' B' → front.length ≤ front'.length) →
      find? text now = some (between a b)) ∧
    (a.IsSpelledIso A ∨ b.IsSpelledIso B → ∀ front', ¬HasRange text front' A B) := by
  refine ⟨?_, ?_, ?_⟩
  · -- the first range in numeric dates decides; without one the days in it are read one by one
    cases hends : endpoints? text with
    | some ends =>
      obtain ⟨first, last⟩ := ends
      exact .inl ⟨first, last, hasDatedRange_iff.2 hends, find?_of_endpoints? hends⟩
    | none =>
      obtain ⟨d, D, hd, hapart, hday⟩ := exists_day_of_isFromTo now htext hs ha hends
      refine .inr ⟨fun first last hrange => ?_, d, D, hd, hapart, hday⟩
      rw [hasDatedRange_iff, hends] at hrange
      cases hrange
  · intro ha' hb' hfirst
    have hrange : HasRange text front A B :=
      ⟨s, rest, htext, hs, describes_of_isSpelled ha', describes_of_isSpelled hb', hfront, hrest⟩
    exact find?_of_endpoints? (hasDatedRange_iff.1 ⟨A, B, ⟨front, hrange, hfirst⟩, ha', hb'⟩)
  · rintro (hiso | hiso) front' hrange
    · exact (hrange.not_isSpelledIso a).1 hiso
    · exact (hrange.not_isSpelledIso b).2 hiso

/-- The first ten days of March, as ISO dates. -/
def marchText : List Char := "from 2025-03-01 to 2025-03-10".toList

/-- They are taken for the first of these days. -/
theorem range_or_day_iso :
    IsFromTo "2025-03-01".toList "2025-03-10".toList marchText ∧
    march1.IsSpelledIso "2025-03-01".toList ∧ march10.IsSpelledIso "2025-03-10".toList ∧
    find? marchText (.startOf march10) = some (day march1) ∧
    ∃ d D, IsSpelledDay d D ∧ Text.StandsApart D marchText ∧
      find? marchText (.startOf march10) = some (day d) := by
  have hs : IsFromTo "2025-03-01".toList "2025-03-10".toList marchText :=
    ⟨"from".toList, [' '], [' '], "to".toList, [' '], by decide, ⟨"to", by decide, by decide⟩,
      by decide, by decide, by decide, by decide⟩
  have hfirst : march1.IsSpelledIso "2025-03-01".toList :=
    ⟨by decide, "03".toList, by decide, "01".toList, by decide, by decide⟩
  have hlast : march10.IsSpelledIso "2025-03-10".toList :=
    ⟨by decide, "03".toList, by decide, "10".toList, by decide, by decide⟩
  have htext : marchText = [] ++ (marchText ++ []) := by simp
  have hnone : endpoints? marchText = none := by decide +kernel
  have hmessage := range_or_day march10 htext hs rfl rfl (.inr hfirst) (.startOf march10)
  refine ⟨hs, hfirst, hlast, by decide +kernel, ?_⟩
  rcases hmessage.1 with ⟨first, last, hrange, -⟩ | ⟨-, hday⟩
  · rw [hasDatedRange_iff, hnone] at hrange
    cases hrange
  · exact hday

end DatePhrase

end AskLedger
