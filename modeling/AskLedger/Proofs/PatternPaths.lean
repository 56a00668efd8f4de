import AskLedger.Proofs.PatternReading
import AskLedger.Proofs.WordCharacters

/-!
# Where patterns lead

A pattern is in a text if it leads from one place of the text to another. `Pattern.Leads` says this
without the order of preference and without what is remembered, but with word boundaries, so that
phrases of one list can be found again among those of another, piece by piece.

* `Pattern.isIn_iff_leads`: a pattern is in a text exactly if it leads from one place to another.
* `Pattern.isIn_whole_oneOfWords`: which words a text has.
* `Pattern.atWordEdge_behind_gap`, `Pattern.atWordEdge_before_gap`: a word boundary lies between a
  gap and a word.
-/

namespace AskLedger

namespace Pattern

/-- Whether a match can lead from one place to another. -/
def Leads : Pattern → Place → Place → Prop
  | nothing, a, b => a = b
  | one kind, a, b => ∃ c, kind.accepts c = true ∧ a.after = c :: b.after ∧ b.before = c :: a.before
  | many kind, a, b => ∃ s, (∀ c ∈ s, kind.accepts c = true) ∧ a.after = s ++ b.after ∧
      b.before = s.reverse ++ a.before
  | edge, a, b => a = b ∧ a.atWordEdge = true
  | both p q, a, b => ∃ m, p.Leads a m ∧ q.Leads m b
  | either p q, a, b => p.Leads a b ∨ q.Leads a b
  | capture _ p, a, b => p.Leads a b

/-! ## Matches -/

/-- The places of a run include those it was given. -/
theorem mem_runFrom_of_mem {kind : CharKind} {q : Place} {after : List Char} {found : List Place}
    {before : List Char} (h : q ∈ found) : q ∈ runFrom kind found before after := by
  induction after generalizing found before with
  | nil => exact h
  | cons c after ih =>
    rw [runFrom]
    split
    · exact ih (List.mem_cons_of_mem _ h)
    · exact h

/-- They include the places behind accepted characters. -/
theorem mem_runFrom_of_accepts {kind : CharKind} {s rest : List Char} {found : List Place}
    {before : List Char} (hs : ∀ c ∈ s, kind.accepts c = true)
    (hfound : (⟨before, s ++ rest⟩ : Place) ∈ found) :
    ⟨s.reverse ++ before, rest⟩ ∈ runFrom kind found before (s ++ rest) := by
  induction s generalizing found before with
  | nil => exact mem_runFrom_of_mem hfound
  | cons c s ih =>
    obtain ⟨hc, hs⟩ := List.forall_mem_cons.1 hs
    have hbehind : (⟨c :: before, s ++ rest⟩ : Place) ∈ ⟨c :: before, s ++ rest⟩ :: found :=
      List.mem_cons_self
    rw [List.cons_append, runFrom, if_pos hc]
    simpa using ih hs hbehind

/-- What a match reaches is where the pattern leads. -/
theorem leads_of_mem_reaches {p : Pattern} {r e : Reach} (h : e ∈ p.reaches r) :
    p.Leads r.place e.place := by
  induction p generalizing r e with
  | nothing => exact (congrArg Reach.place (List.mem_singleton.1 h)).symm
  | one kind =>
    rw [reaches] at h
    split at h
    · next c rest hafter =>
      split at h
      · next hc =>
        obtain rfl := List.mem_singleton.1 h
        exact ⟨c, hc, hafter, rfl⟩
      · cases h
    · cases h
  | many kind =>
    simp only [reaches, List.mem_map] at h
    obtain ⟨q, hq, rfl⟩ := h
    -- a run ends where it started or behind characters it has read
    rcases mem_runFrom hq with hmem | hrun
    · obtain rfl := List.mem_singleton.1 hmem
      exact ⟨[], fun _ hc => absurd hc List.not_mem_nil, rfl, rfl⟩
    · exact hrun
  | edge =>
    rw [reaches] at h
    split at h
    · next hedge =>
      obtain rfl := List.mem_singleton.1 h
      exact ⟨rfl, hedge⟩
    · cases h
  | both p q ihp ihq =>
    simp only [reaches, List.mem_flatMap] at h
    obtain ⟨m, hm, he⟩ := h
    exact ⟨m.place, ihp hm, ihq he⟩
  | either p q ihp ihq =>
    rw [reaches, List.mem_append] at h
    exact h.imp ihp ihq
  | capture slot p ih =>
    simp only [reaches, List.mem_map] at h
    obtain ⟨m, hm, rfl⟩ := h
    have hlead : p.Leads r.place m.place := ih hm
    exact hlead

/-- Wherever a pattern leads, a match reaches. -/
theorem exists_mem_reaches {p : Pattern} {a b : Place} (h : p.Leads a b)
    (captures : List Capture) : ∃ captures', ⟨b, captures'⟩ ∈ p.reaches ⟨a, captures⟩ := by
  induction p generalizing a b captures with
  | nothing =>
    obtain rfl : a = b := h
    exact ⟨captures, List.mem_singleton_self _⟩
  | one kind =>
    obtain ⟨c, hc, hafter, hbefore⟩ := h
    refine ⟨captures, ?_⟩
    simp [reaches, hafter, hc, ← hbefore]
  | many kind =>
    obtain ⟨s, hs, hafter, hbefore⟩ := h
    refine ⟨captures, ?_⟩
    simp only [reaches, List.mem_map]
    refine ⟨b, ?_, rfl⟩
    -- a run may stop anywhere, so each of its fronts is tried
    obtain ⟨before, after⟩ := a
    obtain ⟨before', after'⟩ := b
    simp only at hafter hbefore
    subst hafter hbefore
    exact mem_runFrom_of_accepts hs List.mem_cons_self
  | edge =>
    obtain ⟨rfl, hedge⟩ := h
    exact ⟨captures, by simp [reaches, hedge]⟩
  | both p q ihp ihq =>
    obtain ⟨m, hp, hq⟩ := h
    obtain ⟨captures', hm⟩ := ihp hp captures
    obtain ⟨captures'', hb⟩ := ihq hq captures'
    exact ⟨captures'', List.mem_flatMap.2 ⟨_, hm, hb⟩⟩
  | either p q ihp ihq =>
    rcases h with h | h
    · obtain ⟨captures', hb⟩ := ihp h captures
      exact ⟨captures', List.mem_append_left _ hb⟩
    · obtain ⟨captures', hb⟩ := ihq h captures
      exact ⟨captures', List.mem_append_right _ hb⟩
  | capture slot p ih =>
    obtain ⟨captures', hb⟩ := ih h captures
    exact ⟨_, List.mem_map.2 ⟨_, hb, rfl⟩⟩

/-- A path stays in its text. -/
theorem whole_of_leads {p : Pattern} {a b : Place} (h : p.Leads a b) : b.whole = a.whole := by
  obtain ⟨captures, hb⟩ := exists_mem_reaches h []
  exact whole_of_mem_reaches hb

/-- There is a match where a path starts. -/
theorem matchAt?_isSome_iff {p : Pattern} {a : Place} :
    (p.matchAt? a).isSome = true ↔ ∃ b, p.Leads a b := by
  rw [matchAt?, Option.isSome_map, List.isSome_head?]
  constructor
  · intro h
    obtain ⟨e, others, hreaches⟩ := List.exists_cons_of_ne_nil (by simpa using h)
    exact ⟨e.place, leads_of_mem_reaches (hreaches ▸ List.mem_cons_self)⟩
  · rintro ⟨b, hb⟩
    obtain ⟨captures, hmem⟩ := exists_mem_reaches hb []
    simpa using List.ne_nil_of_mem hmem

/-- A pattern is in a text exactly if it leads from one place of it to another. -/
theorem isIn_iff_leads {p : Pattern} {text : List Char} :
    p.isIn text = true ↔ ∃ a b, a.whole = text ∧ p.Leads a b := by
  rw [isIn_iff]
  constructor
  · rintro ⟨skipped, rest, rfl, h⟩
    obtain ⟨b, hb⟩ := matchAt?_isSome_iff.1 h
    exact ⟨⟨skipped.reverse, rest⟩, b, by simp [Place.whole], hb⟩
  · rintro ⟨a, b, rfl, hb⟩
    exact ⟨a.before.reverse, a.after, rfl, by
      rw [List.reverse_reverse]
      exact matchAt?_isSome_iff.2 ⟨b, hb⟩⟩

/-- A match at a place starts there and ends where a path does. -/
theorem mem_reaches_of_matchAt? {p : Pattern} {a : Place} {m : Match} (h : p.matchAt? a = some m) :
    m.start = a ∧ m.stop ∈ p.reaches ⟨m.start, []⟩ := by
  rw [matchAt?, Option.map_eq_some_iff] at h
  obtain ⟨e, he, rfl⟩ := h
  exact ⟨rfl, List.mem_of_mem_head? he⟩

/-- A match that is found stands in the text and ends where a path does. -/
theorem mem_reaches_of_findFrom? {p : Pattern} {before text : List Char} {m : Match}
    (h : p.findFrom? before text = some m) :
    m.start.whole = before.reverse ++ text ∧ m.stop ∈ p.reaches ⟨m.start, []⟩ := by
  induction text generalizing before with
  | nil =>
    obtain ⟨hstart, hstop⟩ := mem_reaches_of_matchAt? h
    exact ⟨by rw [hstart]; rfl, hstop⟩
  | cons c text ih =>
    rw [findFrom?] at h
    split at h
    · next m' hm =>
      obtain rfl := Option.some.inj h
      obtain ⟨hstart, hstop⟩ := mem_reaches_of_matchAt? hm
      exact ⟨by rw [hstart]; rfl, hstop⟩
    · simpa using ih h

/-- What is found lies in the text and is reached by a match. -/
theorem mem_reaches_of_find? {p : Pattern} {text : List Char} {m : Match}
    (h : p.find? text = some m) :
    m.start.whole = text ∧ m.stop ∈ p.reaches ⟨m.start, []⟩ :=
  mem_reaches_of_findFrom? h

theorem mem_reaches_of_mem_allFrom {p : Pattern} {before text : List Char} {skip : Nat} {m : Match}
    (h : m ∈ p.allFrom before skip text) :
    m.start.whole = before.reverse ++ text ∧ m.stop ∈ p.reaches ⟨m.start, []⟩ := by
  induction text generalizing before skip with
  | nil =>
    cases skip with
    | zero =>
      obtain ⟨hstart, hstop⟩ := mem_reaches_of_matchAt? (Option.mem_toList.1 h)
      exact ⟨by rw [hstart]; rfl, hstop⟩
    | succ skip => cases h
  | cons c text ih =>
    -- what is found further on stands in the same text
    have hrest : ∀ {skip}, m ∈ p.allFrom (c :: before) skip text →
        m.start.whole = before.reverse ++ c :: text ∧ m.stop ∈ p.reaches ⟨m.start, []⟩ :=
      fun h => by simpa using ih h
    cases skip with
    | zero =>
      rw [allFrom] at h
      split at h
      · next m' hm =>
        rcases List.mem_cons.1 h with rfl | h
        · obtain ⟨hstart, hstop⟩ := mem_reaches_of_matchAt? hm
          exact ⟨by rw [hstart]; rfl, hstop⟩
        · exact hrest h
      · exact hrest h
    | succ skip => exact hrest h

/-- So is every one of all matches. -/
theorem mem_reaches_of_mem_all {p : Pattern} {text : List Char} {m : Match} (h : m ∈ p.all text) :
    m.start.whole = text ∧ m.stop ∈ p.reaches ⟨m.start, []⟩ :=
  mem_reaches_of_mem_allFrom h

/-! ## Compound patterns -/

section
variable {a b : Place}

/-- A path of one pattern and then another goes through a place between them. -/
theorem leads_both {p q : Pattern} : (both p q).Leads a b ↔ ∃ m, p.Leads a m ∧ q.Leads m b :=
  Iff.rfl

theorem leads_either {p q : Pattern} : (either p q).Leads a b ↔ p.Leads a b ∨ q.Leads a b :=
  Iff.rfl

/-- A word edge is passed without a step. -/
theorem leads_edge : edge.Leads a b ↔ a = b ∧ a.atWordEdge = true := Iff.rfl

@[simp]
theorem leads_inOrder_nil : (inOrder []).Leads a b ↔ a = b := Iff.rfl

@[simp]
theorem leads_inOrder_singleton {p : Pattern} : (inOrder [p]).Leads a b ↔ p.Leads a b := Iff.rfl

/-- A path of several patterns is a path of the first and then of the others. -/
theorem leads_inOrder_cons {p : Pattern} {ps : List Pattern} :
    (inOrder (p :: ps)).Leads a b ↔ ∃ m, p.Leads a m ∧ (inOrder ps).Leads m b := by
  cases ps with
  | nil => simp
  | cons q ps => exact Iff.rfl

theorem leads_inOrder_append {ps qs : List Pattern} :
    (inOrder (ps ++ qs)).Leads a b ↔ ∃ m, (inOrder ps).Leads a m ∧ (inOrder qs).Leads m b := by
  induction ps generalizing a with
  | nil => simp
  | cons p ps ih =>
    simp only [List.cons_append, leads_inOrder_cons, ih]
    constructor
    · rintro ⟨m, hp, n, hps, hqs⟩
      exact ⟨n, ⟨m, hp, hps⟩, hqs⟩
    · rintro ⟨n, ⟨m, hp, hps⟩, hqs⟩
      exact ⟨m, hp, n, hps, hqs⟩

/-- A path of a phrase has a gap behind each word. -/
theorem leads_phrase_cons {p q : Pattern} {ps : List Pattern} :
    (phrase (p :: q :: ps)).Leads a b ↔
      ∃ m n, p.Leads a m ∧ gap.Leads m n ∧ (phrase (q :: ps)).Leads n b := by
  have hphrase : phrase (p :: q :: ps) = inOrder [p, gap, phrase (q :: ps)] := rfl
  rw [hphrase, leads_inOrder_cons]
  simp only [leads_inOrder_cons, leads_inOrder_nil]
  simp

/-- A path of whole words starts and ends at word edges. -/
theorem leads_whole {p : Pattern} :
    (whole p).Leads a b ↔ p.Leads a b ∧ a.atWordEdge = true ∧ b.atWordEdge = true := by
  simp only [whole, leads_inOrder_cons, leads_inOrder_nil, leads_edge]
  constructor
  · rintro ⟨_, ⟨rfl, hstart⟩, _, hp, _, ⟨rfl, hstop⟩, rfl⟩
    exact ⟨hp, hstart, hstop⟩
  · rintro ⟨hp, hstart, hstop⟩
    exact ⟨a, ⟨rfl, hstart⟩, b, hp, b, ⟨rfl, hstop⟩, rfl⟩

theorem leads_optional {p : Pattern} : (optional p).Leads a b ↔ p.Leads a b ∨ a = b := Iff.rfl

theorem not_leads_never : ¬never.Leads a b := by
  rintro ⟨c, hc, -⟩
  cases hc

/-- A path of any of several patterns is a path of one of them. -/
theorem leads_anyOf {ps : List Pattern} : (anyOf ps).Leads a b ↔ ∃ p ∈ ps, p.Leads a b := by
  induction ps with
  | nil => simpa [anyOf] using not_leads_never
  | cons p ps ih =>
    cases ps with
    | nil => simp [anyOf]
    | cons q ps =>
      have hchoice : anyOf (p :: q :: ps) = either p (anyOf (q :: ps)) := rfl
      rw [hchoice, leads_either, ih]
      simp

/-- A word is spelled as its two parts one behind the other. -/
theorem leads_spelled_append {v w : String} :
    (spelled (v ++ w)).Leads a b ↔ ∃ m, (spelled v).Leads a m ∧ (spelled w).Leads m b := by
  simp only [spelled, String.toList_append, List.map_append, leads_inOrder_append]

/-- A word with a plural is the word or the word with an `s`. -/
theorem leads_plural {w : String} :
    (plural w).Leads a b ↔ (spelled w).Leads a b ∨ (spelled (w ++ "s")).Leads a b := by
  have hs : spelled "s" = one (.letter 's') := rfl
  rw [leads_spelled_append, plural, leads_both, hs]
  simp only [leads_optional]
  constructor
  · rintro ⟨m, hw, hletter | rfl⟩
    · exact .inr ⟨m, hw, hletter⟩
    · exact .inl hw
  · rintro (hw | ⟨m, hw, hletter⟩)
    · exact ⟨b, hw, .inr rfl⟩
    · exact ⟨m, hw, .inl hletter⟩

end

/-! ## Words of a text -/

/-- A word between word boundaries, letters in either case. -/
def word (w : String) : Pattern := whole (spelled w)

section
variable {text : List Char}

/-- One of several patterns is found as a whole if one of them is. -/
theorem isIn_whole_anyOf_iff {ps : List Pattern} :
    (whole (anyOf ps)).isIn text = true ↔ ∃ p ∈ ps, (whole p).isIn text = true := by
  simp only [isIn_iff_leads, leads_whole, leads_anyOf]
  constructor
  · rintro ⟨a, b, htext, ⟨p, hp, hleads⟩, hedges⟩
    exact ⟨p, hp, a, b, htext, hleads, hedges⟩
  · rintro ⟨p, hp, a, b, htext, hleads, hedges⟩
    exact ⟨a, b, htext, ⟨p, hp, hleads⟩, hedges⟩

theorem isIn_whole_oneOfWords {ws : List String} :
    (whole (oneOfWords ws)).isIn text = true ↔ ∃ w ∈ ws, (word w).isIn text = true := by
  simp only [oneOfWords, isIn_whole_anyOf_iff, List.mem_map, exists_exists_and_eq_and, word]

/-- A word that may be in the plural is found in either form. -/
theorem isIn_whole_plural {w : String} :
    (whole (plural w)).isIn text = true ↔
      (word w).isIn text = true ∨ (word (w ++ "s")).isIn text = true := by
  simp only [word, isIn_iff_leads, leads_whole, leads_plural, or_and_right, and_or_left, exists_or]

end

/-! ## Word boundaries -/

/-- Whether every match starts with a word character. -/
def startsInWord : Pattern → Bool
  | one kind => kind.isWord
  | both p _ => p.startsInWord
  | either p q => p.startsInWord && q.startsInWord
  | capture _ p => p.startsInWord
  | nothing | many _ | edge => false

/-- Whether every match consists of word characters. -/
def isWordy : Pattern → Bool
  | one kind | many kind => kind.isWord
  | both p q | either p q => p.isWordy && q.isWordy
  | capture _ p => p.isWordy
  | nothing | edge => true

/-- Whether every match ends with a word character. -/
def endsInWord : Pattern → Bool
  | one kind => kind.isWord
  -- a second part that may read nothing leaves the end to the first
  | both p q => q.endsInWord || (p.endsInWord && q.isWordy)
  | either p q => p.endsInWord && q.endsInWord
  | capture _ p => p.endsInWord
  | nothing | many _ | edge => false

section
variable {p q : Pattern} {a b : Place}

/-- A path that starts in a word has a word character ahead. -/
theorem after_of_startsInWord (hp : p.startsInWord = true) (h : p.Leads a b) :
    a.after.head?.any Text.isWordChar = true := by
  induction p generalizing a b with
  | one kind =>
    obtain ⟨c, hc, hafter, -⟩ := h
    simp [hafter, CharKind.isWordChar_of_isWord hp hc]
  | both p q ihp ihq =>
    obtain ⟨m, hpm, -⟩ := h
    exact ihp hp hpm
  | either p q ihp ihq =>
    obtain ⟨hp, hq⟩ := (Bool.and_eq_true _ _).mp hp
    exact h.elim (ihp hp) (ihq hq)
  | capture slot p ih => exact ih hp h
  | nothing | many | edge => cases hp

/-- A path within a word has a word character behind it. -/
theorem before_of_isWordy (hp : p.isWordy = true) (h : p.Leads a b)
    (ha : a.before.head?.any Text.isWordChar = true) :
    b.before.head?.any Text.isWordChar = true := by
  induction p generalizing a b with
  | nothing =>
    obtain rfl : a = b := h
    exact ha
  | edge =>
    obtain ⟨rfl, -⟩ := h
    exact ha
  | one kind =>
    obtain ⟨c, hc, -, hbefore⟩ := h
    simp [hbefore, CharKind.isWordChar_of_isWord hp hc]
  | many kind =>
    obtain ⟨s, hs, -, hbefore⟩ := h
    cases hrev : s.reverse with
    | nil => rwa [hbefore, hrev]
    | cons c s' =>
      have hc : c ∈ s := List.mem_reverse.1 (hrev ▸ List.mem_cons_self)
      rw [hbefore, hrev]
      simp [CharKind.isWordChar_of_isWord hp (hs c hc)]
  | both p q ihp ihq =>
    -- behind the first part there is still a word character
    obtain ⟨hp, hq⟩ := (Bool.and_eq_true _ _).mp hp
    obtain ⟨m, hpm, hqm⟩ := h
    exact ihq hq hqm (ihp hp hpm ha)
  | either p q ihp ihq =>
    obtain ⟨hp, hq⟩ := (Bool.and_eq_true _ _).mp hp
    exact h.elim (fun h => ihp hp h ha) fun h => ihq hq h ha
  | capture slot p ih => exact ih hp h ha

/-- A path that ends in a word has a word character behind it. -/
theorem before_of_endsInWord (hp : p.endsInWord = true) (h : p.Leads a b) :
    b.before.head?.any Text.isWordChar = true := by
  induction p generalizing a b with
  | one kind =>
    obtain ⟨c, hc, -, hbefore⟩ := h
    simp [hbefore, CharKind.isWordChar_of_isWord hp hc]
  | both p q ihp ihq =>
    obtain ⟨m, hpm, hqm⟩ := h
    rcases Bool.or_eq_true_iff.1 hp with hq | hpq
    · exact ihq hq hqm
    · obtain ⟨hp, hq⟩ := (Bool.and_eq_true _ _).mp hpq
      exact before_of_isWordy hq hqm (ihp hp hpm)
  | either p q ihp ihq =>
    obtain ⟨hp, hq⟩ := (Bool.and_eq_true _ _).mp hp
    exact h.elim (ihp hp) (ihq hq)
  | capture slot p ih => exact ih hp h
  | nothing | many | edge => cases hp

/-- No word character stands at the start of a gap, nor at its end. -/
theorem not_word_of_gap (h : gap.Leads a b) :
    a.after.head?.any Text.isWordChar = false ∧ b.before.head?.any Text.isWordChar = false := by
  obtain ⟨m, ⟨c, hc, hafter, hbefore⟩, s, hs, -, hbefore'⟩ := h
  have hblank : ∀ d ∈ c :: s, Text.isWordChar d = false :=
    List.forall_mem_cons.2 ⟨Text.isWordChar_of_isBlank hc,
      fun d hd => Text.isWordChar_of_isBlank (hs d hd)⟩
  refine ⟨by simp [hafter, hblank c], ?_⟩
  have hlast : b.before = (c :: s).reverse ++ a.before := by simp [hbefore', hbefore]
  -- the character in front of `b` is the last blank of the gap, whichever that is
  obtain ⟨d, t, hd⟩ := List.exists_cons_of_ne_nil (List.reverse_ne_nil_iff.2 (List.cons_ne_nil c s))
  have hmem : d ∈ c :: s := List.mem_reverse.1 (hd ▸ List.mem_cons_self)
  rw [hlast, hd]
  simp [hblank d hmem]

/-- What starts with a word character behind a gap starts at a word boundary. -/
theorem atWordEdge_behind_gap {m : Place} (hgap : gap.Leads m a) (hp : p.startsInWord = true)
    (h : p.Leads a b) : a.atWordEdge = true := by
  rw [Place.atWordEdge, (not_word_of_gap hgap).2, after_of_startsInWord hp h]
  rfl

/-- What ends with a word character in front of a gap ends at a word boundary. -/
theorem atWordEdge_before_gap {m : Place} (hgap : gap.Leads b m) (hp : p.endsInWord = true)
    (h : p.Leads a b) : b.atWordEdge = true := by
  rw [Place.atWordEdge, (not_word_of_gap hgap).1, before_of_endsInWord hp h]
  rfl

/-- What goes from a gap to a word boundary is a whole word of the text. -/
theorem isIn_whole_behind_gap {text : List Char} {m : Place} (hwhole : m.whole = text)
    (hgap : gap.Leads m a) (hp : p.startsInWord = true) (h : p.Leads a b)
    (hedge : b.atWordEdge = true) : (whole p).isIn text = true := by
  refine isIn_iff_leads.2 ⟨a, b, ?_, leads_whole.2 ⟨h, ?_, hedge⟩⟩
  · rw [whole_of_leads hgap, hwhole]
  · exact atWordEdge_behind_gap hgap hp h

end

end Pattern

end AskLedger
