import AskLedger.Pattern.Search

/-!
# What patterns read

A match reads a stretch of the text. Which stretches a pattern can read at all is said by
`Pattern.Describes`, which forgets word boundaries and everything around the stretch.

From the pattern alone it can be computed that it reads nothing of a text with few characters
(`Pattern.cannotRead`) or nothing at a place before a given character (`Pattern.cannotStart`). Both
facts hold for texts of any length, so they serve for messages that contain arbitrary numbers.

* `Pattern.describes_of_mem_reaches`: a match reads a stretch that its pattern describes.
* `Pattern.isAbsent_of_cannotRead`: a pattern is not in a text of characters it cannot read.
* `Pattern.findFrom?_append`: a search passes over places where no match starts.
* `Pattern.reaches_capture_both`: what is remembered of a run is all of it, if it cannot be left
  early.
-/

namespace AskLedger

/-- The stretch between two places is what was read between them. -/
theorem Place.upTo_append (before s rest : List Char) :
    Place.upTo ⟨before, s ++ rest⟩ ⟨s.reverse ++ before, rest⟩ = s := by
  simp [upTo, offset]

namespace Pattern

/-! ## Stretches -/

/-- The stretches that a pattern describes, whatever stands around them. -/
def Describes : Pattern → List Char → Prop
  | nothing, s => s = []
  | one kind, s => ∃ c, s = [c] ∧ kind.accepts c = true
  | many kind, s => ∀ c ∈ s, kind.accepts c = true
  | edge, s => s = []
  | both p q, s => ∃ a b, s = a ++ b ∧ p.Describes a ∧ q.Describes b
  | either p q, s => p.Describes s ∨ q.Describes s
  | capture _ p, s => p.Describes s

/-- The places that a run reaches are those it was given and those behind accepted characters. -/
theorem mem_runFrom {kind : CharKind} {q : Place} :
    ∀ {after : List Char} {found : List Place} {before : List Char},
      q ∈ runFrom kind found before after →
      q ∈ found ∨ ∃ s, (∀ c ∈ s, kind.accepts c = true) ∧ after = s ++ q.after ∧
        q.before = s.reverse ++ before
  | [], _, _, h => .inl h
  | c :: rest, found, before, h => by
    rw [runFrom] at h
    split at h
    · next hc =>
      -- the run goes on behind `c`, and the place there counts as found
      rcases mem_runFrom h with hmem | ⟨s, hs, hafter, hbefore⟩
      · rcases List.mem_cons.1 hmem with rfl | hmem
        · exact .inr ⟨[c], by simpa using hc, rfl, rfl⟩
        · exact .inl hmem
      · refine .inr ⟨c :: s, ?_, by simp [hafter], by simp [hbefore]⟩
        exact List.forall_mem_cons.2 ⟨hc, hs⟩
    · exact .inl h

/-- A match reads a stretch that its pattern describes. -/
theorem describes_of_mem_reaches {p : Pattern} {r e : Reach} (h : e ∈ p.reaches r) :
    ∃ s, p.Describes s ∧ r.place.after = s ++ e.place.after ∧
      e.place.before = s.reverse ++ r.place.before := by
  induction p generalizing r e with
  | nothing =>
    rw [reaches, List.mem_singleton] at h
    subst h
    exact ⟨[], rfl, rfl, rfl⟩
  | one kind =>
    rw [reaches] at h
    split at h
    · next c rest hafter =>
      split at h
      · next hc =>
        rw [List.mem_singleton] at h
        subst h
        exact ⟨[c], ⟨c, rfl, hc⟩, hafter, rfl⟩
      · cases h
    · cases h
  | many kind =>
    simp only [reaches, List.mem_map] at h
    obtain ⟨q, hq, rfl⟩ := h
    rcases mem_runFrom hq with hmem | ⟨s, hs, hafter, hbefore⟩
    · rw [List.mem_singleton] at hmem
      subst hmem
      exact ⟨[], fun _ hc => absurd hc List.not_mem_nil, rfl, rfl⟩
    · exact ⟨s, hs, hafter, hbefore⟩
  | edge =>
    rw [reaches] at h
    split at h
    · rw [List.mem_singleton] at h
      subst h
      exact ⟨[], rfl, rfl, rfl⟩
    · cases h
  | both p q ihp ihq =>
    simp only [reaches, List.mem_flatMap] at h
    obtain ⟨m, hm, he⟩ := h
    -- the second pattern goes on from where the first one stopped
    obtain ⟨a, ha, hafter, hbefore⟩ := ihp hm
    obtain ⟨b, hb, hafter', hbefore'⟩ := ihq he
    exact ⟨a ++ b, ⟨a, b, rfl, ha, hb⟩, by simp [hafter, hafter'], by simp [hbefore, hbefore']⟩
  | either p q ihp ihq =>
    rw [reaches, List.mem_append] at h
    rcases h with h | h
    · obtain ⟨s, hs, hplace⟩ := ihp h
      exact ⟨s, .inl hs, hplace⟩
    · obtain ⟨s, hs, hplace⟩ := ihq h
      exact ⟨s, .inr hs, hplace⟩
  | capture slot p ih =>
    simp only [reaches, List.mem_map] at h
    obtain ⟨m, hm, rfl⟩ := h
    obtain ⟨s, hs, hplace⟩ := ih hm
    exact ⟨s, hs, hplace⟩

/-- A pattern reaches nothing from a place behind which it describes no stretch. -/
theorem reaches_eq_nil {p : Pattern} {r : Reach}
    (h : ∀ s, s <+: r.place.after → ¬p.Describes s) : p.reaches r = [] := by
  rw [List.eq_nil_iff_forall_not_mem]
  intro e he
  obtain ⟨s, hs, hafter, -⟩ := describes_of_mem_reaches he
  exact h s ⟨e.place.after, hafter.symm⟩ hs

/-- Without anything to reach there is no match. -/
theorem matchAt?_eq_none {p : Pattern} {place : Place} (h : p.reaches ⟨place, []⟩ = []) :
    p.matchAt? place = none := by
  simp [matchAt?, h]

theorem matchAt?_eq_some {p : Pattern} {place : Place} {e : Reach} {others : List Reach}
    (h : p.reaches ⟨place, []⟩ = e :: others) : p.matchAt? place = some ⟨place, e⟩ := by
  simp [matchAt?, h]

/-- A choice describes what one of its alternatives describes. -/
theorem describes_anyOf {ps : List Pattern} {s : List Char} :
    (anyOf ps).Describes s ↔ ∃ p ∈ ps, p.Describes s := by
  induction ps with
  | nil => simp [anyOf, never, Describes, CharKind.accepts]
  | cons p ps ih =>
    cases ps with
    | nil => simp [anyOf]
    | cons p' ps =>
      have hchoice : anyOf (p :: p' :: ps) = either p (anyOf (p' :: ps)) := rfl
      rw [hchoice, Describes, ih]
      simp

/-! ## Texts without a match -/

/-- Whether a pattern describes no stretch of some characters. -/
def cannotRead (chars : List Char) : Pattern → Bool
  | one kind => chars.all fun c => !kind.accepts c
  | both p q => p.cannotRead chars || q.cannotRead chars
  | either p q => p.cannotRead chars && q.cannotRead chars
  | capture _ p => p.cannotRead chars
  | nothing | many _ | edge => false

/-- What is described has a character outside of the given ones. -/
theorem exists_not_mem_of_cannotRead {p : Pattern} {chars s : List Char}
    (h : p.cannotRead chars = true) (hs : p.Describes s) : ∃ c ∈ s, c ∉ chars := by
  induction p generalizing s with
  | one kind =>
    obtain ⟨c, rfl, hc⟩ := hs
    refine ⟨c, List.mem_singleton_self c, fun hmem => ?_⟩
    have hnot := List.all_eq_true.1 h c hmem
    rw [hc] at hnot
    cases hnot
  | both p q ihp ihq =>
    obtain ⟨a, b, rfl, ha, hb⟩ := hs
    -- a stranger in either part is one in the whole stretch
    rcases Bool.or_eq_true_iff.1 h with hp | hq
    · obtain ⟨c, hc, hnot⟩ := ihp hp ha
      exact ⟨c, List.mem_append_left b hc, hnot⟩
    · obtain ⟨c, hc, hnot⟩ := ihq hq hb
      exact ⟨c, List.mem_append_right a hc, hnot⟩
  | either p q ihp ihq =>
    obtain ⟨hp, hq⟩ := (Bool.and_eq_true _ _).mp h
    exact hs.elim (ihp hp) (ihq hq)
  | capture slot p ih => exact ih h hs
  | nothing | many | edge => cases h

/-- No stretch of a text is described by a pattern. -/
def IsAbsent (p : Pattern) (text : List Char) : Prop :=
  ∀ s, s <:+: text → ¬p.Describes s

/-- A pattern that needs another character is absent from texts of the given ones. -/
theorem isAbsent_of_cannotRead {p : Pattern} {chars text : List Char}
    (h : p.cannotRead chars = true) (htext : ∀ c ∈ text, c ∈ chars) : p.IsAbsent text := by
  intro s hs hdescribes
  obtain ⟨c, hc, hnot⟩ := exists_not_mem_of_cannotRead h hdescribes
  exact hnot (htext c (hs.subset hc))

/-- Whether no stretch that a pattern describes contains a character. -/
def cannotContain (c : Char) : Pattern → Bool
  | one kind | many kind => !kind.accepts c
  | both p q | either p q => p.cannotContain c && q.cannotContain c
  | capture _ p => p.cannotContain c
  | nothing | edge => true

/-- What is described does not have the character. -/
theorem not_mem_of_cannotContain {p : Pattern} {c : Char} {s : List Char}
    (h : p.cannotContain c = true) (hs : p.Describes s) : c ∉ s := by
  induction p generalizing s with
  | nothing | edge =>
    obtain rfl : s = [] := hs
    exact List.not_mem_nil
  | one kind =>
    obtain ⟨d, rfl, hd⟩ := hs
    rintro hmem
    obtain rfl := List.mem_singleton.1 hmem
    simp [cannotContain, hd] at h
  | many kind =>
    intro hmem
    simp [cannotContain, hs c hmem] at h
  | both p q ihp ihq =>
    obtain ⟨a, b, rfl, ha, hb⟩ := hs
    obtain ⟨hp, hq⟩ := (Bool.and_eq_true _ _).mp h
    exact fun hmem => (List.mem_append.1 hmem).elim (ihp hp ha) (ihq hq hb)
  | either p q ihp ihq =>
    obtain ⟨hp, hq⟩ := (Bool.and_eq_true _ _).mp h
    exact hs.elim (ihp hp) (ihq hq)
  | capture slot p ih => exact ih h hs

/-- A stretch without some character lies on one side of it. -/
theorem infix_of_infix_append_cons {s a b : List Char} {c : Char} (h : s <:+: a ++ c :: b)
    (hc : c ∉ s) : s <:+: a ∨ s <:+: b := by
  obtain ⟨front, back, h⟩ := h
  rcases List.append_eq_append_iff.1 h with ⟨t, ha, hback⟩ | ⟨t, hfront, hb⟩
  · -- the stretch ends in front of `c`
    exact .inl ⟨front, t, ha.symm⟩
  · cases t with
    | nil =>
      rw [List.append_nil] at hfront
      exact .inl ⟨front, [], by rw [List.append_nil]; exact hfront⟩
    | cons d t =>
      -- the stretch ends behind `c`, so it has to start there as well
      obtain ⟨rfl, rfl⟩ := List.cons.inj hb
      rcases List.append_eq_append_iff.1 hfront with ⟨u, -, hs⟩ | ⟨u, -, hs⟩
      · exact absurd (by rw [hs]; simp) hc
      · cases u with
        | nil => exact absurd (by rw [← List.nil_append s, ← hs]; exact List.mem_cons_self) hc
        | cons e u =>
          obtain ⟨-, rfl⟩ := List.cons.inj hs
          exact .inr ⟨u, back, rfl⟩

/-- A character that a pattern cannot contain cuts a text into two that can be looked at apart. -/
theorem isAbsent_append_cons {p : Pattern} {c : Char} {a b : List Char}
    (hc : p.cannotContain c = true) (ha : p.IsAbsent a) (hb : p.IsAbsent b) :
    p.IsAbsent (a ++ c :: b) := by
  intro s hs hdescribes
  rcases infix_of_infix_append_cons hs (not_mem_of_cannotContain hc hdescribes) with hs | hs
  · exact ha s hs hdescribes
  · exact hb s hs hdescribes

/-- A choice is absent if one of its alternatives is and the others cannot read the text. -/
theorem isAbsent_anyOf {ps : List Pattern} {q : Pattern} {chars text : List Char}
    (h : ∀ p ∈ ps, p = q ∨ p.cannotRead chars = true) (hq : q.IsAbsent text)
    (htext : ∀ c ∈ text, c ∈ chars) : (anyOf ps).IsAbsent text := by
  intro s hs hdescribes
  obtain ⟨p, hp, hdescribes⟩ := describes_anyOf.1 hdescribes
  rcases h p hp with rfl | hcannot
  · exact hq s hs hdescribes
  · exact isAbsent_of_cannotRead hcannot htext s hs hdescribes

theorem IsAbsent.whole {p : Pattern} {text : List Char} (h : p.IsAbsent text) :
    (whole p).IsAbsent text := by
  rintro s hs ⟨_, _, rfl, rfl, a, _, rfl, ha, rfl⟩
  rw [List.nil_append, List.append_nil] at hs
  exact h a hs ha

/-- Where the first of two stretches is absent, so are both of them in order. -/
theorem IsAbsent.both_left {p q : Pattern} {text : List Char} (h : p.IsAbsent text) :
    (both p q).IsAbsent text := by
  rintro s hs ⟨a, b, rfl, ha, -⟩
  exact h a ((List.prefix_append a b).isInfix.trans hs) ha

/-- What is absent from a text is absent from its end. -/
theorem IsAbsent.tail {p : Pattern} {c : Char} {text : List Char} (h : p.IsAbsent (c :: text)) :
    p.IsAbsent text :=
  fun s hs => h s (hs.trans (List.suffix_cons c text).isInfix)

theorem IsAbsent.matchAt? {p : Pattern} {text : List Char} (h : p.IsAbsent text)
    (before : List Char) : p.matchAt? ⟨before, text⟩ = none :=
  matchAt?_eq_none (reaches_eq_nil fun s hs => h s hs.isInfix)

theorem IsAbsent.findFrom? {p : Pattern} {text : List Char} (h : p.IsAbsent text)
    (before : List Char) : p.findFrom? before text = none := by
  induction text generalizing before with
  | nil => exact h.matchAt? before
  | cons c text ih => rw [Pattern.findFrom?, h.matchAt? before, ih h.tail]

/-- A pattern that is absent is not found. -/
theorem IsAbsent.find? {p : Pattern} {text : List Char} (h : p.IsAbsent text) :
    p.find? text = none :=
  h.findFrom? []

theorem IsAbsent.isIn {p : Pattern} {text : List Char} (h : p.IsAbsent text) :
    p.isIn text = false := by
  rw [Pattern.isIn, h.find?]
  rfl

theorem IsAbsent.all {p : Pattern} {text : List Char} (h : p.IsAbsent text) :
    p.all text = [] := by
  suffices hfrom : ∀ before, p.allFrom before 0 text = [] from hfrom []
  induction text with
  | nil => intro before; rw [allFrom, h.matchAt? before]; rfl
  | cons c text ih => intro before; rw [allFrom, h.matchAt? before, ih h.tail]

/-- Where a pattern is absent there is nothing to replace. -/
theorem IsAbsent.replaceAll {p : Pattern} {text : List Char} (h : p.IsAbsent text)
    (by_ : List Char) : p.replaceAll by_ text = text := by
  suffices hfrom : ∀ before, p.replaceFrom by_ before 0 text = text from hfrom []
  induction text with
  | nil => intro before; rfl
  | cons c text ih => intro before; rw [replaceFrom, h.matchAt? before, ih h.tail]

/-! ## Places without a match -/

/-- Whether every stretch that a pattern describes has characters. -/
def takesSome : Pattern → Bool
  | one _ => true
  | both p q => p.takesSome || q.takesSome
  | either p q => p.takesSome && q.takesSome
  | capture _ p => p.takesSome
  | nothing | many _ | edge => false

/-- Whether no stretch that a pattern describes starts with a character. -/
def headIsNot (c : Char) : Pattern → Bool
  | one kind | many kind => !kind.accepts c
  | both p q => p.headIsNot c && (p.takesSome || q.headIsNot c)
  | either p q => p.headIsNot c && q.headIsNot c
  | capture _ p => p.headIsNot c
  | nothing | edge => true

/-- Whether no match of a pattern starts in front of a character. -/
def cannotStart (c : Char) (p : Pattern) : Bool :=
  p.takesSome && p.headIsNot c

/-- A pattern that takes a character describes no empty text. -/
theorem ne_nil_of_takesSome {p : Pattern} {s : List Char} (h : p.takesSome = true)
    (hs : p.Describes s) : s ≠ [] := by
  induction p generalizing s with
  | one kind =>
    obtain ⟨c, rfl, -⟩ := hs
    exact List.cons_ne_nil c []
  | both p q ihp ihq =>
    obtain ⟨a, b, rfl, ha, hb⟩ := hs
    rcases Bool.or_eq_true_iff.1 h with hp | hq
    · exact List.append_ne_nil_of_left_ne_nil (ihp hp ha) b
    · exact List.append_ne_nil_of_right_ne_nil a (ihq hq hb)
  | either p q ihp ihq =>
    obtain ⟨hp, hq⟩ := (Bool.and_eq_true _ _).mp h
    exact hs.elim (ihp hp) (ihq hq)
  | capture slot p ih => exact ih h hs
  | nothing | many | edge => cases h

/-- A pattern that cannot begin with a character describes no text that does. -/
theorem not_describes_cons {p : Pattern} {c : Char} {s : List Char} (h : p.headIsNot c = true) :
    ¬p.Describes (c :: s) := by
  induction p generalizing s with
  | nothing | edge => exact List.cons_ne_nil c s
  | one kind =>
    rintro ⟨d, hd, hc⟩
    obtain rfl : c = d := (List.cons.inj hd).1
    simp [headIsNot, hc] at h
  | many kind =>
    intro hall
    have hc := hall c List.mem_cons_self
    simp [headIsNot, hc] at h
  | both p q ihp ihq =>
    rintro ⟨a, b, hab, ha, hb⟩
    obtain ⟨hp, hq⟩ := (Bool.and_eq_true _ _).mp h
    cases a with
    | nil =>
      -- the first pattern read nothing, so the second one starts with `c`
      rw [List.nil_append] at hab
      subst hab
      rcases Bool.or_eq_true_iff.1 hq with hsome | hq
      · exact ne_nil_of_takesSome hsome ha rfl
      · exact ihq hq hb
    | cons d a =>
      obtain rfl : c = d := (List.cons.inj hab).1
      exact ihp hp ha
  | either p q ihp ihq =>
    obtain ⟨hp, hq⟩ := (Bool.and_eq_true _ _).mp h
    exact fun hs => hs.elim (ihp hp) (ihq hq)
  | capture slot p ih => exact ih h

/-- Nothing is reached where a pattern cannot start. -/
theorem reaches_eq_nil_of_cannotStart {p : Pattern} {c : Char} {before rest : List Char}
    {captures : List Capture} (h : p.cannotStart c = true) :
    p.reaches ⟨⟨before, c :: rest⟩, captures⟩ = [] := by
  obtain ⟨hsome, hhead⟩ := (Bool.and_eq_true _ _).mp h
  apply reaches_eq_nil
  intro s hs hdescribes
  cases s with
  | nil => exact ne_nil_of_takesSome hsome hdescribes rfl
  | cons d s =>
    obtain rfl : d = c := (List.cons_prefix_cons.1 hs).1
    exact not_describes_cons hhead hdescribes

/-- A pattern that takes some characters reaches nothing from the end of a text. -/
theorem reaches_eq_nil_of_takesSome {p : Pattern} {before : List Char} {captures : List Capture}
    (h : p.takesSome = true) : p.reaches ⟨⟨before, []⟩, captures⟩ = [] := by
  apply reaches_eq_nil
  intro s hs hdescribes
  exact ne_nil_of_takesSome h hdescribes (List.prefix_nil.1 hs)

/-- A search passes over places where no match starts. -/
theorem findFrom?_append {p : Pattern} {skipped rest : List Char} (before : List Char)
    (h : ∀ a c b, skipped = a ++ c :: b →
      p.matchAt? ⟨a.reverse ++ before, c :: (b ++ rest)⟩ = none) :
    p.findFrom? before (skipped ++ rest) = p.findFrom? (skipped.reverse ++ before) rest := by
  induction skipped generalizing before with
  | nil => rfl
  | cons c skipped ih =>
    have hfirst : p.matchAt? ⟨before, c :: (skipped ++ rest)⟩ = none := h [] c skipped rfl
    rw [List.cons_append, findFrom?, hfirst, ih (c :: before)]
    · simp
    · intro a d b hskipped
      have hlater := h (c :: a) d b (by rw [hskipped, List.cons_append])
      simpa using hlater

/-- A search passes over characters that its pattern cannot start with. -/
theorem findFrom?_append_of_cannotStart {p : Pattern} {skipped : List Char}
    (before rest : List Char) (h : ∀ c ∈ skipped, p.cannotStart c = true) :
    p.findFrom? before (skipped ++ rest) = p.findFrom? (skipped.reverse ++ before) rest := by
  apply findFrom?_append
  rintro a c b rfl
  exact matchAt?_eq_none (reaches_eq_nil_of_cannotStart (h c (by simp)))

/-- A match in front of a text is what a search finds first. -/
theorem findFrom?_eq_some {p : Pattern} {before text : List Char} {m : Match}
    (h : p.matchAt? ⟨before, text⟩ = some m) : p.findFrom? before text = some m := by
  cases text with
  | nil => exact h
  | cons c rest => rw [findFrom?, h]

/-- A match in front of a text is the first of all matches. -/
theorem all_eq_cons {p : Pattern} {text : List Char} {m : Match} (hne : text ≠ [])
    (h : p.matchAt? ⟨[], text⟩ = some m) : ∃ others, p.all text = m :: others := by
  obtain ⟨c, rest, rfl⟩ := List.exists_cons_of_ne_nil hne
  exact ⟨_, by rw [all, allFrom, h]⟩

/-! ## Reading in order -/

theorem inOrder_cons (p q : Pattern) (ps : List Pattern) :
    inOrder (p :: q :: ps) = both p (inOrder (q :: ps)) := rfl

section
variable {q : Pattern} {before rest : List Char} {captures : List Capture}

/-- If the first of two patterns reaches nothing, both do not. -/
theorem reaches_both_of_nil {p : Pattern} {r : Reach} (h : p.reaches r = []) :
    (both p q).reaches r = [] := by
  simp [reaches, h]

/-- What follows a stretch that can be read in one way only is read behind it. -/
theorem reaches_both_of_singleton {p : Pattern} {r m : Reach} (h : p.reaches r = [m]) :
    (both p q).reaches r = q.reaches m := by
  simp [reaches, h]

/-- Three stretches in order can be put together in either way. -/
theorem reaches_both_assoc {p r : Pattern} {e : Reach} :
    (both (both p q) r).reaches e = (both p (both q r)).reaches e := by
  simp only [reaches, List.flatMap_assoc]

/-- At a word edge the edge is no condition. -/
theorem reaches_edge_both_of_edge {r : Reach} (h : r.place.atWordEdge = true) :
    (both edge q).reaches r = q.reaches r := by
  simp [reaches, h]

theorem reaches_edge_both_of_not_edge {r : Reach} (h : r.place.atWordEdge = false) :
    (both edge q).reaches r = [] := by
  simp [reaches, h]

/-- What is optional is passed over where it reaches nothing. -/
theorem reaches_optional_both_of_nil {p : Pattern} {r : Reach} (h : p.reaches r = []) :
    (both (optional p) q).reaches r = q.reaches r := by
  simp [reaches, optional, h]

/-- What is optional is read where what follows cannot do without it. -/
theorem reaches_optional_both_of_follower_nil {p : Pattern} {r : Reach} (h : q.reaches r = []) :
    (both (optional p) q).reaches r = (both p q).reaches r := by
  simp [reaches, optional, h]

/-- A whole word is read between two word boundaries. -/
theorem mem_reaches_whole {p : Pattern} {r e : Reach} (h : e ∈ (whole p).reaches r) :
    e ∈ p.reaches r ∧ r.place.atWordEdge = true ∧ e.place.atWordEdge = true := by
  simp only [whole, inOrder, reaches, List.mem_flatMap] at h
  obtain ⟨m, hm, e', he', he⟩ := h
  split at hm
  · next hstart =>
    split at he
    · next hstop =>
      obtain rfl := List.mem_singleton.1 hm
      obtain rfl := List.mem_singleton.1 he
      exact ⟨he', hstart, hstop⟩
    · cases he
  · cases hm

/-- Inside a word an optional stretch in front of a word boundary cannot be left out. -/
theorem reaches_optional_edge_inside {p : Pattern} {c : Char} (hp : p.cannotStart c = true)
    (hedge : Place.atWordEdge ⟨before, c :: rest⟩ = false) :
    (both (optional p) edge).reaches ⟨⟨before, c :: rest⟩, captures⟩ = [] := by
  rw [reaches_optional_both_of_nil (reaches_eq_nil_of_cannotStart hp)]
  simp [reaches, hedge]

/-- At the end of a text an optional stretch in front of a word boundary is left out. -/
theorem reaches_optional_edge_end {p : Pattern} (hp : p.takesSome = true)
    (hedge : Place.atWordEdge ⟨before, []⟩ = true) :
    (both (optional p) edge).reaches ⟨⟨before, []⟩, captures⟩ = [⟨⟨before, []⟩, captures⟩] := by
  rw [reaches_optional_both_of_nil (reaches_eq_nil_of_takesSome hp)]
  simp [reaches, hedge]

/-- What one of several patterns reaches they reach together. -/
theorem mem_reaches_anyOf {ps : List Pattern} {p : Pattern} {r e : Reach} (hp : p ∈ ps)
    (he : e ∈ p.reaches r) : e ∈ (anyOf ps).reaches r := by
  induction ps with
  | nil => cases hp
  | cons p' ps ih =>
    -- a choice of one alternative is that alternative itself
    cases ps with
    | nil => rwa [← List.mem_singleton.1 hp]
    | cons p'' ps =>
      change e ∈ p'.reaches r ++ (anyOf (p'' :: ps)).reaches r
      rcases List.mem_cons.1 hp with rfl | hp
      · exact List.mem_append_left _ he
      · exact List.mem_append_right _ (ih hp)

/-- A choice of whole words is in a text that starts with one of them. -/
theorem isIn_whole_anyOf {ps : List Pattern} {p : Pattern} {text : List Char} {e : Reach}
    (hp : p ∈ ps) (he : e ∈ p.reaches ⟨⟨[], text⟩, []⟩)
    (hstart : Place.atWordEdge ⟨[], text⟩ = true) (hstop : e.place.atWordEdge = true) :
    (whole (anyOf ps)).isIn text = true := by
  have hmem : e ∈ (whole (anyOf ps)).reaches ⟨⟨[], text⟩, []⟩ := by
    rw [whole, inOrder_cons, reaches_edge_both_of_edge hstart]
    exact List.mem_flatMap.2 ⟨e, mem_reaches_anyOf hp he, by simp [inOrder, reaches, hstop]⟩
  obtain ⟨e', others, hreaches⟩ := List.exists_cons_of_ne_nil (List.ne_nil_of_mem hmem)
  exact isIn_iff.2 ⟨[], text, rfl, by rw [List.reverse_nil, matchAt?_eq_some hreaches]; rfl⟩

theorem sameLetter_self (c : Char) : Text.sameLetter c c = true := by
  simp [Text.sameLetter]

/-- A spelling reads itself. -/
theorem reaches_spelled (w : String) :
    (spelled w).reaches ⟨⟨before, w.toList ++ rest⟩, captures⟩ =
      [⟨⟨w.toList.reverse ++ before, rest⟩, captures⟩] := by
  unfold spelled
  induction w.toList generalizing before with
  | nil => rfl
  | cons c cs ih =>
    have hc : CharKind.accepts (.letter c) c = true := sameLetter_self c
    -- nothing is put in order behind the last letter
    cases cs with
    | nil => simp [inOrder, reaches, hc]
    | cons d cs =>
      have hrest := @ih (c :: before)
      simp only [List.map_cons, List.cons_append, inOrder, reaches, hc, if_true,
        List.flatMap_cons, List.flatMap_nil, List.append_nil] at hrest ⊢
      simpa using hrest

/-- A single blank between two words is a gap. -/
theorem reaches_gap (h : ∀ c ∈ rest.head?, Text.isBlank c = false) :
    gap.reaches ⟨⟨before, ' ' :: rest⟩, captures⟩ = [⟨⟨' ' :: before, rest⟩, captures⟩] := by
  have hblank : Text.isBlank ' ' = true := rfl
  cases rest with
  | nil => simp [gap, oneOrMore, reaches, runFrom, CharKind.accepts, hblank]
  | cons c rest =>
    have hc := h c rfl
    simp [gap, oneOrMore, reaches, runFrom, CharKind.accepts, hblank, hc]

end

/-! ## Runs

A run of characters can be left early, so what follows it decides where it ends. -/

/-- Whether a pattern reads a stretch to its end as long as what follows reaches nothing from inside
the stretch. -/
def ReadsWhole (p : Pattern) (s rest : List Char) : Prop :=
  ∀ (α : Type) (f : Reach → List α) (before : List Char) (captures : List Capture),
    (∀ a c b, s = a ++ c :: b → a ≠ [] →
      f ⟨⟨a.reverse ++ before, c :: (b ++ rest)⟩, captures⟩ = []) →
    (p.reaches ⟨⟨before, s ++ rest⟩, captures⟩).flatMap f =
      f ⟨⟨s.reverse ++ before, rest⟩, captures⟩

section
variable {kind : CharKind} {s rest : List Char}

/-- The places of a run are those it was given and the one at its end, if nothing follows from the
places in between. -/
theorem flatMap_runFrom {α : Type} {f : Place → List α} {before : List Char} {found : List Place}
    (hs : ∀ c ∈ s, kind.accepts c = true) (hrest : ∀ c ∈ rest.head?, kind.accepts c = false)
    (hfound : ∀ p ∈ found, f p = [])
    (hinside : ∀ a c b, s = a ++ c :: b → f ⟨a.reverse ++ before, c :: (b ++ rest)⟩ = []) :
    (runFrom kind (⟨before, s ++ rest⟩ :: found) before (s ++ rest)).flatMap f =
      f ⟨s.reverse ++ before, rest⟩ := by
  -- by induction on the run, with more and more places found that nothing follows
  induction s generalizing before found with
  | nil =>
    have hstop : runFrom kind (⟨before, rest⟩ :: found) before rest = ⟨before, rest⟩ :: found := by
      cases rest with
      | nil => rfl
      | cons c rest => simp [runFrom, hrest c rfl]
    have hnil : found.flatMap f = [] := List.flatMap_eq_nil_iff.2 hfound
    rw [List.nil_append, hstop, List.flatMap_cons, hnil, List.append_nil]
    rfl
  | cons c s ih =>
    have hc := hs c List.mem_cons_self
    rw [List.cons_append, runFrom, if_pos hc, ih]
    · simp
    · exact fun d hd => hs d (List.mem_cons_of_mem c hd)
    · exact List.forall_mem_cons.2 ⟨hinside [] c s rfl, hfound⟩
    · intro a d b hsplit
      have hlater := hinside (c :: a) d b (by rw [hsplit, List.cons_append])
      simpa using hlater

/-- The farthest place of a run comes first. -/
theorem exists_runFrom_eq_cons {before : List Char} {found : List Place}
    (hs : ∀ c ∈ s, kind.accepts c = true) (hrest : ∀ c ∈ rest.head?, kind.accepts c = false) :
    ∃ others, runFrom kind (⟨before, s ++ rest⟩ :: found) before (s ++ rest) =
      ⟨s.reverse ++ before, rest⟩ :: others := by
  induction s generalizing before found with
  | nil =>
    refine ⟨found, ?_⟩
    cases rest with
    | nil => rfl
    | cons c rest => simp [runFrom, hrest c rfl]
  | cons c s ih =>
    obtain ⟨hc, hs⟩ := List.forall_mem_cons.1 hs
    obtain ⟨others, hothers⟩ := @ih (c :: before) (⟨before, c :: (s ++ rest)⟩ :: found) hs
    refine ⟨others, ?_⟩
    rw [List.cons_append, runFrom, if_pos hc, hothers]
    simp

/-- One character of a kind and then as many of another as possible are read to the end, also if
something optional may follow that does not start there. -/
theorem readsWhole_run {first : CharKind} {c : Char} {optionals : Pattern}
    (hfirst : first.accepts c = true) (hs : ∀ d ∈ s, kind.accepts d = true)
    (hrest : ∀ d ∈ rest.head?, kind.accepts d = false)
    (hoptionals : ∀ r : Reach, (∃ a, (c :: s) ++ rest = a ++ r.place.after) →
      optionals.reaches r = [r]) :
    (both (one first) (both (many kind) optionals)).ReadsWhole (c :: s) rest := by
  intro α f before captures hinside
  -- the first character goes to its own kind, and the longest run takes all the others
  have hone : (one first).reaches ⟨⟨before, c :: (s ++ rest)⟩, captures⟩ =
      [⟨⟨c :: before, s ++ rest⟩, captures⟩] := by
    simp [reaches, hfirst]
  rw [List.cons_append, reaches, hone, List.flatMap_cons, List.flatMap_nil, List.append_nil,
    reaches, List.flatMap_assoc, reaches, List.flatMap_map, flatMap_runFrom hs hrest]
  · rw [hoptionals _ ⟨c :: s, rfl⟩]
    simp
  · exact fun _ h => absurd h List.not_mem_nil
  · -- nor does anything follow from inside the run if the optional part is tried there
    intro a d b hsplit
    rw [hoptionals _ ⟨c :: a, by simp [hsplit]⟩]
    have hlater := hinside (c :: a) d b (by rw [hsplit, List.cons_append]) (List.cons_ne_nil c a)
    simpa using hlater

/-- At least one character of a kind, and as many as possible, are read to the end. -/
theorem readsWhole_oneOrMore (hne : s ≠ []) (hs : ∀ c ∈ s, kind.accepts c = true)
    (hrest : ∀ c ∈ rest.head?, kind.accepts c = false) :
    (oneOrMore kind).ReadsWhole s rest := by
  obtain ⟨c, s, rfl⟩ := List.exists_cons_of_ne_nil hne
  obtain ⟨hc, hs⟩ := List.forall_mem_cons.1 hs
  intro α f before captures hinside
  have hrun := @readsWhole_run kind s rest kind c nothing hc hs hrest (fun _ _ => rfl) α f before
    captures hinside
  simpa [oneOrMore, reaches] using hrun

/-- Between one and `k + 1` characters of a kind are read to the end. -/
theorem readsWhole_upToMore {k : Nat} (hne : s ≠ [])
    (hlength : s.length ≤ k + 1) (hs : ∀ c ∈ s, kind.accepts c = true)
    (hrest : ∀ c ∈ rest.head?, kind.accepts c = false) :
    (upToMore k kind).ReadsWhole s rest := by
  intro α f before captures hinside
  induction k generalizing s before with
  | zero =>
    obtain ⟨c, rfl⟩ := List.length_eq_one_iff.1
      (Nat.le_antisymm hlength (List.length_pos_iff.2 hne))
    simp [upToMore, reaches, hs c List.mem_cons_self]
  | succ k ih =>
    obtain ⟨c, s, rfl⟩ := List.exists_cons_of_ne_nil hne
    obtain ⟨hc, hs⟩ := List.forall_mem_cons.1 hs
    have hfirst : (one kind).reaches ⟨⟨before, c :: s ++ rest⟩, captures⟩ =
        [⟨⟨c :: before, s ++ rest⟩, captures⟩] := by
      simp [reaches, hc]
    rw [upToMore, reaches_both_of_singleton hfirst, optional,
      reaches, List.flatMap_append]
    cases s with
    | nil =>
      -- what follows is of another kind, so nothing more is read
      have hstop : (upToMore k kind).reaches ⟨⟨c :: before, rest⟩, captures⟩ = [] := by
        cases rest with
        | nil => cases k <;> simp [upToMore, reaches]
        | cons d rest => cases k <;> simp [upToMore, reaches, hrest d rfl]
      simp [hstop, reaches]
    | cons d s =>
      have hearly := hinside [c] d s rfl (List.cons_ne_nil c [])
      have hlater : ∀ a e b, d :: s = a ++ e :: b → a ≠ [] →
          f ⟨⟨a.reverse ++ c :: before, e :: (b ++ rest)⟩, captures⟩ = [] := by
        intro a e b hsplit ha
        simpa using hinside (c :: a) e b (by rw [hsplit, List.cons_append]) (List.cons_ne_nil c a)
      rw [ih (List.cons_ne_nil d s) (by simpa using hlength) hs (c :: before) hlater]
      simpa [reaches] using hearly

/-- What is remembered of a stretch that is read to its end is the whole stretch. -/
theorem reaches_capture_both {p q : Pattern} {slot : Nat} {before : List Char}
    {captures : List Capture} (hp : p.ReadsWhole s rest)
    (hinside : ∀ a c b captures, s = a ++ c :: b → a ≠ [] →
      q.reaches ⟨⟨a.reverse ++ before, c :: (b ++ rest)⟩, captures⟩ = []) :
    (both (capture slot p) q).reaches ⟨⟨before, s ++ rest⟩, captures⟩ =
      q.reaches ⟨⟨s.reverse ++ before, rest⟩, ⟨slot, before.length, s⟩ :: captures⟩ := by
  rw [reaches, reaches, List.flatMap_map, hp]
  · rw [Place.upTo_append]
    rfl
  · intro a c b hsplit ha
    exact hinside a c b _ hsplit ha

end

end Pattern

end AskLedger
