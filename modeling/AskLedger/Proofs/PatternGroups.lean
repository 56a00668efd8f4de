import AskLedger.Proofs.Numerals
import AskLedger.Proofs.PatternContext

/-!
# What a match remembers

The stretches that a pattern describes, together with what is remembered of them. Where all the
parts of a stretch can be told apart, a match in a given place can only have remembered these
parts, so the preferred match need not be computed.

* `Pattern.Reads`: a stretch and what is remembered of it.
* `Pattern.reads_of_mem_reaches`: matches remember parts of what they read.
* `Pattern.leads_of_describes`: without word boundaries a pattern reads every stretch that it
  describes, whatever stands around it.
* `Pattern.find?_eq_some_iff`: the leftmost match.
* `Pattern.mem_all_behind_blank`: a match behind a blank is one of all matches.
* `Text.run_inj`: a run of characters ends in one place only.
-/

namespace AskLedger

/-! ## Runs -/

/-- A run of characters of one kind, followed by none of this kind, ends in one place only. -/
theorem Text.run_inj {kind : Char → Bool} {run run' rest rest' : List Char}
    (hrun : ∀ c ∈ run, kind c = true) (hrest : rest.head?.any kind = false)
    (hrun' : ∀ c ∈ run', kind c = true) (hrest' : rest'.head?.any kind = false)
    (h : run ++ rest = run' ++ rest') : run = run' ∧ rest = rest' := by
  have hhead : ∀ {rest : List Char}, rest.head?.any kind = false →
      ∀ c ∈ rest.head?, kind c = false := by
    intro rest hrest c hc
    simpa [Option.mem_def.1 hc] using hrest
  -- both are the longest stretch of this kind in front
  have hsame : run = run' := by
    rw [← takeWhile_run hrun (hhead hrest), h, takeWhile_run hrun' (hhead hrest')]
  subst hsame
  exact ⟨rfl, List.append_cancel_left h⟩

namespace Pattern

/-! ## Remembered parts -/

/-- The stretches that a pattern describes and what it remembers of them, latest first; `n`
characters precede the stretch. -/
def Reads : Pattern → Nat → List Char → List Capture → Prop
  | nothing, _, s, g => s = [] ∧ g = []
  | one kind, _, s, g => (∃ c, s = [c] ∧ kind.accepts c = true) ∧ g = []
  | many kind, _, s, g => (∀ c ∈ s, kind.accepts c = true) ∧ g = []
  | edge, _, s, g => s = [] ∧ g = []
  | both p q, n, s, g => ∃ s₁ s₂ g₁ g₂, s = s₁ ++ s₂ ∧ g = g₂ ++ g₁ ∧ p.Reads n s₁ g₁ ∧
      q.Reads (n + s₁.length) s₂ g₂
  | either p q, n, s, g => p.Reads n s g ∨ q.Reads n s g
  | capture slot p, n, s, g => ∃ g', g = ⟨slot, n, s⟩ :: g' ∧ p.Reads n s g'

variable {p q : Pattern} {n : Nat} {s : List Char} {g : List Capture}

/-- Matches remember parts of what they read. -/
theorem reads_of_mem_reaches {r e : Reach} (h : e ∈ p.reaches r) :
    ∃ s g, p.Reads r.place.offset s g ∧ r.place.after = s ++ e.place.after ∧
      e.place.before = s.reverse ++ r.place.before ∧ e.captures = g ++ r.captures := by
  induction p generalizing r e with
  | nothing =>
    obtain rfl := List.mem_singleton.1 h
    exact ⟨[], [], ⟨rfl, rfl⟩, rfl, rfl, rfl⟩
  | one kind =>
    obtain ⟨s, hs, hafter, hbefore⟩ := describes_of_mem_reaches h
    refine ⟨s, [], ⟨hs, rfl⟩, hafter, hbefore, ?_⟩
    rw [reaches] at h
    split at h
    · split at h
      · rw [List.mem_singleton.1 h]; rfl
      · cases h
    · cases h
  | many kind =>
    obtain ⟨s, hs, hafter, hbefore⟩ := describes_of_mem_reaches h
    simp only [reaches, List.mem_map] at h
    obtain ⟨place, -, rfl⟩ := h
    exact ⟨s, [], ⟨hs, rfl⟩, hafter, hbefore, rfl⟩
  | edge =>
    rw [reaches] at h
    split at h
    · obtain rfl := List.mem_singleton.1 h
      exact ⟨[], [], ⟨rfl, rfl⟩, rfl, rfl, rfl⟩
    · cases h
  | both p q ihp ihq =>
    simp only [reaches, List.mem_flatMap] at h
    obtain ⟨m, hm, he⟩ := h
    obtain ⟨s₁, g₁, hs₁, hafter₁, hbefore₁, hcaptures₁⟩ := ihp hm
    obtain ⟨s₂, g₂, hs₂, hafter₂, hbefore₂, hcaptures₂⟩ := ihq he
    have hoffset : m.place.offset = r.place.offset + s₁.length := by
      rw [Place.offset, Place.offset, hbefore₁, List.length_append, List.length_reverse,
        Nat.add_comm]
    refine ⟨s₁ ++ s₂, g₂ ++ g₁, ⟨s₁, s₂, g₁, g₂, rfl, rfl, hs₁, hoffset ▸ hs₂⟩, ?_, ?_, ?_⟩
    · rw [hafter₁, hafter₂, List.append_assoc]
    · rw [hbefore₂, hbefore₁, List.reverse_append, List.append_assoc]
    · rw [hcaptures₂, hcaptures₁, List.append_assoc]
  | either p q ihp ihq =>
    rw [reaches, List.mem_append] at h
    rcases h with h | h
    · obtain ⟨s, g, hs, hrest⟩ := ihp h
      exact ⟨s, g, .inl hs, hrest⟩
    · obtain ⟨s, g, hs, hrest⟩ := ihq h
      exact ⟨s, g, .inr hs, hrest⟩
  | capture slot p ih =>
    simp only [reaches, List.mem_map] at h
    obtain ⟨m, hm, rfl⟩ := h
    obtain ⟨s, g, hs, hafter, hbefore, hcaptures⟩ := ih hm
    -- what is remembered is cut out of the text in front of the match
    have htext : r.place.upTo m.place = s := by
      rw [Place.upTo, Place.offset, Place.offset, hbefore, hafter]
      simp
    refine ⟨s, ⟨slot, r.place.offset, s⟩ :: g, ⟨g, rfl, hs⟩, hafter, hbefore, ?_⟩
    rw [htext, hcaptures, List.cons_append]

/-- A match that starts in a place, by what it reads. -/
theorem reads_of_matchAt? {a : Place} {m : Match} (h : p.matchAt? a = some m) :
    ∃ s rest, p.Reads a.offset s m.stop.captures ∧ a.after = s ++ rest ∧ m.text = s ∧
      m.start = a ∧ m.stop.place = ⟨s.reverse ++ a.before, rest⟩ := by
  obtain ⟨hstart, hstop⟩ := mem_reaches_of_matchAt? h
  rw [hstart] at hstop
  obtain ⟨s, g, hs, hafter, hbefore, hcaptures⟩ := reads_of_mem_reaches hstop
  simp only [List.append_nil] at hafter hbefore hcaptures
  refine ⟨s, m.stop.place.after, hcaptures ▸ hs, hafter, ?_, hstart, ?_⟩
  · rw [Match.text, hstart, Place.upTo, Place.offset, Place.offset, hbefore, hafter]
    simp
  · rw [← hbefore]

/-- A pattern that stands for whole words captures what the pattern does. -/
theorem reads_whole : (whole p).Reads n s g ↔ p.Reads n s g := by
  constructor
  · rintro ⟨_, _, _, _, rfl, rfl, ⟨rfl, rfl⟩, _, _, _, _, rfl, rfl, hp, rfl, rfl⟩
    simpa using hp
  · intro hp
    exact ⟨[], s, [], g, rfl, by simp, ⟨rfl, rfl⟩, s, [], g, [], by simp, rfl, by simpa using hp,
      rfl, rfl⟩

/-- A pattern that remembers nothing reads what it describes. -/
theorem reads_of_slots_eq_nil (hp : p.slots = []) :
    p.Reads n s g ↔ p.Describes s ∧ g = [] := by
  induction p generalizing n s g with
  | nothing | one | many | edge => rfl
  | both p q ihp ihq =>
    obtain ⟨hp, hq⟩ := List.append_eq_nil_iff.1 hp
    constructor
    · rintro ⟨s₁, s₂, g₁, g₂, rfl, rfl, hs₁, hs₂⟩
      obtain ⟨h₁, rfl⟩ := (ihp hp).1 hs₁
      obtain ⟨h₂, rfl⟩ := (ihq hq).1 hs₂
      exact ⟨⟨s₁, s₂, rfl, h₁, h₂⟩, rfl⟩
    · rintro ⟨⟨s₁, s₂, rfl, h₁, h₂⟩, rfl⟩
      exact ⟨s₁, s₂, [], [], rfl, rfl, (ihp hp).2 ⟨h₁, rfl⟩, (ihq hq).2 ⟨h₂, rfl⟩⟩
  | either p q ihp ihq =>
    obtain ⟨hp, hq⟩ := List.append_eq_nil_iff.1 hp
    rw [Reads, Describes, ihp hp, ihq hq, or_and_right]
  | capture slot p ih => cases hp

/-- What is read with groups is described. -/
theorem describes_of_reads (h : p.Reads n s g) : p.Describes s := by
  induction p generalizing n s g with
  | nothing | one | many | edge => exact h.1
  | both p q ihp ihq =>
    obtain ⟨s₁, s₂, g₁, g₂, rfl, -, h₁, h₂⟩ := h
    exact ⟨s₁, s₂, rfl, ihp h₁, ihq h₂⟩
  | either p q ihp ihq => exact h.imp ihp ihq
  | capture slot p ih =>
    obtain ⟨g', -, h⟩ := h
    exact ih h

theorem exists_reads_of_describes (h : p.Describes s) : ∃ g, p.Reads n s g := by
  induction p generalizing n s with
  | nothing | one | many | edge => exact ⟨[], h, rfl⟩
  | both p q ihp ihq =>
    obtain ⟨s₁, s₂, rfl, h₁, h₂⟩ := h
    obtain ⟨g₁, hg₁⟩ := ihp h₁
    obtain ⟨g₂, hg₂⟩ := ihq h₂
    exact ⟨g₂ ++ g₁, s₁, s₂, g₁, g₂, rfl, rfl, hg₁, hg₂⟩
  | either p q ihp ihq =>
    rcases h with h | h
    · obtain ⟨g, hg⟩ := ihp h
      exact ⟨g, .inl hg⟩
    · obtain ⟨g, hg⟩ := ihq h
      exact ⟨g, .inr hg⟩
  | capture slot p ih =>
    obtain ⟨g, hg⟩ := ih h
    exact ⟨⟨slot, n, s⟩ :: g, g, rfl, hg⟩

/-! ## Stretches that are read wherever they stand -/

/-- Whether a pattern has no word boundaries. -/
def hasNoEdge : Pattern → Bool
  | nothing | one _ | many _ => true
  | edge => false
  | both p q | either p q => p.hasNoEdge && q.hasNoEdge
  | capture _ p => p.hasNoEdge

/-- Without word boundaries a pattern reads every stretch that it describes. -/
theorem leads_of_describes {before rest : List Char} (hp : p.hasNoEdge = true)
    (h : p.Describes s) : p.Leads ⟨before, s ++ rest⟩ ⟨s.reverse ++ before, rest⟩ := by
  induction p generalizing s before rest with
  | nothing =>
    obtain rfl : s = [] := h
    rfl
  | one kind =>
    obtain ⟨c, rfl, hc⟩ := h
    exact ⟨c, hc, rfl, rfl⟩
  | many kind => exact ⟨s, h, rfl, rfl⟩
  | edge => cases hp
  | both p q ihp ihq =>
    obtain ⟨hp, hq⟩ := (Bool.and_eq_true _ _).mp hp
    obtain ⟨s₁, s₂, rfl, h₁, h₂⟩ := h
    refine ⟨⟨s₁.reverse ++ before, s₂ ++ rest⟩, ?_, ?_⟩
    · rw [List.append_assoc]
      exact ihp hp h₁
    · rw [List.reverse_append, List.append_assoc]
      exact ihq hq h₂
  | either p q ihp ihq =>
    obtain ⟨hp, hq⟩ := (Bool.and_eq_true _ _).mp hp
    exact h.imp (ihp hp) (ihq hq)
  | capture slot p ih => exact ih hp h

/-- Between word boundaries it does so if no word character stands beside the stretch. -/
theorem leads_whole_of_describes {before rest : List Char} (hp : p.hasNoEdge = true)
    (hstart : p.startsInWord = true) (hend : p.endsInWord = true) (h : p.Describes s)
    (hbefore : before.head?.any Text.isWordChar = false)
    (hrest : rest.head?.any Text.isWordChar = false) :
    (whole p).Leads ⟨before, s ++ rest⟩ ⟨s.reverse ++ before, rest⟩ := by
  have hleads : p.Leads ⟨before, s ++ rest⟩ ⟨s.reverse ++ before, rest⟩ := leads_of_describes hp h
  have hafter := after_of_startsInWord hstart hleads
  have hlast := before_of_endsInWord hend hleads
  refine leads_whole.2 ⟨hleads, ?_, ?_⟩
  · rw [Place.atWordEdge, hbefore, hafter]
    rfl
  · rw [Place.atWordEdge, hrest, hlast]
    rfl

/-! ## The leftmost match -/

/-- The leftmost match is the preferred match in the first place that has one. -/
theorem findFrom?_eq_some_iff {before text : List Char} {m : Match} :
    p.findFrom? before text = some m ↔
      ∃ front rest, text = front ++ rest ∧
        p.matchAt? ⟨front.reverse ++ before, rest⟩ = some m ∧
        ∀ front' rest', text = front' ++ rest' → front'.length < front.length →
          p.matchAt? ⟨front'.reverse ++ before, rest'⟩ = none := by
  induction text generalizing before with
  | nil =>
    constructor
    · intro h
      exact ⟨[], [], rfl, h, fun _ _ _ hlt => absurd hlt (Nat.not_lt_zero _)⟩
    · rintro ⟨front, rest, htext, hm, -⟩
      obtain ⟨rfl, rfl⟩ := List.nil_eq_append_iff.1 htext
      exact hm
  | cons c text ih =>
    rw [findFrom?]
    cases hc : p.matchAt? ⟨before, c :: text⟩ with
    | some m' =>
      constructor
      · intro h
        obtain rfl := Option.some.inj h
        exact ⟨[], c :: text, rfl, hc, fun _ _ _ hlt => absurd hlt (Nat.not_lt_zero _)⟩
      · rintro ⟨front, rest, htext, hm, hfirst⟩
        cases front with
        | nil =>
          obtain rfl : c :: text = rest := htext
          exact hc.symm.trans hm
        | cons d front =>
          have hnone := hfirst [] (c :: text) rfl (Nat.succ_pos _)
          simp [hc] at hnone
    | none =>
      -- nothing matches here, so the first place that has a match is one of the remaining text
      simp only [ih]
      constructor
      · rintro ⟨front, rest, rfl, hm, hfirst⟩
        refine ⟨c :: front, rest, rfl, by simpa using hm, ?_⟩
        intro front' rest' htext hlt
        cases front' with
        | nil =>
          obtain rfl : c :: (front ++ rest) = rest' := htext
          exact hc
        | cons d front' =>
          obtain ⟨rfl, htext'⟩ := List.cons.inj htext
          simpa using hfirst front' rest' htext' (Nat.lt_of_succ_lt_succ hlt)
      · rintro ⟨front, rest, htext, hm, hfirst⟩
        cases front with
        | nil =>
          obtain rfl : c :: text = rest := htext
          simp [hc] at hm
        | cons d front =>
          obtain ⟨rfl, htext'⟩ := List.cons.inj htext
          refine ⟨front, rest, htext', by simpa using hm, ?_⟩
          intro front' rest' hsplit hlt
          simpa using hfirst (c :: front') rest' (by rw [hsplit]; rfl) (Nat.succ_lt_succ hlt)

/-- The match that is found is the leftmost one. -/
theorem find?_eq_some_iff {text : List Char} {m : Match} :
    p.find? text = some m ↔
      ∃ front rest, text = front ++ rest ∧ p.matchAt? ⟨front.reverse, rest⟩ = some m ∧
        ∀ front' rest', text = front' ++ rest' → front'.length < front.length →
          p.matchAt? ⟨front'.reverse, rest'⟩ = none := by
  simpa [find?] using @findFrom?_eq_some_iff p [] text m

/-! ## All matches -/

theorem length_of_matchAt? {a : Place} {m : Match} (h : p.matchAt? a = some m) :
    ∃ s rest, p.Describes s ∧ a.after = s ++ rest ∧ m.length = s.length := by
  obtain ⟨s, rest, hreads, hafter, -, hstart, hplace⟩ := reads_of_matchAt? h
  refine ⟨s, rest, describes_of_reads hreads, hafter, ?_⟩
  rw [Match.length, hplace, hstart, Place.offset, Place.offset]
  simp

/-- No match of a pattern that reads no blanks reaches over a blank, so a match behind a blank is
one of all matches. -/
theorem mem_all_behind_blank {front rest : List Char} {c : Char} {m : Match}
    (hp : ∀ s, p.Describes s → ∀ d ∈ s, Text.isBlank d = false) (hc : Text.isBlank c = true)
    (hm : p.matchAt? ⟨c :: front.reverse, rest⟩ = some m) : m ∈ p.all (front ++ c :: rest) := by
  -- what is skipped on the way ends in front of the blank
  have hshort : ∀ {before m'} front, p.matchAt? ⟨before, front ++ c :: rest⟩ = some m' →
      m'.length ≤ front.length := by
    intro before m' front hm'
    obtain ⟨s, rest', hs, hsplit, hlength⟩ := length_of_matchAt? hm'
    rw [hlength]
    rcases List.append_eq_append_iff.1 hsplit with ⟨t, rfl, ht⟩ | ⟨t, rfl, -⟩
    · cases t with
      | nil => simp
      | cons d t =>
        obtain ⟨rfl, -⟩ := List.cons.inj ht
        have hblank := hp _ hs c (List.mem_append_right _ List.mem_cons_self)
        rw [hc] at hblank
        cases hblank
    · simp
  -- wherever the search stands, it does not skip the place behind the blank
  suffices hfrom : ∀ before skip, skip ≤ front.length →
      p.matchAt? ⟨c :: (front.reverse ++ before), rest⟩ = some m →
      m ∈ p.allFrom before skip (front ++ c :: rest) from
    hfrom [] 0 (Nat.zero_le _) (by simpa using hm)
  clear hm
  induction front with
  | nil =>
    intro before skip hskip hm
    obtain rfl : skip = 0 := Nat.le_zero.1 hskip
    have hnext : m ∈ p.allFrom (c :: before) 0 rest := by
      cases rest with
      | nil => exact Option.mem_toList.2 hm
      | cons d rest =>
        rw [allFrom, show p.matchAt? ⟨c :: before, d :: rest⟩ = some m from hm]
        exact List.mem_cons_self
    rw [List.nil_append, allFrom]
    split
    · next m' hm' =>
      have hzero : m'.length = 0 := Nat.le_zero.1 (hshort [] hm')
      rw [hzero]
      exact List.mem_cons_of_mem _ hnext
    · exact hnext
  | cons d front ih =>
    intro before skip hskip hm
    have hm' : p.matchAt? ⟨c :: (front.reverse ++ d :: before), rest⟩ = some m := by simpa using hm
    cases skip with
    | succ skip => exact ih (d :: before) skip (Nat.le_of_succ_le_succ hskip) hm'
    | zero =>
      rw [List.cons_append, allFrom]
      split
      · next m₁ hm₁ =>
        have hle : m₁.length ≤ front.length + 1 := hshort (d :: front) hm₁
        exact List.mem_cons_of_mem _ (ih (d :: before) (m₁.length - 1) (by omega) hm')
      · exact ih (d :: before) 0 (Nat.zero_le _) hm'

end Pattern

end AskLedger
