import AskLedger.Proofs.PatternPaths

/-!
# Words in their context

What a pattern reads between word boundaries stands apart from what is around it. A stretch that
stands apart in a part of a text that itself stands apart also stands apart in the text, so a word
that is found in a part, or in a text from which other words have been taken out, is found in the
text as well.

* `Text.StandsApart.trans`: a part of a part.
* `Pattern.standsApart_of_mem_all`: matches between word boundaries stand apart.
* `Pattern.standsApart_of_replaceAll`: a word that stands apart after other words have been taken
  out did so before, where `Pattern.exists_origin_of_replaceAll` tells its place.
* `Pattern.group_of_mem_reaches`: what is remembered under a number that only one part of a pattern
  uses.
-/

namespace AskLedger

/-! ## Stretches that stand apart -/

namespace Text

/-- Whether a stretch is somewhere in a text without a word character next to it. -/
def StandsApart (s text : List Char) : Prop :=
  ∃ before after : List Char, text = before.reverse ++ s ++ after ∧
    before.head?.any isWordChar = false ∧ after.head?.any isWordChar = false

variable {s t u : List Char}

theorem head?_any_append {p : Char → Bool} (hs : s.head?.any p = false)
    (ht : t.head?.any p = false) : (s ++ t).head?.any p = false := by
  cases s with
  | nil => exact ht
  | cons c s => exact hs

theorem StandsApart.trans (hs : StandsApart s t) (ht : StandsApart t u) : StandsApart s u := by
  obtain ⟨before, after, rfl, hbefore, hafter⟩ := hs
  obtain ⟨before', after', rfl, hbefore', hafter'⟩ := ht
  exact ⟨before ++ before', after ++ after', by simp, head?_any_append hbefore hbefore',
    head?_any_append hafter hafter'⟩

theorem head?_any_of_blanks (hs : ∀ c ∈ s, isBlank c = true) :
    s.head?.any isWordChar = false := by
  cases s with
  | nil => rfl
  | cons c s => exact isWordChar_of_isBlank (hs c List.mem_cons_self)

theorem isBlank_of_mem_takeWhile {c : Char} (h : c ∈ s.takeWhile isBlank) : isBlank c = true :=
  List.all_eq_true.1 List.all_takeWhile c h

/-- A text is what is left without its outer blanks, with blanks around it. -/
theorem exists_trim (s : List Char) :
    ∃ u v, (∀ c ∈ u, isBlank c = true) ∧ (∀ c ∈ v, isBlank c = true) ∧ s = u ++ trim s ++ v := by
  refine ⟨s.takeWhile isBlank, ((trimStart s).reverse.takeWhile isBlank).reverse,
    fun c hc => isBlank_of_mem_takeWhile hc,
    fun c hc => isBlank_of_mem_takeWhile (List.mem_reverse.1 hc), ?_⟩
  have hend : trim s ++ ((trimStart s).reverse.takeWhile isBlank).reverse = trimStart s := by
    rw [trim, trimEnd, ← List.reverse_append, List.takeWhile_append_dropWhile,
      List.reverse_reverse]
  rw [List.append_assoc, hend, trimStart, List.takeWhile_append_dropWhile]

/-- What is left of a text without its outer blanks stands apart in it. -/
theorem standsApart_trim (s : List Char) : StandsApart (trim s) s := by
  obtain ⟨u, v, hu, hv, hs⟩ := exists_trim s
  refine ⟨u.reverse, v, by rw [List.reverse_reverse]; exact hs, head?_any_of_blanks ?_,
    head?_any_of_blanks hv⟩
  exact fun c hc => hu c (List.mem_reverse.1 hc)

end Text

namespace Pattern

open Text (StandsApart isWordChar)

variable {p : Pattern} {a b : Place}

/-- Where a pattern leads from a place, it describes the stretch in between. -/
theorem exists_stretch_of_leads (h : p.Leads a b) :
    ∃ s, p.Describes s ∧ a.after = s ++ b.after ∧ b.before = s.reverse ++ a.before := by
  obtain ⟨captures, hb⟩ := exists_mem_reaches h []
  exact describes_of_mem_reaches hb

/-- In front of a word at a word boundary there is no word character. -/
theorem before_of_atWordEdge (hedge : a.atWordEdge = true)
    (hafter : a.after.head?.any isWordChar = true) : a.before.head?.any isWordChar = false := by
  simpa [Place.atWordEdge, hafter] using hedge

/-- Nor is there one behind it. -/
theorem after_of_atWordEdge (hedge : b.atWordEdge = true)
    (hbefore : b.before.head?.any isWordChar = true) : b.after.head?.any isWordChar = false := by
  simpa [Place.atWordEdge, hbefore] using hedge

section
variable (hstart : p.startsInWord = true) (hend : p.endsInWord = true)

include hstart hend

/-- Between word boundaries a word has no word characters next to it. -/
theorem outside_of_leads_whole (h : (whole p).Leads a b) :
    a.before.head?.any isWordChar = false ∧ b.after.head?.any isWordChar = false := by
  obtain ⟨hp, ha, hb⟩ := leads_whole.1 h
  exact ⟨before_of_atWordEdge ha (after_of_startsInWord hstart hp),
    after_of_atWordEdge hb (before_of_endsInWord hend hp)⟩

/-- The matches of a word between word boundaries stand apart. -/
theorem standsApart_of_mem_all {text : List Char} {m : Match} (h : m ∈ (whole p).all text) :
    StandsApart m.text text := by
  obtain ⟨hwhole, hstop⟩ := mem_reaches_of_mem_all h
  have hleads := leads_of_mem_reaches hstop
  obtain ⟨hbefore, hafter⟩ := outside_of_leads_whole hstart hend hleads
  obtain ⟨s, -, hs, hplace⟩ := exists_stretch_of_leads hleads
  obtain ⟨⟨front, rest⟩, ⟨⟨front', rest'⟩, captures⟩⟩ := m
  simp only at hbefore hafter hs hplace
  subst hs hplace
  refine ⟨front, rest', ?_, hbefore, hafter⟩
  rw [Match.text, Place.upTo_append, ← hwhole, Place.whole, List.append_assoc]

end

/-! ## Texts without the matches of a pattern -/

/-- How many characters of the text precede each of the characters that `replaceFrom` leaves; none
for those that it puts in. -/
def originsFrom (p : Pattern) (by_ before : List Char) : Nat → List Char → List (Option Nat)
  | _, [] => []
  | 0, c :: rest =>
    match p.matchAt? ⟨before, c :: rest⟩ with
    | some m => by_.map (fun _ => none) ++ originsFrom p by_ (c :: before) (m.length - 1) rest
    | none => some before.length :: originsFrom p by_ (c :: before) 0 rest
  | skip + 1, c :: rest => originsFrom p by_ (c :: before) skip rest

/-- How many characters of a text precede each of the characters that `replaceAll` leaves. -/
def origins (p : Pattern) (by_ text : List Char) : List (Option Nat) :=
  p.originsFrom by_ [] 0 text

/-- What has been skipped is copied no more. -/
theorem replaceFrom_append {before skipped rest by_ : List Char} :
    p.replaceFrom by_ before skipped.length (skipped ++ rest) =
        p.replaceFrom by_ (skipped.reverse ++ before) 0 rest ∧
      p.originsFrom by_ before skipped.length (skipped ++ rest) =
        p.originsFrom by_ (skipped.reverse ++ before) 0 rest := by
  induction skipped generalizing before with
  | nil => exact ⟨rfl, rfl⟩
  | cons c skipped ih =>
    rw [List.cons_append, List.length_cons, replaceFrom, originsFrom, ih.1, ih.2]
    simp

/-- At a place where a match starts, what it reads is replaced and the rest is gone through. -/
theorem replaceFrom_of_match {before text by_ : List Char} {m : Match} (hp : p.takesSome = true)
    (hm : p.matchAt? ⟨before, text⟩ = some m) :
    ∃ s rest, s ≠ [] ∧ text = s ++ rest ∧
      p.Leads ⟨before, s ++ rest⟩ ⟨s.reverse ++ before, rest⟩ ∧
      p.replaceFrom by_ before 0 text =
        by_ ++ p.replaceFrom by_ (s.reverse ++ before) 0 rest ∧
      p.originsFrom by_ before 0 text =
        by_.map (fun _ => none) ++ p.originsFrom by_ (s.reverse ++ before) 0 rest := by
  obtain ⟨hstart, hstop⟩ := mem_reaches_of_matchAt? hm
  rw [hstart] at hstop
  have hleads := leads_of_mem_reaches hstop
  obtain ⟨s, hs, hafter, hbefore⟩ := describes_of_mem_reaches hstop
  simp only at hafter hbefore
  obtain ⟨c, s', rfl⟩ := List.exists_cons_of_ne_nil (ne_nil_of_takesSome hp hs)
  -- one character is gone through at the start of the match, the others are skipped
  have hlength : m.length - 1 = s'.length := by
    rw [Match.length, Place.offset, Place.offset, hstart, hbefore]
    simp only [List.length_append, List.length_reverse, List.length_cons]
    omega
  refine ⟨c :: s', m.stop.place.after, List.cons_ne_nil _ _, hafter, ?_, ?_⟩
  · rwa [← hafter, ← hbefore]
  · subst hafter
    rw [List.cons_append, replaceFrom, originsFrom]
    rw [List.cons_append] at hm
    simp only [hm, hlength, replaceFrom_append]
    simp

/-- A pattern that starts in a word takes a character. -/
theorem takesSome_of_startsInWord (hp : p.startsInWord = true) : p.takesSome = true := by
  induction p with
  | one kind => rfl
  | both p q ihp ihq => exact Bool.or_eq_true_iff.2 (.inl (ihp hp))
  | either p q ihp ihq =>
    obtain ⟨hp, hq⟩ := (Bool.and_eq_true _ _).mp hp
    exact (Bool.and_eq_true _ _).mpr ⟨ihp hp, ihq hq⟩
  | capture slot p ih => exact ih hp
  | nothing | many | edge => cases hp

section
variable (hstart : p.startsInWord = true) (hend : p.endsInWord = true) {s : List Char}
  (hs : ∀ c ∈ s, isWordChar c = true)

include hstart hend

/-- Where a word between word boundaries is replaced, it is replaced by a space, and no word
character follows it. -/
theorem replaceFrom_of_match_whole {before text : List Char} {m : Match}
    (hm : (whole p).matchAt? ⟨before, text⟩ = some m) :
    before.head?.any isWordChar = false ∧
      ∃ d rest, text = d ++ rest ∧ rest.head?.any isWordChar = false ∧
        (whole p).replaceFrom [' '] before 0 text =
          ' ' :: (whole p).replaceFrom [' '] (d.reverse ++ before) 0 rest ∧
        (whole p).originsFrom [' '] before 0 text =
          none :: (whole p).originsFrom [' '] (d.reverse ++ before) 0 rest := by
  have hsome : (whole p).takesSome = true := by
    simp [whole, inOrder, takesSome, takesSome_of_startsInWord hstart]
  obtain ⟨d, rest, -, htext, hleads, hreplace⟩ := replaceFrom_of_match hsome hm
  obtain ⟨hbefore, hrest⟩ := outside_of_leads_whole hstart hend hleads
  exact ⟨hbefore, d, rest, htext, hrest, hreplace⟩

include hs

/-- Word characters that are left in front were there before, and what ended their word still
does. -/
theorem exists_after_of_replaceFrom {before text back : List Char}
    (hbefore : s = [] → before.head?.any isWordChar = true)
    (hout : (whole p).replaceFrom [' '] before 0 text = s ++ back)
    (hback : back.head?.any isWordChar = false) :
    ∃ after, text = s ++ after ∧ after.head?.any isWordChar = false := by
  induction s generalizing before text with
  | nil =>
    cases text with
    | nil => exact ⟨[], rfl, rfl⟩
    | cons c rest =>
      cases hm : (whole p).matchAt? ⟨before, c :: rest⟩ with
      | some m =>
        -- no match starts directly behind a word character
        obtain ⟨hnot, -⟩ := replaceFrom_of_match_whole hstart hend hm
        rw [hbefore rfl] at hnot
        cases hnot
      | none =>
        simp only [replaceFrom, hm, List.nil_append] at hout
        exact ⟨c :: rest, rfl, by rwa [← hout] at hback⟩
  | cons d s ih =>
    obtain ⟨hd, htail⟩ := List.forall_mem_cons.1 hs
    cases text with
    | nil => cases hout
    | cons c rest =>
      cases hm : (whole p).matchAt? ⟨before, c :: rest⟩ with
      | some m =>
        -- a match would leave a space
        obtain ⟨-, d', rest', -, -, hreplace, -⟩ := replaceFrom_of_match_whole hstart hend hm
        rw [hreplace] at hout
        obtain ⟨rfl, -⟩ := List.cons.inj hout
        cases hd
      | none =>
        simp only [replaceFrom, hm, List.cons_append, List.cons.injEq] at hout
        obtain ⟨rfl, hout⟩ := hout
        obtain ⟨after, rfl, hafter⟩ := ih htail (fun _ => by simp [hd]) hout
        exact ⟨after, rfl, hafter⟩

/-- The step from the front of a text: `context` is what has come out so far of `before`. Either
both end alike or no word goes on behind `before`. -/
theorem exists_origin_of_replaceFrom {before context text front back : List Char} (hne : s ≠ [])
    (hcontext : context.head?.any isWordChar = false → before.head?.any isWordChar = true →
      text.head?.any isWordChar = false)
    (hout : (whole p).replaceFrom [' '] before 0 text = front ++ s ++ back)
    (hfront : (front.reverse ++ context).head?.any isWordChar = false)
    (hback : back.head?.any isWordChar = false) :
    ∃ front' back', text = front' ++ s ++ back' ∧
      (front'.reverse ++ before).head?.any isWordChar = false ∧
      back'.head?.any isWordChar = false ∧
      ((whole p).originsFrom [' '] before 0 text)[front.length]? =
        some (some (before.length + front'.length)) := by
  -- every character that comes out is one that was kept or the space for a match
  induction front generalizing before context text with
  | nil =>
    obtain ⟨after, rfl, hafter⟩ := exists_after_of_replaceFrom hstart hend hs
      (fun h => absurd h hne) hout hback
    obtain ⟨c, s', rfl⟩ := List.exists_cons_of_ne_nil hne
    have hword : isWordChar c = true := hs c List.mem_cons_self
    refine ⟨[], after, rfl, ?_, hafter, ?_⟩
    · by_contra hbefore
      have hnot := hcontext hfront (Bool.not_eq_false _ ▸ hbefore)
      simp [hword] at hnot
    · cases hm : (whole p).matchAt? ⟨before, c :: (s' ++ after)⟩ with
      | some m =>
        -- a match would leave a space
        obtain ⟨-, d, rest, -, -, hreplace, -⟩ := replaceFrom_of_match_whole hstart hend hm
        rw [List.cons_append, hreplace] at hout
        obtain ⟨rfl, -⟩ := List.cons.inj hout
        cases hword
      | none => simp [originsFrom, hm]
  | cons f front ih =>
    cases text with
    | nil => cases hout
    | cons c rest =>
      have hfront' : (front.reverse ++ f :: context).head?.any isWordChar = false := by
        simpa using hfront
      cases hm : (whole p).matchAt? ⟨before, c :: rest⟩ with
      | some m =>
        obtain ⟨-, d, rest', htext, hrest', hreplace, horigins⟩ :=
          replaceFrom_of_match_whole hstart hend hm
        rw [hreplace, List.cons_append, List.cons_append] at hout
        obtain ⟨rfl, hkept⟩ := List.cons.inj hout
        obtain ⟨front', back', rfl, hfront'', hback', horigin⟩ :=
          ih (fun _ _ => hrest') hkept hfront'
        refine ⟨d ++ front', back', by simp [htext], by simpa using hfront'', hback', ?_⟩
        rw [horigins, List.length_cons, List.getElem?_cons_succ, horigin]
        simp
        omega
      | none =>
        simp only [replaceFrom, hm, List.cons_append, List.cons.injEq] at hout
        obtain ⟨rfl, hout⟩ := hout
        -- a kept character is the last of `context` and of `before` alike
        have hsame : (c :: context).head?.any isWordChar = false →
            (c :: before).head?.any isWordChar = true → rest.head?.any isWordChar = false := by
          intro hc hc'
          simp_all
        obtain ⟨front', back', rfl, hfront'', hback', horigin⟩ := ih hsame hout hfront'
        refine ⟨c :: front', back', rfl, by simpa using hfront'', hback', ?_⟩
        simp only [originsFrom, hm, List.length_cons, List.getElem?_cons_succ, horigin]
        simp
        omega

/-- A word that stands apart after other words have been taken out has a place in the text, the one
that its first character comes from, where it stands apart as well. -/
theorem exists_origin_of_replaceAll {text front back : List Char} (hne : s ≠ [])
    (hout : (whole p).replaceAll [' '] text = front ++ s ++ back)
    (hfront : front.reverse.head?.any isWordChar = false)
    (hback : back.head?.any isWordChar = false) :
    ∃ front' back', text = front' ++ s ++ back' ∧
      front'.reverse.head?.any isWordChar = false ∧ back'.head?.any isWordChar = false ∧
      ((whole p).origins [' '] text)[front.length]? = some (some front'.length) := by
  have hcontext : ([] : List Char).head?.any isWordChar = false →
      ([] : List Char).head?.any isWordChar = true → text.head?.any isWordChar = false :=
    fun _ h => by cases h
  obtain ⟨front', back', htext, hfront', hback', horigin⟩ :=
    exists_origin_of_replaceFrom hstart hend hs hne hcontext hout (by simpa using hfront) hback
  exact ⟨front', back', htext, by simpa using hfront', hback', by simpa [origins] using horigin⟩

/-- A word that stands apart after other words have been taken out did so before. -/
theorem standsApart_of_replaceAll {text : List Char} (hne : s ≠ [])
    (h : StandsApart s ((whole p).replaceAll [' '] text)) : StandsApart s text := by
  obtain ⟨before, after, hout, hbefore, hafter⟩ := h
  obtain ⟨front, back, htext, hfront, hback, -⟩ := exists_origin_of_replaceAll hstart hend hs hne
    hout (by rwa [List.reverse_reverse]) hafter
  exact ⟨front.reverse, back, by rw [List.reverse_reverse, htext], hfront, hback⟩

end

/-! ## Remembered stretches -/

/-- The numbers under which a pattern remembers stretches. -/
def slots : Pattern → List Nat
  | capture slot p => slot :: p.slots
  | both p q | either p q => p.slots ++ q.slots
  | nothing | one _ | many _ | edge => []

/-- What is remembered under a number stays as it is where the number is not used. -/
theorem find?_captures_of_mem_reaches {slot : Nat} {r e : Reach} (hslot : slot ∉ p.slots)
    (h : e ∈ p.reaches r) :
    e.captures.find? (fun c => c.slot == slot) = r.captures.find? fun c => c.slot == slot := by
  induction p generalizing r e with
  | nothing => rw [List.mem_singleton.1 h]
  | one kind =>
    rw [reaches] at h
    split at h
    · split at h
      · rw [List.mem_singleton.1 h]
      · cases h
    · cases h
  | many kind =>
    simp only [reaches, List.mem_map] at h
    obtain ⟨q, -, rfl⟩ := h
    rfl
  | edge =>
    rw [reaches] at h
    split at h
    · rw [List.mem_singleton.1 h]
    · cases h
  | both p q ihp ihq =>
    simp only [slots, List.mem_append, not_or] at hslot
    simp only [reaches, List.mem_flatMap] at h
    obtain ⟨m, hm, he⟩ := h
    rw [ihq hslot.2 he, ihp hslot.1 hm]
  | either p q ihp ihq =>
    simp only [slots, List.mem_append, not_or] at hslot
    rw [reaches, List.mem_append] at h
    exact h.elim (ihp hslot.1) (ihq hslot.2)
  | capture number p ih =>
    simp only [slots, List.mem_cons, not_or] at hslot
    simp only [reaches, List.mem_map] at h
    obtain ⟨m, hm, rfl⟩ := h
    -- what is captured here goes to another slot
    rw [List.find?_cons_of_neg (by simpa using Ne.symm hslot.1), ih hslot.2 hm]

/-- What is remembered under a number that only the first part of a pattern uses is what this part
reads. -/
theorem group_of_mem_reaches {q : Pattern} {slot : Nat} {m : Match} (hslot : slot ∉ q.slots)
    (h : m.stop ∈ (both (capture slot p) q).reaches ⟨m.start, []⟩) :
    p.Describes (m.group slot) ∧ ∃ rest, m.start.after = m.group slot ++ rest ∧
      q.Leads ⟨(m.group slot).reverse ++ m.start.before, rest⟩ m.stop.place := by
  simp only [reaches, List.mem_flatMap, List.mem_map] at h
  obtain ⟨_, ⟨n, hn, rfl⟩, hstop⟩ := h
  obtain ⟨s, hs, hafter, hbefore⟩ := describes_of_mem_reaches hn
  -- the rest of the pattern does not remember anything under the number
  have hgroup : m.group slot = s := by
    have hfind := find?_captures_of_mem_reaches hslot hstop
    simp only [List.find?_cons, beq_self_eq_true] at hfind
    simp only at hafter hbefore
    simp only [Match.group, Match.capture?, hfind]
    rw [Place.upTo, Place.offset, Place.offset, hbefore, hafter]
    simp
  have hleads := leads_of_mem_reaches hstop
  rw [hgroup, ← hbefore]
  exact ⟨hs, n.place.after, hafter, hleads⟩

end Pattern

end AskLedger
