import AskLedger.Proofs.PatternGroups

/-!
# Texts with all matches replaced

Replacing all matches of a pattern goes through a text from left to right. A character is kept where
no match starts, and what a match has read is replaced by a space. So a stretch that no match
overlaps is kept, and what is kept was there before.

* `Stretch.eq_of_overlaps`: words that stand apart are the same or share no character.
* `Pattern.Passes`: going through a part of a text, of which `Pattern.Passes.split` shows how it
  divides the matches and what comes out.
* `Pattern.Kept`: a stretch that is kept. One that comes out is, by
  `Pattern.exists_kept_of_replaceAll`, and so is one that no match overlaps, by
  `Pattern.exists_kept_of_free`.
* `Pattern.Kept.edges_iff`: taking words out does not change which words stand apart.
-/

namespace AskLedger

open Text (isWordChar)

/-! ## Stretches of a text -/

/-- A stretch of a text by its place. -/
@[ext]
structure Stretch where
  /-- How many characters of the text precede it. -/
  offset : Nat
  /-- The stretch itself. -/
  text : List Char
  deriving DecidableEq

namespace Stretch

/-- How many characters of the text precede what follows the stretch. -/
def stop (s : Stretch) : Nat := s.offset + s.text.length

/-- Whether two stretches of a text share a character. -/
def Overlaps (s t : Stretch) : Prop := s.offset < t.stop ∧ t.offset < s.stop

instance (s t : Stretch) : Decidable (s.Overlaps t) := inferInstanceAs (Decidable (_ ∧ _))

/-- Whether a stretch is one of a text, without a word character next to it. -/
def StandsIn (s : Stretch) (text : List Char) : Prop :=
  ∃ front back, text = front ++ (s.text ++ back) ∧ s.offset = front.length ∧
    front.getLast?.any isWordChar = false ∧ back.head?.any isWordChar = false

variable {s t : Stretch} {text : List Char}

theorem Overlaps.symm (h : s.Overlaps t) : t.Overlaps s := ⟨h.2, h.1⟩

/-- A word that stands apart does not start within another one. -/
theorem offset_le_of_overlaps (hs : ∀ c ∈ s.text, isWordChar c = true) (hsText : s.StandsIn text)
    (htText : t.StandsIn text) (h : s.Overlaps t) : t.offset ≤ s.offset := by
  obtain ⟨front, back, htext, hoffset, -, -⟩ := hsText
  obtain ⟨front', back', htext', hoffset', hfront', -⟩ := htText
  obtain ⟨-, hstart⟩ := h
  rw [stop, hoffset, hoffset'] at hstart
  rw [hoffset, hoffset']
  rcases List.append_eq_append_iff.1 (htext.symm.trans htext') with ⟨u, rfl, hrest⟩ | ⟨u, rfl, -⟩
  · -- what lies between the two starts would end with a character of the first word
    rw [List.length_append] at hstart
    obtain ⟨v, hv⟩ : ∃ v, s.text = u ++ v := by
      rcases List.append_eq_append_iff.1 hrest with ⟨w, rfl, -⟩ | ⟨v, hv, -⟩
      · rw [List.length_append] at hstart
        omega
      · exact ⟨v, hv⟩
    cases hlast : u.getLast? with
    | none => simp [List.getLast?_eq_none_iff.1 hlast]
    | some c =>
      have hc := hs c (by rw [hv]; exact List.mem_append_left _ (List.mem_of_getLast? hlast))
      rw [List.getLast?_append, hlast, Option.some_or, Option.any_some, hc] at hfront'
      cases hfront'
  · simp

/-- Words that stand apart are the same if they share a character. -/
theorem eq_of_overlaps (hs : ∀ c ∈ s.text, isWordChar c = true)
    (ht : ∀ c ∈ t.text, isWordChar c = true) (hsText : s.StandsIn text) (htText : t.StandsIn text)
    (h : s.Overlaps t) : s = t := by
  have hoffset : s.offset = t.offset := Nat.le_antisymm
    (offset_le_of_overlaps ht htText hsText h.symm) (offset_le_of_overlaps hs hsText htText h)
  obtain ⟨front, back, htext, hfront, -, hback⟩ := hsText
  obtain ⟨front', back', htext', hfront', -, hback'⟩ := htText
  obtain ⟨-, hrest⟩ := List.append_inj (htext.symm.trans htext') (by omega)
  obtain ⟨hsame, -⟩ := Text.run_inj hs hback ht hback' hrest
  exact Stretch.ext hoffset hsame

end Stretch

/-- Whether a text starts and ends with a word character and has no space in it. -/
structure Text.IsWordlike (s : List Char) : Prop where
  /-- No space is in it. -/
  noSpace : ' ' ∉ s
  /-- A word character is at its start. -/
  head : s.head?.any isWordChar = true
  /-- A word character is at its end. -/
  last : s.getLast?.any isWordChar = true

/-- What is like a word is not empty. -/
theorem Text.IsWordlike.ne_nil {s : List Char} (h : IsWordlike s) : s ≠ [] := by
  rintro rfl
  cases h.head

/-- Where a match is and what it has read. -/
def Match.stretch (m : Match) : Stretch := ⟨m.start.offset, m.text⟩

namespace Pattern

variable {p : Pattern} {before text rest out s back : List Char} {m : Match} {found : List Match}

/-! ## Steps -/

theorem allFrom_append {before skipped rest : List Char} :
    p.allFrom before skipped.length (skipped ++ rest) =
      p.allFrom (skipped.reverse ++ before) 0 rest := by
  induction skipped generalizing before with
  | nil => rfl
  | cons c skipped ih =>
    rw [List.cons_append, List.length_cons, allFrom, ih]
    simp

/-- Where a match starts, what it has read is replaced and the rest is gone through. -/
theorem step_of_match (hp : p.takesSome = true) (hm : p.matchAt? ⟨before, text⟩ = some m) :
    ∃ rest, m.text ≠ [] ∧ text = m.text ++ rest ∧ m.start.offset = before.length ∧
      p.replaceFrom [' '] before 0 text =
        ' ' :: p.replaceFrom [' '] (m.text.reverse ++ before) 0 rest ∧
      p.allFrom before 0 text = m :: p.allFrom (m.text.reverse ++ before) 0 rest := by
  obtain ⟨s, rest, hreads, hafter, htext, hstart, hplace⟩ := reads_of_matchAt? hm
  obtain ⟨c, s', rfl⟩ :=
    List.exists_cons_of_ne_nil (ne_nil_of_takesSome hp (describes_of_reads hreads))
  -- one character is gone through at the start of the match, the others are skipped
  have hlength : m.length - 1 = s'.length := by
    rw [Match.length, hplace, hstart, Place.offset, Place.offset]
    simp
    omega
  simp only at hafter
  subst hafter
  rw [htext]
  refine ⟨rest, List.cons_ne_nil _ _, rfl, by rw [hstart]; rfl, ?_, ?_⟩
  · rw [List.cons_append] at hm ⊢
    rw [replaceFrom, hm]
    simp [hlength, replaceFrom_append.1]
  · rw [List.cons_append] at hm ⊢
    rw [allFrom, hm]
    simp [hlength, allFrom_append]

/-! ## Parts of a text -/

/-- Going through `text`, a part of a text that lies between `before` and `rest`: `out` is what
comes out and `found` are the matches. -/
inductive Passes (p : Pattern) (rest : List Char) :
    List Char → List Char → List Char → List Match → Prop
  /-- There is nothing left. -/
  | done {before : List Char} : Passes p rest before [] [] []
  /-- A character where no match starts is kept. -/
  | kept {before text out : List Char} {found : List Match} {c : Char}
      (hnone : p.matchAt? ⟨before, c :: (text ++ rest)⟩ = none)
      (htail : Passes p rest (c :: before) text out found) :
      Passes p rest before (c :: text) (c :: out) found
  /-- What a match has read is replaced. -/
  | replaced {before text out : List Char} {found : List Match} {m : Match}
      (hm : p.matchAt? ⟨before, m.text ++ (text ++ rest)⟩ = some m)
      (htail : Passes p rest (m.text.reverse ++ before) text out found) :
      Passes p rest before (m.text ++ text) (' ' :: out) (m :: found)

section
variable (hp : p.takesSome = true)
include hp

/-- The matches and what comes out of a text are those of a part and of the rest. -/
theorem Passes.split (h : p.Passes rest before text out found) :
    p.replaceFrom [' '] before 0 (text ++ rest) =
        out ++ p.replaceFrom [' '] (text.reverse ++ before) 0 rest ∧
      p.allFrom before 0 (text ++ rest) =
        found ++ p.allFrom (text.reverse ++ before) 0 rest := by
  induction h with
  | done => exact ⟨rfl, rfl⟩
  | kept hnone htail ih =>
    rw [List.cons_append, replaceFrom, allFrom, hnone, ih.1, ih.2]
    simp
  | replaced hm htail ih =>
    obtain ⟨rest', -, hrest, -, hreplace, hall⟩ := step_of_match hp hm
    obtain rfl := List.append_cancel_left hrest
    rw [List.append_assoc, hreplace, hall, ih.1, ih.2]
    simp

/-- The matches of a part lie within it. -/
theorem Passes.within (h : p.Passes rest before text out found) :
    ∀ m ∈ found, before.length ≤ m.stretch.offset ∧
      m.stretch.stop ≤ before.length + text.length := by
  induction h with
  | done => exact List.forall_mem_nil _
  | kept hnone htail ih =>
    intro m hm
    have hm' := ih m hm
    rw [List.length_cons] at hm' ⊢
    omega
  | @replaced before _ _ _ m' hm htail ih =>
    obtain ⟨-, -, -, hoffset, -⟩ := step_of_match hp hm
    have hstretch : m'.stretch.offset = before.length := hoffset
    refine List.forall_mem_cons.2 ⟨?_, ?_⟩
    · rw [Stretch.stop, hstretch, List.length_append]
      exact ⟨Nat.le_refl _, Nat.add_le_add_left (Nat.le_add_right _ _) _⟩
    · intro m hm
      have hm' := ih m hm
      rw [List.length_append, List.length_reverse] at hm'
      rw [List.length_append]
      omega

/-- Every front of what comes out is that of a part of the text. -/
theorem exists_passes_of_replaceFrom (h : p.replaceFrom [' '] before 0 text = out ++ back) :
    ∃ part rest found, text = part ++ rest ∧ p.Passes rest before part out found ∧
      p.replaceFrom [' '] (part.reverse ++ before) 0 rest = back := by
  induction out generalizing before text with
  | nil => exact ⟨[], text, [], rfl, .done, h⟩
  | cons d out ih =>
    cases text with
    | nil => cases h
    | cons c text =>
      cases hm : p.matchAt? ⟨before, c :: text⟩ with
      | some m =>
        -- a match gives one blank to the output and is taken off the text as a whole
        obtain ⟨rest, -, htext, -, hreplace, -⟩ := step_of_match hp hm
        rw [hreplace] at h
        obtain ⟨rfl, hout⟩ := List.cons.inj h
        obtain ⟨part, rest', found, rfl, hpasses, hback⟩ := ih hout
        rw [htext] at hm
        exact ⟨m.text ++ part, rest', m :: found, by rw [htext, List.append_assoc],
          .replaced hm hpasses, by simpa using hback⟩
      | none =>
        -- without a match the character itself goes over
        simp only [replaceFrom, hm, List.cons_append] at h
        obtain ⟨rfl, hout⟩ := List.cons.inj h
        obtain ⟨part, rest', found, rfl, hpasses, hback⟩ := ih hout
        exact ⟨c :: part, rest', found, rfl, .kept hm hpasses, by simpa using hback⟩

end

/-- If no space comes out, nothing has been replaced. -/
theorem Passes.eq_of_no_space (h : p.Passes rest before text out found) (hout : ' ' ∉ out) :
    text = out ∧ found = [] := by
  induction h with
  | done => exact ⟨rfl, rfl⟩
  | kept hnone htail ih =>
    obtain ⟨rfl, rfl⟩ := ih fun h => hout (List.mem_cons_of_mem _ h)
    exact ⟨rfl, rfl⟩
  | replaced hm htail ih => exact absurd List.mem_cons_self hout

/-- Where nothing is found, no match starts. -/
theorem Passes.matchAt?_eq_none (h : p.Passes rest before text out []) (hne : text ≠ []) :
    p.matchAt? ⟨before, text ++ rest⟩ = none := by
  cases h with
  | done => exact absurd rfl hne
  | kept hnone htail => exact hnone

/-- Matches are not found in front of where the search starts. -/
theorem le_offset_of_mem_allFrom {skip : Nat} (h : m ∈ p.allFrom before skip text) :
    before.length ≤ m.stretch.offset := by
  have hstart : ∀ {before text}, p.matchAt? ⟨before, text⟩ = some m →
      before.length ≤ m.stretch.offset := by
    intro before text hm
    rw [Match.stretch, (mem_reaches_of_matchAt? hm).1]
    exact Nat.le_refl _
  induction text generalizing before skip with
  | nil =>
    cases skip with
    | zero => exact hstart (Option.mem_toList.1 h)
    | succ skip => cases h
  | cons c text ih =>
    -- a match found further on starts further on
    have hrest : ∀ {skip}, m ∈ p.allFrom (c :: before) skip text →
        before.length ≤ m.stretch.offset := fun h => Nat.le_of_succ_le (ih h)
    cases skip with
    | zero =>
      rw [allFrom] at h
      split at h
      · next m' hm' =>
        rcases List.mem_cons.1 h with rfl | h
        · exact hstart hm'
        · exact hrest h
      · exact hrest h
    | succ skip => exact hrest h

section
variable (hp : p.takesSome = true)
include hp

/-- No match reaches from the front of a stretch into it if none overlaps it, so the front is a
part. -/
theorem exists_passes_of_free {k : Nat} (hk : k = before.length + text.length) (hs : s ≠ [])
    (hfree : ∀ m ∈ p.allFrom before 0 (text ++ (s ++ back)), ¬m.stretch.Overlaps ⟨k, s⟩) :
    ∃ out found, p.Passes (s ++ back) before text out found := by
  -- a match that starts in the front takes several characters of it at once
  induction hn : text.length using Nat.strong_induction_on generalizing before text with
  | _ n ih =>
    cases text with
    | nil => exact ⟨[], [], .done⟩
    | cons c text =>
      rw [List.length_cons] at hn hk
      cases hm : p.matchAt? ⟨before, c :: (text ++ (s ++ back))⟩ with
      | none =>
        rw [List.cons_append, allFrom, hm] at hfree
        obtain ⟨out, found, h⟩ := @ih text.length (by omega) (c :: before) text
          (by rw [List.length_cons]; omega) hfree rfl
        exact ⟨c :: out, found, .kept hm h⟩
      | some m =>
        obtain ⟨rest, hne, hsplit, hoffset, -, hall⟩ := step_of_match hp hm
        rw [List.cons_append, hall, List.forall_mem_cons] at hfree
        -- this match ends in front of the stretch
        have hpos := List.length_pos_of_ne_nil hne
        have hsPos := List.length_pos_of_ne_nil hs
        have hle : m.text.length ≤ (c :: text).length := by
          have hover := hfree.1
          have hstretch : m.stretch = ⟨before.length, m.text⟩ := Stretch.ext hoffset rfl
          rw [hstretch] at hover
          simp only [Stretch.Overlaps, Stretch.stop] at hover
          rw [List.length_cons]
          omega
        obtain ⟨u, hu, rfl⟩ : ∃ u, c :: text = m.text ++ u ∧ rest = u ++ (s ++ back) := by
          have hsplit' : (c :: text) ++ (s ++ back) = m.text ++ rest := hsplit
          rcases List.append_eq_append_iff.1 hsplit' with ⟨v, hv, hrest⟩ | h
          · rw [hv, List.length_append] at hle
            obtain rfl : v = [] := List.length_eq_zero_iff.1 (by omega)
            exact ⟨[], by simpa using hv.symm, by simpa using hrest.symm⟩
          · exact h
        have hlength : text.length + 1 = m.text.length + u.length := by
          rw [← List.length_cons (a := c), hu, List.length_append]
        obtain ⟨out, found, h⟩ := @ih u.length (by omega) (m.text.reverse ++ before) u
          (by rw [List.length_append, List.length_reverse]; omega) hfree.2 rfl
        rw [hsplit] at hm
        exact ⟨' ' :: out, m :: found, hu ▸ .replaced hm h⟩

/-- A stretch that no match overlaps is kept. -/
theorem passes_self_of_free (hfree : ∀ m ∈ p.allFrom before 0 (s ++ back),
    ¬m.stretch.Overlaps ⟨before.length, s⟩) : p.Passes back before s s [] := by
  induction s generalizing before with
  | nil => exact .done
  | cons c s ih =>
    cases hm : p.matchAt? ⟨before, c :: (s ++ back)⟩ with
    | some m =>
      obtain ⟨rest, hne, -, hoffset, -, hall⟩ := step_of_match hp hm
      have hpos := List.length_pos_of_ne_nil hne
      -- a match here would start where the stretch does, and so overlap it
      refine absurd ?_ (hfree m (by rw [List.cons_append, hall]; exact List.mem_cons_self))
      have hstretch : m.stretch.offset = before.length := hoffset
      have hlength : m.stretch.text.length = m.text.length := rfl
      simp only [Stretch.Overlaps, Stretch.stop, hstretch, hlength, List.length_cons]
      omega
    | none =>
      refine .kept hm (ih fun m hmem hover => hfree m ?_ ?_)
      · rw [List.cons_append, allFrom, hm]
        exact hmem
      · simp only [Stretch.Overlaps, Stretch.stop, List.length_cons] at hover ⊢
        omega

end

/-! ## Word boundaries -/

section
variable (hstart : p.startsInWord = true) (hend : p.endsInWord = true)
include hstart hend

/-- Between word boundaries a word that is matched has no word characters next to it. -/
theorem outside_of_matchAt?_whole
    (hm : (whole p).matchAt? ⟨before, m.text ++ rest⟩ = some m) :
    before.head?.any isWordChar = false ∧ rest.head?.any isWordChar = false := by
  obtain ⟨s, rest', -, hafter, htext, hplaceStart, hplace⟩ := reads_of_matchAt? hm
  obtain ⟨hbefore, hrest⟩ := outside_of_leads_whole hstart hend
    (leads_of_mem_reaches (mem_reaches_of_matchAt? hm).2)
  rw [hplaceStart] at hbefore
  rw [hplace] at hrest
  obtain rfl := List.append_cancel_left (hafter.trans (by rw [htext]))
  exact ⟨hbefore, hrest⟩

/-- In front of a word, a part ends with a word character exactly if what comes out of it does. -/
theorem Passes.map_getLast? (h : (whole p).Passes rest before text out found)
    (hrest : rest.head?.any isWordChar = true) :
    out.getLast?.map isWordChar = text.getLast?.map isWordChar := by
  induction h with
  | done => rfl
  | @kept _ text out _ c hnone htail ih =>
    rw [List.getLast?_cons, List.getLast?_cons, Option.map_some, Option.map_some,
      ← Option.getD_map isWordChar, ← Option.getD_map isWordChar, ih]
  | @replaced before text out _ m hm htail ih =>
    cases text with
    | nil =>
      -- no word follows what is replaced
      obtain ⟨-, hnot⟩ := outside_of_matchAt?_whole hstart hend hm
      rw [List.nil_append, hrest] at hnot
      cases hnot
    | cons c text =>
      rw [List.getLast?_append_of_ne_nil _ (List.cons_ne_nil c text), ← ih, List.getLast?_cons]
      cases hout : out.getLast? with
      | none =>
        rw [hout, List.getLast?_cons] at ih
        cases ih
      | some d => rfl

/-- Behind a word character nothing is replaced. -/
theorem head?_replaceFrom_whole (hbefore : before.head?.any isWordChar = true) :
    ((whole p).replaceFrom [' '] before 0 text).head? = text.head? := by
  cases text with
  | nil => rfl
  | cons c text =>
    cases hm : (whole p).matchAt? ⟨before, c :: text⟩ with
    | some m =>
      obtain ⟨hnot, -⟩ := replaceFrom_of_match_whole hstart hend hm
      rw [hbefore] at hnot
      cases hnot
    | none =>
      rw [replaceFrom, hm]
      rfl

end

/-! ## Kept stretches -/

/-- What comes out of a part, and where it goes on, tells the part. -/
theorem Passes.part_unique {part part' rest' : List Char} {found' : List Match}
    (h : p.Passes rest before part out found) (h' : p.Passes rest' before part' out found')
    (htext : part ++ rest = part' ++ rest') : part = part' := by
  induction h generalizing part' found' with
  | done =>
    cases h'
    rfl
  | kept hnone htail ih =>
    cases h' with
    | kept hnone' htail' => rw [ih htail' (List.cons.inj htext).2]
    | replaced hm' htail' =>
      -- at one place of one text there is a match or there is none
      rw [← List.cons_append, htext, List.append_assoc, hm'] at hnone
      cases hnone
  | replaced hm htail ih =>
    cases h' with
    | kept hnone' htail' =>
      rw [← List.append_assoc, htext, List.cons_append, hnone'] at hm
      cases hm
    | replaced hm' htail' =>
      rw [List.append_assoc, List.append_assoc] at htext
      rw [htext, hm'] at hm
      obtain rfl := Option.some.inj hm
      rw [ih htail' (List.append_cancel_left htext)]

/-- A stretch `s` of a text, between `front` and `back`, is kept if all matches are replaced, and it
is between `out` and `outBack` in what comes out. -/
structure Kept (p : Pattern) (front s back out outBack : List Char) : Prop where
  /-- What comes out of the front is in front. -/
  passes : ∃ found, p.Passes (s ++ back) [] front out found
  /-- No match starts with the stretch. -/
  noMatch : p.matchAt? ⟨front.reverse, s ++ back⟩ = none
  /-- What comes out of the rest is behind. -/
  rest : p.replaceFrom [' '] (s.reverse ++ front.reverse) 0 back = outBack
  /-- What comes out of all of the text. -/
  replaceAll_eq : p.replaceAll [' '] (front ++ (s ++ back)) = out ++ (s ++ outBack)
  /-- No match overlaps the stretch. -/
  free : ∀ m ∈ p.all (front ++ (s ++ back)), ¬m.stretch.Overlaps ⟨front.length, s⟩

section
variable {front outBack : List Char} (hp : p.takesSome = true)
include hp

/-- Without spaces, a stretch that comes out was kept. -/
theorem exists_kept_of_replaceAll (hs : Text.IsWordlike s)
    (h : p.replaceAll [' '] text = out ++ (s ++ outBack)) :
    ∃ front back, text = front ++ (s ++ back) ∧ p.Kept front s back out outBack := by
  obtain ⟨front, rest, found, rfl, hfront, hrest⟩ := exists_passes_of_replaceFrom hp h
  rw [List.append_nil] at hrest
  obtain ⟨part, back, found', rfl, hpart, hback⟩ := exists_passes_of_replaceFrom hp hrest
  obtain ⟨rfl, rfl⟩ := hpart.eq_of_no_space hs.noSpace
  refine ⟨front, back, rfl, ⟨found, hfront⟩, hpart.matchAt?_eq_none hs.ne_nil, hback, h, ?_⟩
  -- the matches are those of the front and those behind the stretch
  intro m hm hover
  rw [all, (hfront.split hp).2, List.append_nil, (hpart.split hp).2, List.nil_append,
    List.mem_append] at hm
  simp only [Stretch.Overlaps, Stretch.stop] at hover
  rcases hm with hm | hm
  · have hwithin := (hfront.within hp m hm).2
    rw [Stretch.stop, List.length_nil] at hwithin
    omega
  · have hbehind := le_offset_of_mem_allFrom hm
    rw [List.length_append, List.length_reverse, List.length_reverse] at hbehind
    omega

/-- A stretch that no match overlaps is kept. -/
theorem exists_kept_of_free (hs : Text.IsWordlike s)
    (hfree : ∀ m ∈ p.all (front ++ (s ++ back)), ¬m.stretch.Overlaps ⟨front.length, s⟩) :
    ∃ out outBack, p.Kept front s back out outBack := by
  obtain ⟨out, found, hfront⟩ := exists_passes_of_free hp (by simp) hs.ne_nil hfree
  obtain ⟨hreplace, hall⟩ := hfront.split hp
  rw [List.append_nil] at hreplace hall
  have hself : p.Passes back front.reverse s s [] := by
    refine passes_self_of_free hp fun m hm => ?_
    rw [List.length_reverse]
    exact hfree m (by rw [all, hall]; exact List.mem_append_right _ hm)
  exact ⟨out, _, ⟨found, hfront⟩, hself.matchAt?_eq_none hs.ne_nil, rfl,
    by rw [replaceAll, hreplace, (hself.split hp).1], hfree⟩

/-- Of two stretches that start in one place, what comes out of the front is the same. -/
theorem Kept.out_unique {s' back' out' outBack' : List Char} (h : p.Kept front s back out outBack)
    (h' : p.Kept front s' back' out' outBack') (htext : s ++ back = s' ++ back') : out = out' := by
  obtain ⟨found, hpasses⟩ := h.passes
  obtain ⟨found', hpasses'⟩ := h'.passes
  have hsplit := (hpasses.split hp).1
  rw [htext, (hpasses'.split hp).1] at hsplit
  exact (List.append_cancel_right hsplit).symm

end

/-- Of two stretches that come out in one place, the front is the same. -/
theorem Kept.front_unique {front front' outBack s' back' outBack' : List Char}
    (h : p.Kept front s back out outBack) (h' : p.Kept front' s' back' out outBack')
    (htext : front ++ (s ++ back) = front' ++ (s' ++ back')) : front = front' := by
  obtain ⟨found, hpasses⟩ := h.passes
  obtain ⟨found', hpasses'⟩ := h'.passes
  exact hpasses.part_unique hpasses' htext

/-- Where words are replaced, a stretch that is kept stands apart exactly if it does in what comes
out. -/
theorem Kept.edges_iff {front outBack : List Char} (h : (whole p).Kept front s back out outBack)
    (hstart : p.startsInWord = true) (hend : p.endsInWord = true) (hs : Text.IsWordlike s) :
    (out.getLast?.any isWordChar = false ∧ outBack.head?.any isWordChar = false) ↔
      front.getLast?.any isWordChar = false ∧ back.head?.any isWordChar = false := by
  obtain ⟨found, hpasses⟩ := h.passes
  -- no match ends right in front of a word, so the last character there is the same in both
  have hfront : out.getLast?.any isWordChar = front.getLast?.any isWordChar := by
    have hnext : (s ++ back).head?.any isWordChar = true := by
      have hhead := hs.head
      cases s with
      | nil => cases hhead
      | cons c s => exact hhead
    have hmap := hpasses.map_getLast? hstart hend hnext
    cases hout : out.getLast? <;> cases hf : front.getLast? <;> simp_all
  have hback : outBack.head? = back.head? := by
    have hbefore : (s.reverse ++ front.reverse).head?.any isWordChar = true := by
      have hlast := hs.last
      rw [List.head?_append, List.head?_reverse]
      cases hl : s.getLast? with
      | none => simp [hl] at hlast
      | some c => simpa [hl] using hlast
    rw [← h.rest, head?_replaceFrom_whole hstart hend hbefore]
  rw [hfront, hback]

end Pattern

end AskLedger
