import AskLedger.Proofs.LetterCase
import AskLedger.Proofs.PatternContext

/-!
# Blanks around a text

A search that neither starts nor ends at a blank finds the same in a text as in the same text with
blanks around it. The blanks behind the text may be read on the way, but then nothing is left to
read, and what ends among them is no match. Word boundaries are no different, since the ends of a
text and blanks count alike.

* `Pattern.reaches_widen`: what a match reaches within the text.
* `Pattern.isTight`: whether a pattern starts and ends with something other than blanks.
* `Pattern.find?_blanks`, `Pattern.all_blanks`, `Pattern.replaceAll_blanks`: searches in the text
  with blanks around it.
-/

namespace AskLedger

/-! ## Texts with blanks around them -/

namespace Text

/-- Blanks are not passed over when a letter with case is looked for. -/
theorem caseIgnorable_of_isBlank {c : Char} (h : isBlank c = true) :
    CharSet.caseIgnorable.has c = false :=
  of_isBlank (P := fun c => CharSet.caseIgnorable.has c = false) (by decide +kernel) h

theorem cased_of_isBlank {c : Char} (h : isBlank c = true) : CharSet.cased.has c = false :=
  of_isBlank (P := fun c => CharSet.cased.has c = false) (by decide +kernel) h

theorem lowerChar_of_isBlank {c : Char} (h : isBlank c = true) : c ≠ 'Σ' ∧ lowerChar c = [c] :=
  of_isBlank (P := fun c => c ≠ 'Σ' ∧ lowerChar c = [c]) (by decide +kernel) h

/-- Blanks behind a text do not count as letters that follow. -/
theorem casedNext_append_blanks (s : List Char) {v : List Char} (hv : ∀ c ∈ v, isBlank c = true) :
    casedNext (s ++ v) = casedNext s := by
  induction s with
  | nil =>
    cases v with
    | nil => rw [List.append_nil]
    | cons c v =>
      have hskip := caseIgnorable_of_isBlank (hv c List.mem_cons_self)
      rw [List.nil_append, casedNext, List.dropWhile_cons_of_neg (Bool.eq_false_iff.1 hskip)]
      exact cased_of_isBlank (hv c List.mem_cons_self)
  | cons c s ih =>
    rw [List.cons_append, casedNext, casedNext]
    cases hskip : CharSet.caseIgnorable.has c with
    | true =>
      rw [List.dropWhile_cons_of_pos hskip, List.dropWhile_cons_of_pos hskip]
      exact ih
    | false =>
      have hstop := Bool.eq_false_iff.1 hskip
      rw [List.dropWhile_cons_of_neg hstop, List.dropWhile_cons_of_neg hstop]

/-- Blanks in front of a text stay in front of its lowercase. -/
theorem lowerFrom_append_of_blanks {u : List Char} (hu : ∀ c ∈ u, isBlank c = true)
    (before rest : List Char) :
    lowerFrom before (u ++ rest) = u ++ lowerFrom (u.reverse ++ before) rest := by
  induction u generalizing before with
  | nil => rfl
  | cons c u ih =>
    obtain ⟨hsigma, hlower⟩ := lowerChar_of_isBlank (hu c List.mem_cons_self)
    rw [List.cons_append, lowerFrom, if_neg hsigma, hlower,
      ih fun d hd => hu d (List.mem_cons_of_mem c hd)]
    simp

variable {u v : List Char} (hu : ∀ c ∈ u, isBlank c = true) (hv : ∀ c ∈ v, isBlank c = true)

include hu hv

/-- Outer blanks are trimmed, however many. -/
theorem trim_blanks (s : List Char) : trim (u ++ s ++ v) = trim s := by
  rw [trim, trimStart, List.append_assoc, List.dropWhile_append_of_pos hu, List.dropWhile_append]
  split
  · next hnil =>
    -- nothing but blanks
    have hblank := @List.dropWhile_append_of_pos _ isBlank v [] hv
    rw [List.append_nil] at hblank
    rw [hblank, trim, trimStart, List.isEmpty_iff.1 hnil]
    rfl
  · rw [trimEnd, List.reverse_append,
      List.dropWhile_append_of_pos fun c hc => hv c (List.mem_reverse.1 hc)]
    rfl

omit hu hv in
/-- Trimming twice is trimming once. -/
theorem trim_trim (s : List Char) : trim (trim s) = trim s := by
  obtain ⟨u, v, hu, hv, hs⟩ := exists_trim s
  rw [← trim_blanks hu hv, ← hs]

/-- Outer blanks add no words. -/
theorem words_blanks (s : List Char) : words (u ++ s ++ v) = words s := by
  have hstart : ∀ rest, wordsFrom [] (u ++ rest) = wordsFrom [] rest := by
    intro rest
    induction u with
    | nil => rfl
    | cons c u ih =>
      rw [List.cons_append, wordsFrom, if_pos (hu c List.mem_cons_self)]
      exact ih fun d hd => hu d (List.mem_cons_of_mem c hd)
  -- blanks behind the text end a word that is being read, as the end of the text does
  have hend : ∀ word, wordsFrom word v = wordsFrom word [] := by
    induction v with
    | nil => exact fun word => rfl
    | cons c v ih =>
      intro word
      have hnone := ih (fun d hd => hv d (List.mem_cons_of_mem c hd)) []
      simp [wordsFrom, hv c List.mem_cons_self, hnone]
  have hrest : ∀ word, wordsFrom word (s ++ v) = wordsFrom word s := by
    induction s with
    | nil => exact hend
    | cons c s ih =>
      intro word
      simp only [List.cons_append, wordsFrom, ih]
  rw [words, List.append_assoc, hstart, hrest, ← words]

/-- Outer blanks stay around the lowercase. -/
theorem lower_blanks (s : List Char) : lower (u ++ s ++ v) = u ++ lower s ++ v := by
  -- whatever stands before: the case of a letter is seen past blanks on either side
  have hrest : ∀ before, lowerFrom (before ++ u.reverse) (s ++ v) = lowerFrom before s ++ v := by
    have hu' : ∀ c ∈ u.reverse, isBlank c = true := fun c hc => hu c (List.mem_reverse.1 hc)
    induction s with
    | nil =>
      intro before
      have hend := lowerFrom_append_of_blanks hv (before ++ u.reverse) []
      rw [List.append_nil] at hend
      simp [hend, lowerFrom]
    | cons c s ih =>
      intro before
      have hlater := ih (c :: before)
      rw [List.cons_append] at hlater
      rw [List.cons_append, lowerFrom, lowerFrom, casedNext_append_blanks _ hu',
        casedNext_append_blanks _ hv, hlater]
      split
      · rfl
      · rw [List.append_assoc]
  have htext := hrest []
  rw [List.nil_append] at htext
  rw [lower, List.append_assoc, lowerFrom_append_of_blanks hu, List.append_nil, htext,
    List.append_assoc, lower]

/-- What has no blanks does not occur among them. -/
theorem occursIn_blanks {needle : List Char} (hne : needle ≠ [])
    (hneedle : ∀ c ∈ needle, isBlank c = false) (s : List Char) :
    occursIn needle (u ++ s ++ v) = occursIn needle s := by
  have hnone : ∀ t, (∀ c ∈ t, isBlank c = true) → ¬needle <:+: t := by
    intro t ht h
    obtain ⟨c, hc⟩ := List.exists_mem_of_ne_nil needle hne
    have hblank := ht c (h.subset hc)
    rw [hneedle c hc] at hblank
    cases hblank
  have hnot : ∀ c, isBlank c = true → c ∉ needle := by
    intro c hc hmem
    rw [hneedle c hmem] at hc
    cases hc
  rw [Bool.eq_iff_iff, occursIn_iff, occursIn_iff]
  refine ⟨fun h => ?_, fun h => h.trans ⟨u, v, rfl⟩⟩
  -- the last blank in front and the first one behind cut the text
  have hfront : needle <:+: u ++ s := by
    cases v with
    | nil => rwa [List.append_nil] at h
    | cons c v =>
      refine (Pattern.infix_of_infix_append_cons h (hnot c (hv c List.mem_cons_self))).resolve_right ?_
      exact hnone v fun d hd => hv d (List.mem_cons_of_mem c hd)
  rcases List.eq_nil_or_concat u with rfl | ⟨u, c, rfl⟩
  · exact hfront
  · rw [List.concat_append] at hfront
    have hlast : c ∈ u.concat c := by simp
    refine (Pattern.infix_of_infix_append_cons hfront (hnot c (hu c hlast))).resolve_left ?_
    exact hnone u fun d hd => hu d (by simp [hd])

end Text

/-! ## Places in a text with more text around it -/

section Widen

variable (u v : List Char)

/-- The place in the text with `u` in front of it and `v` behind it. -/
def Place.widen (a : Place) : Place := ⟨a.before ++ u.reverse, a.after ++ v⟩

/-- The same stretch behind `u`. -/
def Capture.widen (c : Capture) : Capture := { c with offset := c.offset + u.length }

/-- What a match has reached in the text with `u` in front of it and `v` behind it. -/
def Reach.widen (r : Reach) : Reach := ⟨r.place.widen u v, r.captures.map (Capture.widen u)⟩

/-- A match in the text with `u` in front of it and `v` behind it. -/
def Match.widen (m : Match) : Match := ⟨m.start.widen u v, m.stop.widen u v⟩

/-- Whether a place does not lie within `v` at the end of a text. -/
def Place.isBefore (a : Place) : Bool := decide (v.length ≤ a.after.length)

end Widen

variable {u v : List Char}

namespace Place

@[simp] theorem offset_widen (a : Place) : (a.widen u v).offset = a.offset + u.length := by
  simp [offset, widen]

@[simp] theorem isBefore_widen (a : Place) : (a.widen u v).isBefore v = true := by
  simp [isBefore, widen]

/-- Between two places of a text stands what stands between them in the wider text. -/
theorem upTo_widen {a b : Place} (h : b.whole = a.whole) :
    (a.widen u v).upTo (b.widen u v) = a.upTo b := by
  have hlength := congrArg List.length h
  simp only [whole, List.length_append, List.length_reverse] at hlength
  rw [upTo, upTo, offset_widen, offset_widen, Nat.add_sub_add_right, widen,
    List.take_append_of_le_length]
  simp only [offset]
  omega

/-- What is put around a text moves no word boundary if it has no word characters next to the
text. -/
theorem atWordEdge_widen_of_outside (hu : u.getLast?.any Text.isWordChar = false)
    (hv : v.head?.any Text.isWordChar = false) (a : Place) :
    (a.widen u v).atWordEdge = a.atWordEdge := by
  have hend : ∀ s t : List Char, t.head?.any Text.isWordChar = false →
      (s ++ t).head?.any Text.isWordChar = s.head?.any Text.isWordChar := by
    intro s t ht
    cases s with
    | nil => exact ht
    | cons c s => rfl
  rw [atWordEdge, widen, hend _ _ (by rwa [List.head?_reverse]), hend _ _ hv, ← atWordEdge]

/-- Blanks around a text move no word boundary. -/
theorem atWordEdge_widen (hu : ∀ c ∈ u, Text.isBlank c = true) (hv : ∀ c ∈ v, Text.isBlank c = true)
    (a : Place) : (a.widen u v).atWordEdge = a.atWordEdge := by
  refine atWordEdge_widen_of_outside ?_ (Text.head?_any_of_blanks hv) a
  rw [← List.head?_reverse]
  exact Text.head?_any_of_blanks fun c hc => hu c (List.mem_reverse.1 hc)

end Place

namespace Match

/-- A match takes no more than the text that is left. -/
theorem length_le {p : Pattern} {a : Place} {m : Match} (h : p.matchAt? a = some m) :
    m.length ≤ a.after.length := by
  obtain ⟨hstart, hstop⟩ := Pattern.mem_reaches_of_matchAt? h
  have hlength := congrArg List.length (Pattern.whole_of_mem_reaches hstop)
  simp only [Place.whole, List.length_append, List.length_reverse, hstart] at hlength
  simp only [length, Place.offset, hstart]
  omega

@[simp] theorem length_widen (m : Match) : (m.widen u v).length = m.length := by
  simp only [length, widen, Reach.widen, Place.offset_widen]
  omega

end Match

namespace Pattern

variable {p : Pattern}

/-! ## What is reached within the text -/

/-- From places within `v` a run reaches no places in front of it. -/
theorem filter_runFrom {kind : CharKind} (found : List Place) (before : List Char)
    {after : List Char} (h : after.length ≤ v.length) :
    (runFrom kind found before after).filter (Place.isBefore v) =
      found.filter (Place.isBefore v) := by
  induction after generalizing found before with
  | nil => rfl
  | cons c rest ih =>
    rw [List.length_cons] at h
    rw [runFrom]
    split
    · have hwithin : Place.isBefore v ⟨c :: before, rest⟩ = false :=
        decide_eq_false (by simp only; omega)
      rw [ih _ _ (by omega), List.filter_cons, hwithin]
      rfl
    · rfl

/-- A run of characters is followed alike in the text with blanks around it, up to its end. -/
theorem runFrom_widen (kind : CharKind) (found : List Place) (before after : List Char) :
    (runFrom kind (found.map (Place.widen u v)) (before ++ u.reverse) (after ++ v)).filter
        (Place.isBefore v) =
      (runFrom kind found before after).map (Place.widen u v) := by
  have hfound : ∀ found : List Place, (found.map (Place.widen u v)).filter (Place.isBefore v) =
      found.map (Place.widen u v) := by
    intro found
    rw [List.filter_eq_self]
    intro a ha
    obtain ⟨b, -, rfl⟩ := List.mem_map.1 ha
    exact Place.isBefore_widen b
  induction after generalizing found before with
  | nil => rw [List.nil_append, filter_runFrom _ _ (Nat.le_refl _), hfound, runFrom]
  | cons c rest ih =>
    rw [List.cons_append, runFrom, runFrom]
    split
    · exact ih (⟨c :: before, rest⟩ :: found) (c :: before)
    · exact hfound found

/-- What a match reaches lies no farther from the end than where it started. -/
theorem isBefore_of_mem_reaches {r e : Reach} (h : e ∈ p.reaches r)
    (hr : r.place.isBefore v = false) : e.place.isBefore v = false := by
  obtain ⟨s, -, hafter, -⟩ := describes_of_mem_reaches h
  simp only [Place.isBefore, hafter, List.length_append, decide_eq_false_iff_not] at hr ⊢
  omega

/-- Members of a list from which nothing comes can be left out. -/
theorem flatMap_filter_of_nil {α β : Type} {f : α → List β} {keep : α → Bool} {l : List α}
    (h : ∀ x ∈ l, keep x = false → f x = []) : (l.filter keep).flatMap f = l.flatMap f := by
  induction l with
  | nil => rfl
  | cons x l ih =>
    have hrest := ih fun y hy => h y (List.mem_cons_of_mem x hy)
    rw [List.filter_cons, List.flatMap_cons]
    cases hx : keep x with
    | true => rw [if_pos rfl, List.flatMap_cons, hrest]
    | false => rw [if_neg Bool.false_ne_true, hrest, h x List.mem_cons_self hx, List.nil_append]

section

variable (hu : ∀ c ∈ u, Text.isBlank c = true) (hv : ∀ c ∈ v, Text.isBlank c = true)

include hu hv

/-- In a text with blanks around it, a match reaches the same places of the text, apart from those
among the blanks behind it. -/
theorem filter_reaches_widen (p : Pattern) (r : Reach) :
    (p.reaches (r.widen u v)).filter (fun e => e.place.isBefore v) =
      (p.reaches r).map (Reach.widen u v) := by
  have hself (r : Reach) : (r.widen u v).place.isBefore v = true := Place.isBefore_widen r.place
  induction p generalizing r with
  | nothing =>
    rw [reaches, reaches, List.filter_singleton, hself]
    rfl
  | one kind =>
    obtain ⟨⟨before, after⟩, captures⟩ := r
    cases after with
    | nil =>
      cases v with
      | nil => rfl
      | cons d v =>
        simp only [reaches, Reach.widen, Place.widen, List.nil_append]
        split
        · simp [Place.isBefore]
        · rfl
    | cons c rest =>
      simp only [reaches, Reach.widen, Place.widen, List.cons_append]
      split
      · simp [Place.isBefore, Reach.widen, Place.widen]
      · rfl
  | many kind =>
    have hrun : (runFrom kind [(r.widen u v).place] (r.widen u v).place.before
        (r.widen u v).place.after).filter (Place.isBefore v) = _ :=
      runFrom_widen kind [r.place] r.place.before r.place.after
    rw [reaches, reaches, List.filter_map, List.map_map]
    change List.map _ (List.filter (Place.isBefore v) _) = _
    rw [hrun, List.map_map]
    rfl
  | edge =>
    rw [reaches, reaches, show (r.widen u v).place = r.place.widen u v from rfl,
      Place.atWordEdge_widen hu hv]
    split
    · rw [List.filter_singleton, hself]
      rfl
    · rfl
  | both p q ihp ihq =>
    rw [reaches, reaches, List.filter_flatMap, List.map_flatMap]
    -- a match that has read blanks behind the text does not get back into it
    have hnil : ∀ m ∈ p.reaches (r.widen u v), m.place.isBefore v = false →
        (q.reaches m).filter (fun e => e.place.isBefore v) = [] := by
      intro m _ hm
      rw [List.filter_eq_nil_iff]
      intro e he
      simp [isBefore_of_mem_reaches he hm]
    rw [← flatMap_filter_of_nil hnil, ihp, List.flatMap_map]
    exact List.flatMap_congr fun m _ => ihq m
  | either p q ihp ihq =>
    rw [reaches, reaches, List.filter_append, List.map_append, ihp, ihq]
  | capture slot p ih =>
    rw [reaches, reaches, List.filter_map, List.map_map]
    change List.map _ (List.filter (fun e : Reach => e.place.isBefore v) _) = _
    rw [ih, List.map_map]
    refine List.map_congr_left fun e he => ?_
    have hwhole := whole_of_mem_reaches he
    simp only [Function.comp, Reach.widen, List.map_cons, Capture.widen, Place.offset_widen,
      Place.upTo_widen hwhole]

end

/-! ## Patterns that start and end with something other than blanks -/

end Pattern

/-- Whether a kind accepts no blanks. -/
def CharKind.isSolid : CharKind → Bool
  | exactly c | letter c => !Text.isBlank c
  | digit => true
  | blank => false
  | oneOf cs | digitOr cs => cs.all fun c => !Text.isBlank c

set_option maxRecDepth 10000 in
theorem Text.isBlank_fold (c : Char) : isBlank (fold c) = isBlank c :=
  apply_fold (by decide) (by decide) isBlank_toLower c

/-- What a solid kind accepts is no blank. -/
theorem CharKind.isBlank_of_isSolid {kind : CharKind} {c : Char} (h : kind.isSolid = true)
    (hc : kind.accepts c = true) : Text.isBlank c = false := by
  have hmem : ∀ cs : List Char, (cs.all fun c => !Text.isBlank c) = true → cs.contains c = true →
      Text.isBlank c = false := by
    intro cs hcs hc
    simpa using List.all_eq_true.1 hcs c (List.contains_iff_mem.1 hc)
  cases kind with
  | exactly d =>
    obtain rfl := beq_iff_eq.1 hc
    simpa [isSolid] using h
  | letter d =>
    rw [← Text.isBlank_fold, ← beq_iff_eq.1 hc, Text.isBlank_fold]
    simpa [isSolid] using h
  | digit => exact Text.not_isBlank_of_isDigit hc
  | blank => cases h
  | oneOf cs => exact hmem cs h hc
  | digitOr cs => exact (Bool.or_eq_true_iff.1 hc).elim Text.not_isBlank_of_isDigit (hmem cs h)

namespace Pattern

variable {p : Pattern}

/-- Whether no stretch that a pattern describes starts with a blank. -/
def startsClear : Pattern → Bool
  | nothing | edge => true
  | one kind | many kind => kind.isSolid
  | both p q => p.startsClear && (p.takesSome || q.startsClear)
  | either p q => p.startsClear && q.startsClear
  | capture _ p => p.startsClear

/-- Whether no stretch that a pattern describes ends with a blank. -/
def endsClear : Pattern → Bool
  | nothing | edge => true
  | one kind | many kind => kind.isSolid
  | both p q => q.endsClear && (q.takesSome || p.endsClear)
  | either p q => p.endsClear && q.endsClear
  | capture _ p => p.endsClear

/-- Whether every stretch that a pattern describes has characters, the first and the last of which
are no blanks. -/
def isTight (p : Pattern) : Bool := p.takesSome && p.startsClear && p.endsClear

/-- A pattern with a clear start does not start at a blank. -/
theorem headIsNot_of_startsClear {c : Char} (h : p.startsClear = true)
    (hc : Text.isBlank c = true) : p.headIsNot c = true := by
  -- a solid kind takes no blank
  have hkind : ∀ kind : CharKind, kind.isSolid = true → (!kind.accepts c) = true := by
    intro kind hkind
    rw [Bool.not_eq_true', Bool.eq_false_iff]
    intro haccepts
    rw [CharKind.isBlank_of_isSolid hkind haccepts] at hc
    cases hc
  induction p with
  | nothing | edge => rfl
  | one kind | many kind => exact hkind kind h
  | both p q ihp ihq =>
    simp only [startsClear, Bool.and_eq_true, Bool.or_eq_true] at h
    simp only [headIsNot, Bool.and_eq_true, Bool.or_eq_true]
    exact ⟨ihp h.1, h.2.imp_right ihq⟩
  | either p q ihp ihq =>
    simp only [startsClear, Bool.and_eq_true] at h
    simp only [headIsNot, Bool.and_eq_true]
    exact ⟨ihp h.1, ihq h.2⟩
  | capture slot p ih => exact ih h

/-- What a pattern with a clear end describes does not end with a blank. -/
theorem isBlank_getLast_of_endsClear {s : List Char} (h : p.endsClear = true)
    (hs : p.Describes s) : ∀ c ∈ s.getLast?, Text.isBlank c = false := by
  induction p generalizing s with
  | nothing | edge =>
    obtain rfl : s = [] := hs
    simp
  | one kind =>
    obtain ⟨c, rfl, hc⟩ := hs
    simpa using CharKind.isBlank_of_isSolid h hc
  | many kind =>
    exact fun c hc => CharKind.isBlank_of_isSolid h (hs c (List.mem_of_getLast? hc))
  | both p q ihp ihq =>
    obtain ⟨a, b, rfl, ha, hb⟩ := hs
    simp only [endsClear, Bool.and_eq_true, Bool.or_eq_true] at h
    cases b with
    | nil =>
      -- the second pattern read nothing, so the first one has read the end
      rw [List.append_nil]
      exact ihp (h.2.resolve_left fun hsome => ne_nil_of_takesSome hsome hb rfl) ha
    | cons d b =>
      rw [List.getLast?_append_of_ne_nil _ (List.cons_ne_nil d b)]
      exact ihq h.1 hb
  | either p q ihp ihq =>
    simp only [endsClear, Bool.and_eq_true] at h
    exact hs.elim (ihp h.1) (ihq h.2)
  | capture slot p ih => exact ih h hs

section

variable (hu : ∀ c ∈ u, Text.isBlank c = true) (hv : ∀ c ∈ v, Text.isBlank c = true)

include hu hv

/-- If a pattern does not end with a blank, blanks around a text make no difference to what it
reaches. -/
theorem reaches_widen (h : p.endsClear = true) (r : Reach) :
    p.reaches (r.widen u v) = (p.reaches r).map (Reach.widen u v) := by
  -- it remains that no match ends among the blanks behind the text
  rw [← filter_reaches_widen hu hv, eq_comm, List.filter_eq_self]
  intro e he
  obtain ⟨s, hs, hafter, -⟩ := describes_of_mem_reaches he
  change r.place.after ++ v = s ++ e.place.after at hafter
  rw [Place.isBefore, decide_eq_true_eq]
  rcases List.append_eq_append_iff.1 hafter with ⟨t, hread, hblanks⟩ | ⟨t, -, hrest⟩
  · cases ht : t.getLast? with
    | none =>
      rw [hblanks, List.getLast?_eq_none_iff.1 ht]
      exact Nat.le_refl _
    | some c =>
      -- the stretch cannot end with `c`, which is one of the blanks
      have hlast : c ∈ s.getLast? := by rw [hread, List.getLast?_append, ht]; rfl
      have hclear := isBlank_getLast_of_endsClear h hs c hlast
      have hmem : c ∈ v := by
        rw [hblanks]
        exact List.mem_append_left _ (List.mem_of_getLast? ht)
      rw [hv c hmem] at hclear
      cases hclear
  · rw [hrest, List.length_append]
    omega

/-- At a place of the text a match is the same with blanks around the text. -/
theorem matchAt?_widen (h : p.endsClear = true) (before after : List Char) :
    p.matchAt? ⟨before ++ u.reverse, after ++ v⟩ =
      (p.matchAt? ⟨before, after⟩).map (Match.widen u v) := by
  have hreaches : p.reaches ⟨⟨before ++ u.reverse, after ++ v⟩, []⟩ = _ :=
    reaches_widen hu hv h ⟨⟨before, after⟩, []⟩
  rw [matchAt?, matchAt?, hreaches, List.head?_map, Option.map_map, Option.map_map]
  rfl

end

/-! ## Searches -/

theorem cannotStart_blank (h : p.isTight = true) {c : Char} (hc : Text.isBlank c = true) :
    p.cannotStart c = true := by
  simp only [isTight, Bool.and_eq_true] at h
  rw [cannotStart, h.1.1, headIsNot_of_startsClear h.1.2 hc]
  rfl

/-- At a blank there is no match. -/
theorem matchAt?_blank (h : p.isTight = true) {c : Char} (hc : Text.isBlank c = true)
    (before rest : List Char) : p.matchAt? ⟨before, c :: rest⟩ = none :=
  matchAt?_eq_none (reaches_eq_nil_of_cannotStart (cannotStart_blank h hc))

theorem matchAt?_nil (h : p.isTight = true) (before : List Char) :
    p.matchAt? ⟨before, []⟩ = none := by
  simp only [isTight, Bool.and_eq_true] at h
  exact matchAt?_eq_none (reaches_eq_nil_of_takesSome h.1.1)

theorem endsClear_of_isTight (h : p.isTight = true) : p.endsClear = true :=
  ((Bool.and_eq_true _ _).mp h).2

section

variable (hp : p.isTight = true) (hu : ∀ c ∈ u, Text.isBlank c = true)
  (hv : ∀ c ∈ v, Text.isBlank c = true)

include hp

/-! ### The first match -/

theorem findFrom?_of_blanks (hv : ∀ c ∈ v, Text.isBlank c = true) (before : List Char) :
    p.findFrom? before v = none := by
  have hpass := findFrom?_append_of_cannotStart before [] fun c hc => cannotStart_blank hp (hv c hc)
  rw [List.append_nil] at hpass
  rw [hpass]
  exact matchAt?_nil hp _

include hu hv

/-- From a place of the text on the first match is the same with blanks around the text. -/
theorem findFrom?_widen (before text : List Char) :
    p.findFrom? (before ++ u.reverse) (text ++ v) =
      (p.findFrom? before text).map (Match.widen u v) := by
  induction text generalizing before with
  | nil =>
    rw [List.nil_append, findFrom?_of_blanks hp hv, findFrom?, matchAt?_nil hp]
    rfl
  | cons c rest ih =>
    have hhere := matchAt?_widen hu hv (endsClear_of_isTight hp) before (c :: rest)
    rw [List.cons_append] at hhere
    rw [List.cons_append, findFrom?, findFrom?, hhere]
    cases p.matchAt? ⟨before, c :: rest⟩ with
    | some m => rfl
    | none => exact ih (c :: before)

/-- The first match in a text with blanks around it. -/
theorem find?_blanks (text : List Char) :
    p.find? (u ++ text ++ v) = (p.find? text).map (Match.widen u v) := by
  have hfind := findFrom?_widen hp hu hv [] text
  rw [List.nil_append] at hfind
  rw [find?, find?, List.append_assoc,
    findFrom?_append_of_cannotStart _ _ fun c hc => cannotStart_blank hp (hu c hc), List.append_nil,
    hfind]

/-! ### All matches -/

omit hu hv

/-- Blanks in front of the text have no matches. -/
theorem allFrom_append_of_blanks (hu : ∀ c ∈ u, Text.isBlank c = true) (before rest : List Char) :
    p.allFrom before 0 (u ++ rest) = p.allFrom (u.reverse ++ before) 0 rest := by
  induction u generalizing before with
  | nil => rfl
  | cons c u ih =>
    rw [List.cons_append, allFrom, matchAt?_blank hp (hu c List.mem_cons_self)]
    simp [ih (fun d hd => hu d (List.mem_cons_of_mem c hd))]

/-- Blanks behind the text have no matches. -/
theorem allFrom_of_blanks (hv : ∀ c ∈ v, Text.isBlank c = true) (before : List Char) :
    p.allFrom before 0 v = [] := by
  have hpass := allFrom_append_of_blanks hp hv before []
  rw [List.append_nil] at hpass
  rw [hpass, allFrom, matchAt?_nil hp]
  rfl

include hu hv

/-- All matches are the same with blanks around the text. -/
theorem allFrom_widen (before text : List Char) (skip : Nat) (h : skip ≤ text.length) :
    p.allFrom (before ++ u.reverse) skip (text ++ v) =
      (p.allFrom before skip text).map (Match.widen u v) := by
  induction text generalizing before skip with
  | nil =>
    obtain rfl := Nat.le_zero.1 h
    rw [List.nil_append, allFrom_of_blanks hp hv, allFrom, matchAt?_nil hp]
    rfl
  | cons c rest ih =>
    rw [List.length_cons] at h
    cases skip with
    | zero =>
      have hhere := matchAt?_widen hu hv (endsClear_of_isTight hp) before (c :: rest)
      rw [List.cons_append] at hhere
      rw [List.cons_append, allFrom, allFrom, hhere]
      cases hm : p.matchAt? ⟨before, c :: rest⟩ with
      | some m =>
        -- what the match leaves to be skipped is within the text, not among the blanks behind it
        have hlength := Match.length_le hm
        rw [List.length_cons] at hlength
        have hrest := ih (c :: before) (m.length - 1) (by omega)
        simp only [Option.map_some, List.map_cons, Match.length_widen, ← hrest]
        rfl
      | none => exact ih (c :: before) 0 (Nat.zero_le _)
    | succ skip => exact ih (c :: before) skip (by omega)

/-- All matches in a text with blanks around it. -/
theorem all_blanks (text : List Char) :
    p.all (u ++ text ++ v) = (p.all text).map (Match.widen u v) := by
  have hall := allFrom_widen hp hu hv [] text 0 (Nat.zero_le _)
  rw [List.nil_append] at hall
  rw [all, all, List.append_assoc, allFrom_append_of_blanks hp hu, List.append_nil, hall]

/-! ### Replacing -/

omit hu hv

theorem replaceFrom_append_of_blanks (by_ : List Char) (hu : ∀ c ∈ u, Text.isBlank c = true)
    (before rest : List Char) :
    p.replaceFrom by_ before 0 (u ++ rest) =
      u ++ p.replaceFrom by_ (u.reverse ++ before) 0 rest := by
  induction u generalizing before with
  | nil => rfl
  | cons c u ih =>
    rw [List.cons_append, replaceFrom, matchAt?_blank hp (hu c List.mem_cons_self)]
    simp [ih (fun d hd => hu d (List.mem_cons_of_mem c hd))]

include hu hv

/-- Replacements are the same with blanks around the text. -/
theorem replaceFrom_widen (by_ before text : List Char) (skip : Nat) (h : skip ≤ text.length) :
    p.replaceFrom by_ (before ++ u.reverse) skip (text ++ v) =
      p.replaceFrom by_ before skip text ++ v := by
  induction text generalizing before skip with
  | nil =>
    obtain rfl := Nat.le_zero.1 h
    have hpass := replaceFrom_append_of_blanks hp by_ hv (before ++ u.reverse) []
    rw [List.append_nil] at hpass
    simp [hpass, replaceFrom]
  | cons c rest ih =>
    rw [List.length_cons] at h
    cases skip with
    | zero =>
      -- blanks around the text change no match, so both texts take the same step
      have hhere := matchAt?_widen hu hv (endsClear_of_isTight hp) before (c :: rest)
      rw [List.cons_append] at hhere
      rw [List.cons_append, replaceFrom, replaceFrom, hhere]
      cases hm : p.matchAt? ⟨before, c :: rest⟩ with
      | some m =>
        have hlength := Match.length_le hm
        rw [List.length_cons] at hlength
        have hrest := ih (c :: before) (m.length - 1) (by omega)
        simp only [Option.map_some, Match.length_widen, List.append_assoc, ← hrest]
        rfl
      | none => exact congrArg (c :: ·) (ih (c :: before) 0 (Nat.zero_le _))
    | succ skip => exact ih (c :: before) skip (by omega)

/-- Replacing all matches in a text with blanks around it. -/
theorem replaceAll_blanks (by_ text : List Char) :
    p.replaceAll by_ (u ++ text ++ v) = u ++ p.replaceAll by_ text ++ v := by
  have hreplace := replaceFrom_widen hp hu hv by_ [] text 0 (Nat.zero_le _)
  rw [List.nil_append] at hreplace
  rw [replaceAll, replaceAll, List.append_assoc, replaceFrom_append_of_blanks hp by_ hu,
    List.append_nil, hreplace, List.append_assoc]

end

end Pattern

end AskLedger
