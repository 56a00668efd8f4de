import Mathlib.Data.List.TakeWhile
import AskLedger.Decimal.Fixed
import AskLedger.Proofs.WrittenMoments
import AskLedger.Text.Find

/-!
# Lines of a text

A text falls into lines at its line feeds. Texts that are put one below the other keep their lines,
so a text of several lines counts for as many wherever it stands. Numbers, days and amounts are
written without blanks, so always on one line.

* `Text.lines_joinWith`: the lines of texts one below the other are the lines of each in turn.
* `Text.trimmedEnd_join`: only the last of several lines loses the blanks it ends with.
* `Text.flatMap_lines_trimLast_iff`: when these texts are themselves the lines.
* `Text.occursIn_mark_iff`: a mark and what follows it stand at the start of a later piece.
-/

namespace AskLedger

namespace Text

/-! ## Pieces between marks -/

section

variable {mark : Char} {s t : List Char}

/-- There is always a first piece, possibly an empty one. -/
theorem exists_splitAt_eq_cons (mark : Char) (s : List Char) :
    ∃ piece pieces, splitAt mark s = piece :: pieces := by
  cases s with
  | nil => exact ⟨[], [], rfl⟩
  | cons c s =>
    rw [splitAt]
    split
    · exact ⟨_, _, rfl⟩
    · split <;> exact ⟨_, _, rfl⟩

/-- A character that is no mark belongs to the first piece. -/
theorem splitAt_cons_of_ne {c : Char} (h : c ≠ mark) {piece : List Char} {pieces : List (List Char)}
    (hs : splitAt mark s = piece :: pieces) : splitAt mark (c :: s) = (c :: piece) :: pieces := by
  rw [splitAt, if_neg h, hs]

/-- A mark cuts a text into two, which are cut further. -/
theorem splitAt_append_mark (s t : List Char) :
    splitAt mark (s ++ mark :: t) = splitAt mark s ++ splitAt mark t := by
  induction s with
  | nil => simp [splitAt]
  | cons c s ih =>
    by_cases h : c = mark
    · simp [splitAt, h, ih]
    · obtain ⟨piece, pieces, hs⟩ := exists_splitAt_eq_cons mark s
      rw [hs] at ih
      rw [splitAt_cons_of_ne h hs]
      exact splitAt_cons_of_ne h ih

/-- A text without marks is one piece. -/
theorem splitAt_of_not_mem (h : mark ∉ s) : splitAt mark s = [s] := by
  induction s with
  | nil => rfl
  | cons c s ih =>
    obtain ⟨hc, hs⟩ := not_or.1 (mt List.mem_cons.2 h)
    exact splitAt_cons_of_ne (Ne.symm hc) (ih hs)

/-- The pieces have no marks. -/
theorem not_mem_of_mem_splitAt {piece : List Char} (h : piece ∈ splitAt mark s) : mark ∉ piece := by
  induction s generalizing piece with
  | nil =>
    obtain rfl : piece = [] := by simpa [splitAt] using h
    exact List.not_mem_nil
  | cons c s ih =>
    by_cases hc : c = mark
    · rw [splitAt, if_pos hc] at h
      rcases List.mem_cons.1 h with rfl | hrest
      · exact List.not_mem_nil
      · exact ih hrest
    · obtain ⟨first, pieces, hs⟩ := exists_splitAt_eq_cons mark s
      rw [splitAt_cons_of_ne hc hs] at h
      rw [hs] at ih
      rcases List.mem_cons.1 h with rfl | hrest
      · exact mt List.mem_cons.1 (not_or.2 ⟨Ne.symm hc, ih List.mem_cons_self⟩)
      · exact ih (List.mem_cons_of_mem _ hrest)

/-- What a text starts with, up to a mark, its first piece starts with. -/
theorem isPrefix_first_iff {needle piece : List Char} {pieces : List (List Char)}
    (hneedle : mark ∉ needle) (hs : splitAt mark s = piece :: pieces) :
    needle <+: s ↔ needle <+: piece := by
  induction s generalizing needle piece pieces with
  | nil =>
    obtain ⟨rfl, -⟩ := List.cons.inj hs
    rfl
  | cons c s ih =>
    cases needle with
    | nil => simp
    | cons n needle =>
      obtain ⟨hn, hrest⟩ := not_or.1 (mt List.mem_cons.2 hneedle)
      by_cases hc : c = mark
      · -- the first piece is empty, and `needle` does not start with the mark
        rw [splitAt, if_pos hc] at hs
        obtain ⟨rfl, -⟩ := List.cons.inj hs
        simp [hc, Ne.symm hn]
      · obtain ⟨first, others, hfirst⟩ := exists_splitAt_eq_cons mark s
        rw [splitAt_cons_of_ne hc hfirst] at hs
        obtain ⟨rfl, -⟩ := List.cons.inj hs
        rw [List.cons_prefix_cons, List.cons_prefix_cons, ih hrest hfirst]

/-- A mark and what follows it occur exactly where a piece behind the first starts with that. -/
theorem occursIn_mark_iff {needle piece : List Char} {pieces : List (List Char)}
    (hneedle : mark ∉ needle) (hs : splitAt mark s = piece :: pieces) :
    occursIn (mark :: needle) s = true ↔ ∃ later ∈ pieces, needle <+: later := by
  rw [occursIn_iff]
  induction s generalizing piece pieces with
  | nil =>
    obtain ⟨-, rfl⟩ := List.cons.inj hs
    simp
  | cons c s ih =>
    obtain ⟨first, others, hfirst⟩ := exists_splitAt_eq_cons mark s
    rw [List.infix_cons_iff, ih hfirst]
    by_cases hc : c = mark
    · rw [splitAt, if_pos hc, hfirst] at hs
      obtain ⟨-, rfl⟩ := List.cons.inj hs
      simp [hc, isPrefix_first_iff hneedle hfirst]
    · rw [splitAt_cons_of_ne hc hfirst] at hs
      obtain ⟨-, rfl⟩ := List.cons.inj hs
      simp [Ne.symm hc]

end

/-! ## Lines -/

/-- The lines of a text. -/
def lines (s : String) : List String := (splitAt '\n' s.toList).map String.ofList

/-- The text is a single line. -/
def IsLine (s : String) : Prop := '\n' ∉ s.toList

instance (s : String) : Decidable (IsLine s) := inferInstanceAs (Decidable ('\n' ∉ s.toList))

variable {s t : String} {texts : List String}

@[simp] theorem isLine_append : IsLine (s ++ t) ↔ IsLine s ∧ IsLine t := by
  simp [IsLine]

/-- A single line is its only line. -/
theorem lines_of_isLine (h : IsLine s) : lines s = [s] := by
  rw [lines, splitAt_of_not_mem h, List.map_singleton, String.ofList_toList]

/-- The lines of a text are single lines. -/
theorem isLine_of_mem_lines {line : String} (h : line ∈ lines s) : IsLine line := by
  obtain ⟨piece, hpiece, rfl⟩ := List.mem_map.1 h
  rw [IsLine, String.toList_ofList]
  exact not_mem_of_mem_splitAt hpiece

/-- Texts one below the other have the lines of the one and then of the other. -/
theorem lines_below (s t : String) : lines (s ++ "\n" ++ t) = lines s ++ lines t := by
  have hlist : (s ++ "\n" ++ t).toList = s.toList ++ '\n' :: t.toList := by simp
  rw [lines, hlist, splitAt_append_mark, List.map_append]
  rfl

theorem joinWith_cons {mark : String} (h : texts ≠ []) :
    joinWith mark (s :: texts) = s ++ mark ++ joinWith mark texts := by
  obtain ⟨t, rest, rfl⟩ := List.exists_cons_of_ne_nil h
  rfl

/-- The lines of texts one below the other are the lines of each in turn. -/
theorem lines_joinWith (h : texts ≠ []) : lines (joinWith "\n" texts) = texts.flatMap lines := by
  induction texts with
  | nil => exact absurd rfl h
  | cons s rest ih =>
    by_cases hrest : rest = []
    · simp [hrest, joinWith]
    · rw [joinWith_cons hrest, lines_below, ih hrest, List.flatMap_cons]

/-- Texts fall into themselves as lines exactly if each is a single line. -/
theorem flatMap_lines_eq_self_iff : texts.flatMap lines = texts ↔ ∀ s ∈ texts, IsLine s := by
  constructor
  · intro h s hs
    rw [← h] at hs
    obtain ⟨t, -, hline⟩ := List.mem_flatMap.1 hs
    exact isLine_of_mem_lines hline
  · intro h
    induction texts with
    | nil => rfl
    | cons s rest ih =>
      obtain ⟨hs, hrest⟩ := List.forall_mem_cons.1 h
      rw [List.flatMap_cons, lines_of_isLine hs, ih hrest, List.singleton_append]

/-- Single lines one below the other are the lines of the text. -/
theorem lines_joinWith_eq_self (hne : texts ≠ []) (h : ∀ s ∈ texts, IsLine s) :
    lines (joinWith "\n" texts) = texts := by
  rw [lines_joinWith hne, flatMap_lines_eq_self_iff.2 h]

/-- Joined texts start with the first of them. -/
theorem exists_joinWith_cons (mark s : String) (texts : List String) :
    ∃ rest, joinWith mark (s :: texts) = s ++ rest := by
  by_cases h : texts = []
  · exact ⟨"", by simp [h, joinWith]⟩
  · exact ⟨_, by rw [joinWith_cons h, String.append_assoc]⟩

/-- What stands in joined texts stands in one of them or in the mark between them. -/
theorem of_mem_joinWith {mark : String} {c : Char} (h : c ∈ (joinWith mark texts).toList) :
    c ∈ mark.toList ∨ ∃ s ∈ texts, c ∈ s.toList := by
  induction texts with
  | nil => simp [joinWith] at h
  | cons s rest ih =>
    by_cases hrest : rest = []
    · exact .inr ⟨s, List.mem_cons_self, by simpa [hrest, joinWith] using h⟩
    · simp only [joinWith_cons hrest, String.toList_append, List.mem_append] at h
      rcases h with (hs | hmark) | hlater
      · exact .inr ⟨s, List.mem_cons_self, hs⟩
      · exact .inl hmark
      · rcases ih hlater with hmark | ⟨t, ht, hc⟩
        · exact .inl hmark
        · exact .inr ⟨t, List.mem_cons_of_mem _ ht, hc⟩

theorem isLine_joinWith {mark : String} (hmark : IsLine mark) (h : ∀ s ∈ texts, IsLine s) :
    IsLine (joinWith mark texts) := by
  intro hmem
  rcases of_mem_joinWith hmem with hnl | ⟨s, hs, hnl⟩
  · exact hmark hnl
  · exact h s hs hnl

/-! ## Blanks at the end -/

/-- Texts, the last of them without the blanks it ends with. -/
def trimLast : List String → List String
  | [] => []
  | [s] => [trimmedEnd s]
  | s :: t :: rest => s :: trimLast (t :: rest)

/-- The text has a character that is seen. -/
def IsInked (s : String) : Prop := ∃ c ∈ s.toList, isBlank c = false

theorem IsInked.append_left (h : IsInked s) (t : String) : IsInked (s ++ t) := by
  obtain ⟨c, hc, hblank⟩ := h
  exact ⟨c, by simp [hc], hblank⟩

theorem IsInked.append_right (s : String) (h : IsInked t) : IsInked (s ++ t) := by
  obtain ⟨c, hc, hblank⟩ := h
  exact ⟨c, by simp [hc], hblank⟩

/-- Only the blanks behind the last character that is seen are taken. -/
theorem trimEnd_append {u v : List Char} (h : ∃ c ∈ v, isBlank c = false) :
    trimEnd (u ++ v) = u ++ trimEnd v := by
  -- from behind, a character that is seen ends the trimming before `u` is reached
  have hstop : v.reverse.dropWhile isBlank ≠ [] := by
    obtain ⟨c, hc, hblank⟩ := h
    rw [Ne, List.dropWhile_eq_nil_iff]
    intro hall
    simp [hall c (List.mem_reverse.2 hc)] at hblank
  simp [trimEnd, List.dropWhile_append, hstop]

/-- Behind a text that is seen, what stands in front of it stays. -/
theorem trimmedEnd_append (s : String) (h : IsInked t) :
    trimmedEnd (s ++ t) = s ++ trimmedEnd t := by
  rw [trimmedEnd, String.toList_append, trimEnd_append h, String.ofList_append,
    String.ofList_toList]
  rfl

/-- A line feed at the end is taken. -/
theorem trimmedEnd_newline (s : String) : trimmedEnd (s ++ "\n") = trimmedEnd s := by
  simp [trimmedEnd, trimEnd, isBlank]

/-- Only the last of several lines loses the blanks it ends with. -/
theorem trimmedEnd_join (hne : texts ≠ []) (h : ∀ s ∈ texts, IsInked s) :
    trimmedEnd (String.join (texts.map (· ++ "\n"))) = joinWith "\n" (trimLast texts) := by
  induction texts with
  | nil => exact absurd rfl hne
  | cons s rest ih =>
    obtain ⟨hs, hrest⟩ := List.forall_mem_cons.1 h
    cases rest with
    | nil => simp [trimLast, joinWith, trimmedEnd_newline]
    | cons t rest =>
      have hinked : IsInked (String.join ((t :: rest).map (· ++ "\n"))) := by
        rw [List.map_cons, String.join_cons]
        exact ((hrest t List.mem_cons_self).append_left _).append_left _
      have hjoined : trimLast (t :: rest) ≠ [] := by cases rest <;> exact List.cons_ne_nil _ _
      rw [List.map_cons, String.join_cons, trimmedEnd_append _ hinked,
        ih (List.cons_ne_nil _ _) hrest, trimLast, joinWith_cons hjoined]

/-- No text gets lost. -/
theorem length_trimLast (texts : List String) : (trimLast texts).length = texts.length := by
  induction texts with
  | nil => rfl
  | cons s rest ih =>
    cases rest with
    | nil => rfl
    | cons t rest =>
      rw [trimLast, List.length_cons, ih]
      rfl

/-- The texts in front stay as they are. -/
theorem trimLast_append (hne : texts ≠ []) (front : List String) :
    trimLast (front ++ texts) = front ++ trimLast texts := by
  induction front with
  | nil => rfl
  | cons s front ih =>
    obtain ⟨t, rest, hrest⟩ := List.exists_cons_of_ne_nil
      (List.append_ne_nil_of_right_ne_nil front hne)
    rw [List.cons_append, hrest, trimLast, ← hrest, ih, List.cons_append]

/-- When nothing is taken from the last text. -/
theorem trimLast_eq_self_iff :
    trimLast texts = texts ↔ ∀ s ∈ texts.getLast?, trimmedEnd s = s := by
  by_cases hne : texts = []
  · simp [hne, trimLast]
  · rw [← List.dropLast_concat_getLast hne, trimLast_append (List.cons_ne_nil _ _)]
    simp [trimLast]

/-- When nothing is taken from a text. -/
theorem trimmedEnd_eq_self_iff :
    trimmedEnd s = s ↔ ∀ c ∈ s.toList.getLast?, isBlank c = false := by
  rw [← String.toList_inj, trimmedEnd, String.toList_ofList, trimEnd, List.reverse_eq_iff,
    ← List.head?_reverse]
  generalize s.toList.reverse = behind
  constructor
  · intro h c hc
    rw [List.dropWhile_eq_self_iff] at h
    cases behind with
    | nil => cases hc
    | cons d behind =>
      obtain rfl : d = c := by simpa using hc
      simpa using h (Nat.succ_pos _)
  · exact dropWhile_of_head?

/-- When nothing is taken from the second of two texts. -/
theorem trimmedEnd_append_eq_self_iff (hne : t.toList ≠ []) (s : String) :
    trimmedEnd (s ++ t) = s ++ t ↔ ∃ c ∈ t.toList.getLast?, isBlank c = false := by
  rw [trimmedEnd_eq_self_iff, String.toList_append, ← List.dropLast_concat_getLast hne,
    ← List.append_assoc]
  simp

theorem isLine_trimmedEnd (h : IsLine s) : IsLine (trimmedEnd s) := by
  intro hmem
  rw [trimmedEnd, String.toList_ofList, trimEnd, List.mem_reverse] at hmem
  exact h (List.mem_reverse.1 ((List.dropWhile_sublist _).mem hmem))

theorem isLine_of_mem_trimLast (h : ∀ s ∈ texts, IsLine s) : ∀ s ∈ trimLast texts, IsLine s := by
  by_cases hne : texts = []
  · simp [hne, trimLast]
  · rw [← List.dropLast_concat_getLast hne] at h ⊢
    obtain ⟨hfront, hlast⟩ := List.forall_mem_append.1 h
    rw [trimLast_append (List.cons_ne_nil _ _)]
    refine List.forall_mem_append.2 ⟨hfront, fun s hs => ?_⟩
    obtain rfl : s = trimmedEnd (texts.getLast hne) := by simpa [trimLast] using hs
    exact isLine_trimmedEnd (hlast _ List.mem_cons_self)

/-- Texts one below the other, the last without the blanks it ends with, are themselves the lines
exactly if each is a single line and the last has no such blanks. -/
theorem flatMap_lines_trimLast_iff :
    (trimLast texts).flatMap lines = texts ↔
      (∀ s ∈ texts, IsLine s) ∧ ∀ s ∈ texts.getLast?, trimmedEnd s = s := by
  rw [← trimLast_eq_self_iff]
  constructor
  · intro h
    have hlines : ∀ s ∈ texts, IsLine s := by
      intro s hs
      rw [← h] at hs
      obtain ⟨t, -, hline⟩ := List.mem_flatMap.1 hs
      exact isLine_of_mem_lines hline
    exact ⟨hlines, by rwa [flatMap_lines_eq_self_iff.2 (isLine_of_mem_trimLast hlines)] at h⟩
  · rintro ⟨hlines, hlast⟩
    rw [hlast, flatMap_lines_eq_self_iff.2 hlines]

/-! ## Texts without blanks -/

/-- The text has no blanks. -/
def IsSolid (s : String) : Prop := ∀ c ∈ s.toList, isBlank c = false

instance (s : String) : Decidable (IsSolid s) :=
  decidable_of_iff (s.toList.all (fun c => !isBlank c) = true) (by simp [IsSolid])

/-- A text without blanks is a single line. -/
theorem IsSolid.isLine (h : IsSolid s) : IsLine s :=
  fun hmem => absurd (h _ hmem) (by decide)

theorem IsSolid.isInked (h : IsSolid s) (hne : s.toList ≠ []) : IsInked s := by
  obtain ⟨c, hc⟩ := List.exists_mem_of_ne_nil _ hne
  exact ⟨c, hc, h c hc⟩

/-- Nothing is trimmed where a text without blanks ends another. -/
theorem IsSolid.trimmedEnd_append (h : IsSolid t) (hne : t.toList ≠ []) (s : String) :
    trimmedEnd (s ++ t) = s ++ t :=
  (trimmedEnd_append_eq_self_iff hne s).2 ⟨_, List.getLast?_eq_some_getLast hne,
    h _ (List.getLast_mem hne)⟩

/-! ## Numbers, days and amounts -/

/-- Digits, and the few other characters that numbers, days and amounts are written with. -/
def isFigure (c : Char) : Bool := c.isDigit || "+-.₹Nainf".toList.contains c

/-- The text is written like numbers, days and amounts. -/
def IsNumeric (s : String) : Prop := ∀ c ∈ s.toList, isFigure c = true

instance (s : String) : Decidable (IsNumeric s) :=
  decidable_of_iff (s.toList.all isFigure = true) (by simp [IsNumeric])

@[simp] theorem isNumeric_append : IsNumeric (s ++ t) ↔ IsNumeric s ∧ IsNumeric t := by
  simp [IsNumeric, or_imp, forall_and]

theorem isFigure_of_isDigit {c : Char} (h : c.isDigit = true) : isFigure c = true := by
  rw [isFigure, h, Bool.true_or]

/-- Figures are no blanks. -/
theorem IsNumeric.isSolid (h : IsNumeric s) : IsSolid s := by
  have hothers : ∀ c ∈ "+-.₹Nainf".toList, isBlank c = false := forall_of_all (by decide)
  intro c hc
  rcases Bool.or_eq_true_iff.1 (h c hc) with hdigit | hother
  · exact isBlank_of_isDigit hdigit
  · exact hothers c (List.contains_iff_mem.1 hother)

end Text

open Text (IsNumeric)

/-- Natural numbers are written in figures. -/
theorem isNumeric_toString (n : Nat) : IsNumeric (toString n) := by
  intro c hc
  rw [← Decimal.numeral_eq_toString] at hc
  exact Text.isFigure_of_isDigit (Decimal.isDigit_of_mem_numeral hc)

theorem isNumeric_toString_int (i : Int) : IsNumeric (toString i) := by
  cases i with
  | ofNat n => exact isNumeric_toString n
  | negSucc n => exact Text.isNumeric_append.2 ⟨by decide, isNumeric_toString (n + 1)⟩

theorem isNumeric_padded (width n : Nat) : IsNumeric (padded width n) :=
  fun c hc => Text.isFigure_of_isDigit (isDigit_of_mem_padded c hc)

theorem isNumeric_writtenYear (year : Int) : IsNumeric (writtenYear year) := by
  unfold writtenYear
  split
  · exact isNumeric_padded _ _
  · exact Text.isNumeric_append.2 ⟨by split <;> decide, isNumeric_padded _ _⟩

theorem Date.isNumeric_written (d : Date) : IsNumeric d.written := by
  simp only [Date.written, Text.isNumeric_append, isNumeric_writtenYear, isNumeric_padded, true_and]
  exact ⟨by decide, by decide⟩

theorem isNumeric_twoPlaces (x : Float) : IsNumeric (twoPlaces x) := by
  unfold twoPlaces
  split
  · decide
  · split <;> decide
  · simp only [writtenHundredths, Text.isNumeric_append, isNumeric_toString, true_and, and_true]
    exact ⟨by split <;> decide, by decide, by split <;> decide⟩

/-- Amounts are written in figures. -/
theorem isNumeric_rupees (amount : Float) : IsNumeric (rupees amount) :=
  Text.isNumeric_append.2 ⟨by decide, isNumeric_twoPlaces amount⟩

/-! So none of them takes more than one line. -/

theorem isLine_toString (n : Nat) : Text.IsLine (toString n) :=
  (isNumeric_toString n).isSolid.isLine

theorem isLine_toString_int (i : Int) : Text.IsLine (toString i) :=
  (isNumeric_toString_int i).isSolid.isLine

theorem Date.isLine_written (d : Date) : Text.IsLine d.written :=
  d.isNumeric_written.isSolid.isLine

theorem isLine_rupees (amount : Float) : Text.IsLine (rupees amount) :=
  (isNumeric_rupees amount).isSolid.isLine

end AskLedger
