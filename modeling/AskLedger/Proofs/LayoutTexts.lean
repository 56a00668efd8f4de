import AskLedger.Proofs.WrittenMoments

/-!
# Texts of a layout

What can be said of every text that a layout reads, whatever the fields contain: which characters it
is made of, and how layouts differ that start with the same parts. A text that one layout reads to
its end is too short for a longer layout, unless the parts that follow may be absent; so the layouts
that are tried one after the other do not take texts from each other.

* `Layout.mem_of_read?`: every character of a text is a digit, a blank or a mark of the layout.
* `Layout.mem_of_read?_mark`: every mark of the layout is in the text.
* `Layout.read?_append`: a longer layout reads the rest from the end of the text.
* `Moment.findSome?_layouts`: no text is read by two of the layouts of a timestamp.
-/

namespace AskLedger

open Text (isBlank)

/-- The characters that a part may read besides digits and blanks. -/
def LayoutPart.marks : LayoutPart → List Char
  | field .year => ['-', '+']
  | field _ | blanks => []
  | mark c => [c]
  | fraction => ['.']

namespace Layout

/-- A character that a part with these marks may read. -/
def IsOf (marks : List Char) (c : Char) : Prop :=
  c.isDigit = true ∨ isBlank c = true ∨ c ∈ marks

variable {part : LayoutPart} {parts more : List LayoutPart} {r r' : Reading} {s rest : List Char}
  {marks : List Char}

/-! ## What a part takes -/

/-- A number takes digits. -/
theorem exists_taken_of_leadingNumber? {limit : Option Nat} {n : Nat}
    (h : leadingNumber? limit s = some (n, rest)) :
    ∃ taken, s = taken ++ rest ∧ ∀ c ∈ taken, c.isDigit = true := by
  -- with or without a limit they are the first of a run of digits
  have htaken : ∀ ds, ds <+: s.takeWhile Char.isDigit →
      (if ds.isEmpty = true then none else some (digitsValue ds, s.drop ds.length)) =
        some (n, rest) → ∃ taken, s = taken ++ rest ∧ ∀ c ∈ taken, c.isDigit = true := by
    intro ds hds hread
    split at hread
    · cases hread
    · cases hread
      refine ⟨ds, ?_, fun c hc => List.all_eq_true.1 List.all_takeWhile c (hds.subset hc)⟩
      exact (List.prefix_iff_eq_append.1 (hds.trans (List.takeWhile_prefix _))).symm
  cases limit with
  | none => exact htaken _ (List.prefix_refl _) h
  | some k => exact htaken _ (List.take_prefix k _) h

theorem exists_taken_of_leadingYear? {y : Int} (h : leadingYear? s = some (y, rest)) :
    ∃ taken, s = taken ++ rest ∧ ∀ c ∈ taken, IsOf ['-', '+'] c := by
  -- a sign and a number, or a number alone
  have hsigned : ∀ {sign : Char} {limit : Option Nat} {t : List Char} {n : Nat},
      sign ∈ ['-', '+'] → leadingNumber? limit t = some (n, rest) →
        ∃ taken, sign :: t = taken ++ rest ∧ ∀ c ∈ taken, IsOf ['-', '+'] c := by
    intro sign limit t n hsign hnumber
    obtain ⟨taken, rfl, htaken⟩ := exists_taken_of_leadingNumber? hnumber
    refine ⟨sign :: taken, rfl, List.forall_mem_cons.2 ⟨.inr (.inr hsign), ?_⟩⟩
    exact fun c hc => .inl (htaken c hc)
  unfold leadingYear? at h
  split at h
  all_goals obtain ⟨⟨n, rest'⟩, hnumber, heq⟩ := Option.map_eq_some_iff.1 h
  all_goals cases heq
  · exact hsigned (by simp) hnumber
  · exact hsigned (by simp) hnumber
  · obtain ⟨taken, rfl, htaken⟩ := exists_taken_of_leadingNumber? hnumber
    exact ⟨taken, rfl, fun c hc => .inl (htaken c hc)⟩

/-- Blanks in front may be taken as well. -/
theorem exists_taken_of_trimStart
    (h : ∃ taken, Text.trimStart s = taken ++ rest ∧ ∀ c ∈ taken, IsOf marks c) :
    ∃ taken, s = taken ++ rest ∧ ∀ c ∈ taken, IsOf marks c := by
  obtain ⟨taken, htrim, htaken⟩ := h
  refine ⟨s.takeWhile isBlank ++ taken, ?_, List.forall_mem_append.2 ⟨fun c hc => ?_, htaken⟩⟩
  · rw [List.append_assoc, ← htrim, Text.trimStart, List.takeWhile_append_dropWhile]
  · exact .inr (.inl (List.all_eq_true.1 List.all_takeWhile c hc))

/-- A part takes digits, blanks and its marks. -/
theorem exists_taken_of_readPart? (h : readPart? part r s = some (r', rest)) :
    ∃ taken, s = taken ++ rest ∧ ∀ c ∈ taken, IsOf part.marks c := by
  -- every numeric field but the year is read alike, after blanks
  have hfield : ∀ {n : Nat}, leadingNumber? (some 2) (Text.trimStart s) = some (n, rest) →
      ∃ taken, s = taken ++ rest ∧ ∀ c ∈ taken, IsOf [] c := by
    intro n hnumber
    obtain ⟨taken, htrim, htaken⟩ := exists_taken_of_leadingNumber? hnumber
    exact exists_taken_of_trimStart ⟨taken, htrim, fun c hc => .inl (htaken c hc)⟩
  cases part with
  | field f =>
    cases f with
    | year =>
      obtain ⟨⟨y, rest'⟩, hyear, heq⟩ := Option.map_eq_some_iff.1 h
      cases heq
      exact exists_taken_of_trimStart (exists_taken_of_leadingYear? hyear)
    | month | day | hour | minute | second =>
      obtain ⟨⟨n, rest'⟩, hnumber, heq⟩ := Option.map_eq_some_iff.1 h
      cases heq
      exact hfield hnumber
  | mark c =>
    simp only [readPart?] at h
    split at h
    · split at h
      · next hmark =>
        cases h
        subst hmark
        exact ⟨[_], rfl, by simp [IsOf, LayoutPart.marks]⟩
      · cases h
    · cases h
  | blanks =>
    cases h
    exact exists_taken_of_trimStart ⟨[], rfl, by simp⟩
  | fraction =>
    simp only [readPart?] at h
    split at h
    · next digits =>
      split at h
      · cases h
      · cases h
        refine ⟨'.' :: digits.takeWhile Char.isDigit, ?_, List.forall_mem_cons.2 ⟨?_, ?_⟩⟩
        · rw [List.cons_append, List.takeWhile_append_dropWhile]
        · exact .inr (.inr (by simp [LayoutPart.marks]))
        · exact fun c hc => .inl (List.all_eq_true.1 List.all_takeWhile c hc)
    · cases h
      exact ⟨[], rfl, by simp⟩

/-! ## What a layout reads -/

/-- Reading by a layout means reading its first part and then the others. -/
theorem read?_cons_eq_some_iff :
    read? (part :: parts) r s = some r' ↔
      ∃ r₁ rest, readPart? part r s = some (r₁, rest) ∧ read? parts r₁ rest = some r' := by
  rw [read?]
  cases readPart? part r s with
  | none => simp
  | some read =>
    constructor
    · exact fun h => ⟨read.1, read.2, rfl, h⟩
    · rintro ⟨r₁, rest, hread, h⟩
      cases hread
      exact h

/-- Every character of a text that a layout reads is a digit, a blank or a mark of the layout. -/
theorem mem_of_read? (h : read? parts r s = some r') :
    ∀ c ∈ s, IsOf (parts.flatMap LayoutPart.marks) c := by
  induction parts generalizing r s with
  | nil =>
    cases s with
    | nil => simp
    | cons c s => cases h
  | cons part parts ih =>
    obtain ⟨r₁, rest, hpart, hrest⟩ := read?_cons_eq_some_iff.1 h
    obtain ⟨taken, rfl, htaken⟩ := exists_taken_of_readPart? hpart
    have hmore : ∀ {marks : List Char} {c : Char},
        marks ⊆ (part :: parts).flatMap LayoutPart.marks → IsOf marks c →
          IsOf ((part :: parts).flatMap LayoutPart.marks) c :=
      fun hsub hc => hc.imp_right fun hc => hc.imp_right fun hmark => hsub hmark
    rw [List.forall_mem_append]
    exact ⟨fun c hc => hmore (by simp) (htaken c hc), fun c hc => hmore (by simp) (ih hrest c hc)⟩

/-- Every mark of a layout is in the texts that it reads. -/
theorem mem_of_read?_mark {c : Char} (hmark : .mark c ∈ parts) (h : read? parts r s = some r') :
    c ∈ s := by
  induction parts generalizing r s with
  | nil => cases hmark
  | cons part parts ih =>
    obtain ⟨r₁, rest, hpart, hrest⟩ := read?_cons_eq_some_iff.1 h
    rcases List.mem_cons.1 hmark with rfl | hmark
    · simp only [readPart?] at hpart
      split at hpart
      · split at hpart
        · next hsame => simp [hsame]
        · cases hpart
      · cases hpart
    · obtain ⟨taken, rfl, -⟩ := exists_taken_of_readPart? hpart
      exact List.mem_append_right taken (ih hmark hrest)

/-- A longer layout reads what follows from the end of the text. -/
theorem read?_append (more : List LayoutPart) (h : read? parts r s = some r') :
    read? (parts ++ more) r s = read? more r' [] := by
  induction parts generalizing r s with
  | nil =>
    cases s with
    | nil =>
      cases h
      rfl
    | cons c s => cases h
  | cons part parts ih =>
    obtain ⟨r₁, rest, hpart, hrest⟩ := read?_cons_eq_some_iff.1 h
    rw [List.cons_append, read?_cons hpart, ih hrest]

/-- Without a point there is no fraction to be read. -/
theorem read?_append_fraction (hpoint : '.' ∉ s) :
    read? (parts ++ [.fraction]) r s = read? parts r s := by
  induction parts generalizing r s with
  | nil =>
    cases s with
    | nil => rfl
    | cons c s =>
      have hpart : readPart? .fraction r (c :: s) = some (r, c :: s) := by
        have hc : c ≠ '.' := fun h => hpoint (by simp [h])
        simp [readPart?, hc]
      exact read?_cons hpart
  | cons part parts ih =>
    rw [List.cons_append, read?, read?]
    cases hpart : readPart? part r s with
    | none => rfl
    | some read =>
      obtain ⟨r₁, rest⟩ := read
      obtain ⟨taken, rfl, -⟩ := exists_taken_of_readPart? hpart
      exact ih fun h => hpoint (List.mem_append_right taken h)

end Layout

/-! ## What is read as a moment -/

namespace Moment

variable {layout : List LayoutPart} {s : List Char} {m : Moment}

/-- What is read as a moment is read by the layout. -/
theorem exists_read?_of_readAs? (h : readAs? layout s = some m) :
    ∃ r, Layout.read? layout {} s = some r ∧ r.moment? = some m := by
  unfold readAs? at h
  split at h
  · next r hr => exact ⟨r, hr, h⟩
  · cases h

/-- A layout with a mark reads no text without it. -/
theorem readAs?_eq_none_of_mark {c : Char} (hmark : .mark c ∈ layout) (hc : c ∉ s) :
    readAs? layout s = none := by
  cases hread : readAs? layout s with
  | none => rfl
  | some m =>
    obtain ⟨r, hr, -⟩ := exists_read?_of_readAs? hread
    exact absurd (Layout.mem_of_read?_mark hmark hr) hc

/-- A text that is read to its end has no place for another mark. -/
theorem readAs?_append_eq_none (h : readAs? layout s = some m) (c : Char)
    (more : List LayoutPart) : readAs? (layout ++ .mark c :: more) s = none := by
  obtain ⟨r, hr, -⟩ := exists_read?_of_readAs? h
  rw [readAs?, Layout.read?_append _ hr]
  rfl

/-- The characters of a text that is read, apart from digits and blanks, are marks of the layout. -/
theorem isOf_of_readAs? (h : readAs? layout s = some m) :
    ∀ c ∈ s, Layout.IsOf (layout.flatMap LayoutPart.marks) c := by
  obtain ⟨r, hr, -⟩ := exists_read?_of_readAs? h
  exact Layout.mem_of_read? hr

/-- Blanks alone are not followed by a field. -/
theorem readAs?_blanks_eq_none (h : readAs? layout s = some m) (f : Field)
    (more : List LayoutPart) : readAs? (layout ++ .blanks :: .field f :: more) s = none := by
  obtain ⟨r, hr, -⟩ := exists_read?_of_readAs? h
  rw [readAs?, Layout.read?_append _ hr]
  cases f <;> rfl

/-- At most one of the layouts of a timestamp reads a text, so the order in which they are tried
does not matter. -/
theorem findSome?_layouts (hlayout : layout ∈ layouts) (h : readAs? layout s = some m) :
    layouts.findSome? (readAs? · s) = some m := by
  -- without a `T` a text is not read by the layouts that have one, and with it not by the others
  have hwithout (hT : 'T' ∉ s) (more : List LayoutPart) :
      readAs? (Layout.date ++ .mark 'T' :: more) s = none :=
    readAs?_eq_none_of_mark (by simp) hT
  have hnot (hT : 'T' ∉ layout.flatMap LayoutPart.marks) : 'T' ∉ s := by
    intro hmem
    rcases isOf_of_readAs? h 'T' hmem with hdigit | hblank | hmark
    · cases hdigit
    · cases hblank
    · exact hT hmark
  have hwith (hT : 'T' ∈ s) :
      readAs? (Layout.date ++ .blanks :: Layout.anySecond) s = none := by
    cases hread : readAs? (Layout.date ++ .blanks :: Layout.anySecond) s with
    | none => rfl
    | some m' =>
      rcases isOf_of_readAs? hread 'T' hT with hdigit | hblank | hmark
      · cases hdigit
      · cases hblank
      · exact absurd hmark (by decide)
  have hlonger (more : List LayoutPart) (c : Char) : readAs? (layout ++ .mark c :: more) s = none :=
    readAs?_append_eq_none h c more
  simp only [layouts, List.mem_cons, List.not_mem_nil, or_false] at hlayout
  simp only [layouts, List.findSome?_cons]
  rcases hlayout with rfl | rfl | rfl | rfl | rfl
  · simp only [h]
  · simp only [hwithout (hnot (by decide)), h]
  · have hsecond : readAs? (Layout.date ++ .mark 'T' :: Layout.anySecond) s = none :=
      hlonger [.field .second, .fraction] ':'
    have hT : 'T' ∈ s := by
      obtain ⟨r, hr, -⟩ := exists_read?_of_readAs? h
      exact Layout.mem_of_read?_mark (by decide) hr
    simp only [hsecond, hwith hT, h]
  · have hsecond : readAs? (Layout.date ++ .blanks :: Layout.anySecond) s = none :=
      hlonger [.field .second, .fraction] ':'
    simp only [hwithout (hnot (by decide)), hsecond, h]
  · have hblanks (more : List LayoutPart) :
        readAs? (Layout.date ++ .blanks :: .field .hour :: more) s = none :=
      readAs?_blanks_eq_none h .hour more
    have hsecond : readAs? (Layout.date ++ .blanks :: Layout.anySecond) s = none := hblanks _
    have hminute : readAs? (Layout.date ++ .blanks :: Layout.hourMinute) s = none := hblanks _
    simp only [hwithout (hnot (by decide)), hsecond, hminute, h]

end Moment

end AskLedger
