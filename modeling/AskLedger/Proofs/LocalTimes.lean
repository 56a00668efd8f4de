import AskLedger.Calendar.Zone
import AskLedger.Proofs.LayoutTexts
import AskLedger.Proofs.PatternContext

/-!
# Local times and timestamps

A text may stand for the present as well as for the date of a row. The two are read by different
lists of layouts, tried in different orders, but no text means two things: what stands for the
present stands for the same moment as a timestamp. The other timestamps, those that do not stand for
the present, are the ones with a `T` in the middle, with a fraction of a second or with a `Z` at the
end.

* `Moment.read?_eq_readLocal?`: without these characters both lists of layouts agree.
* `referenceTime_eq_ok_iff`: which texts stand for the present, and for which moment.
-/

namespace AskLedger

namespace Moment

variable {s : List Char} {m : Moment}

/-- The characters that timestamps may have and local times may not. -/
def timestampMarks : List Char := ['T', 'Z', '.']

/-- A text without them is the same timestamp as it is a local time. -/
theorem read?_eq_readLocal? (h : ∀ c ∈ s, c ∉ timestampMarks) : read? s = readLocal? s := by
  obtain ⟨u, v, -, -, hs⟩ := Text.exists_trim s
  have htrim : ∀ c ∈ Text.trim s, c ∉ timestampMarks := fun c hc =>
    h c (by rw [hs]; simp [hc])
  have hnot : ∀ c ∈ timestampMarks, c ∉ Text.trim s := fun c hc hmem => htrim c hmem hc
  -- there is no `Z` to be taken off
  have hbody : ((Text.trim s).reverse.dropWhile (· == 'Z')).reverse = Text.trim s := by
    rw [Text.dropWhile_eq_self, List.reverse_reverse]
    intro c hc
    rw [beq_eq_false_iff_ne]
    rintro rfl
    exact hnot 'Z' (by decide) (List.mem_reverse.1 hc)
  -- the two layouts with a `T` read nothing, and of the others only the fraction is new
  have hsecondT : readAs? (Layout.date ++ .mark 'T' :: Layout.anySecond) (Text.trim s) = none :=
    readAs?_eq_none_of_mark (by decide) (hnot 'T' (by decide))
  have hminuteT : readAs? (Layout.date ++ .mark 'T' :: Layout.hourMinute) (Text.trim s) = none :=
    readAs?_eq_none_of_mark (by decide) (hnot 'T' (by decide))
  have hfraction : readAs? (Layout.date ++ .blanks :: Layout.anySecond) (Text.trim s) =
      readAs? (Layout.date ++ .blanks :: Layout.wholeSecond) (Text.trim s) := by
    have hread := @Layout.read?_append_fraction (Layout.date ++ .blanks :: Layout.wholeSecond) {}
      (Text.trim s) (hnot '.' (by decide))
    rw [readAs?, readAs?, ← hread]
    rfl
  simp only [read?, readLocal?, hbody, layouts, localLayouts, List.findSome?_cons, hsecondT,
    hminuteT, hfraction]
  cases hminute : readAs? (Layout.date ++ .blanks :: Layout.hourMinute) (Text.trim s) with
  | none => rfl
  | some m =>
    -- a time to the minute is no time to the second
    have hsecond : readAs? (Layout.date ++ .blanks :: Layout.wholeSecond) (Text.trim s) = none :=
      readAs?_append_eq_none hminute ':' [.field .second]
    simp only [hsecond]

/-- A local time has none of them. -/
theorem not_mem_of_readLocal? (h : readLocal? s = some m) : ∀ c ∈ s, c ∉ timestampMarks := by
  obtain ⟨layout, hlayout, hread⟩ := List.exists_of_findSome?_eq_some h
  have hlocal : ∀ layout ∈ localLayouts, ∀ c ∈ timestampMarks,
      c.isDigit = false ∧ Text.isBlank c = false ∧ c ∉ layout.flatMap LayoutPart.marks := by
    simp only [timestampMarks, List.forall_mem_cons, List.not_mem_nil, false_imp_iff, implies_true,
      and_true]
    decide
  obtain ⟨u, v, hu, hv, hs⟩ := Text.exists_trim s
  intro c hc hmark
  obtain ⟨hdigit, hblank, hother⟩ := hlocal layout hlayout c hmark
  rw [hs, List.mem_append, List.mem_append] at hc
  rcases hc with (hc | hc) | hc
  · simp [hu c hc] at hblank
  · rcases isOf_of_readAs? hread c hc with h | h | h
    · simp [h] at hdigit
    · simp [h] at hblank
    · exact hother h
  · simp [hv c hc] at hblank

end Moment

/-- A text stands for the present if it is a timestamp without a `T`, a `Z` and a point, and then it
stands for the moment of that timestamp, whichever the zone is. -/
theorem referenceTime_eq_ok_iff {text zone : String} {m : Moment} :
    referenceTime text zone = .ok m ↔
      Zone.isName zone = true ∧ Moment.read? text.toList = some m ∧
        ∀ c ∈ text.toList, c ∉ Moment.timestampMarks := by
  have hlocal : Moment.readLocal? text.toList = some m ↔
      Moment.read? text.toList = some m ∧ ∀ c ∈ text.toList, c ∉ Moment.timestampMarks := by
    constructor
    · intro h
      have hmarks := Moment.not_mem_of_readLocal? h
      exact ⟨by rwa [Moment.read?_eq_readLocal? hmarks], hmarks⟩
    · rintro ⟨h, hmarks⟩
      rwa [← Moment.read?_eq_readLocal? hmarks]
  rw [← hlocal, referenceTime]
  split
  · next hzone =>
    cases Moment.readLocal? text.toList <;> simp [hzone]
  · next hzone => simp [hzone]

end AskLedger
