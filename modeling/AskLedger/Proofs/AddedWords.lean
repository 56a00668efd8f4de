import AskLedger.Proofs.OuterBlanks
import AskLedger.Question.Gate

/-!
# Messages with more words

What a pattern finds in a text it also finds when more text is put around it, as long as no word
character comes to stand next to the text: each character of a match stays where it is, and so does
each word boundary. Patterns may be put together in any way. So a message that concerns the ledger
still does when words are added to it, and it mentions all the categories that it mentioned before.

* `Pattern.leads_widen`: a pattern leads between the same places of a wider text.
* `Pattern.isIn_widen`: a pattern that is in a text is in the wider text.
* `Gate.admits_added`: adding words hides no message and no category.
-/

namespace AskLedger

variable {u v : List Char}

/-- A place in a longer text stands in the longer text. -/
theorem Place.whole_widen (a : Place) : (a.widen u v).whole = u ++ a.whole ++ v := by
  simp [whole, widen]

namespace Pattern

variable {p : Pattern} {text : List Char}

section

variable (hu : u.getLast?.any Text.isWordChar = false) (hv : v.head?.any Text.isWordChar = false)

include hu hv

/-- Where a pattern leads in a text it also leads in the wider text. -/
theorem leads_widen {a b : Place} (h : p.Leads a b) : p.Leads (a.widen u v) (b.widen u v) := by
  induction p generalizing a b with
  | nothing =>
    obtain rfl : a = b := h
    rfl
  | one kind =>
    obtain ⟨c, hc, hafter, hbefore⟩ := h
    exact ⟨c, hc, by simp [Place.widen, hafter], by simp [Place.widen, hbefore]⟩
  | many kind =>
    obtain ⟨s, hs, hafter, hbefore⟩ := h
    exact ⟨s, hs, by simp [Place.widen, hafter], by simp [Place.widen, hbefore]⟩
  | edge =>
    -- the only pattern that looks at what stands around a place
    obtain ⟨rfl, hedge⟩ := h
    exact ⟨rfl, by rwa [Place.atWordEdge_widen_of_outside hu hv]⟩
  | both p q ihp ihq =>
    obtain ⟨m, hp, hq⟩ := h
    exact ⟨m.widen u v, ihp hp, ihq hq⟩
  | either p q ihp ihq => exact h.imp ihp ihq
  | capture slot p ih => exact ih h

/-- A pattern that is in a text is in the wider text. -/
theorem isIn_widen (h : p.isIn text = true) : p.isIn (u ++ text ++ v) = true := by
  obtain ⟨a, b, rfl, hleads⟩ := isIn_iff_leads.1 h
  exact isIn_iff_leads.2 ⟨a.widen u v, b.widen u v, a.whole_widen, leads_widen hu hv hleads⟩

end

end Pattern

/-- Where more elements of a list are let through, the first one is the same or an earlier one. -/
theorem exists_find?_le {α : Type} [BEq α] [LawfulBEq α] {l : List α} {p q : α → Bool} {x : α}
    (hpq : ∀ a, p a = true → q a = true) (h : l.find? p = some x) :
    ∃ y, l.find? q = some y ∧ (y = x ∨ l.idxOf y < l.idxOf x) := by
  induction l with
  | nil => cases h
  | cons a l ih =>
    have hother : ∀ {b : α}, a ≠ b → (a :: l).idxOf b = l.idxOf b + 1 := fun hne => by
      rw [List.idxOf_cons_ne _ hne]
    by_cases hq : q a = true
    · refine ⟨a, List.find?_cons_of_pos hq, ?_⟩
      by_cases hax : a = x
      · exact .inl hax
      · right
        rw [List.idxOf_cons_self, hother hax]
        exact Nat.succ_pos _
    · -- the first element is let through neither before nor after
      have hp : ¬p a = true := mt (hpq a) hq
      rw [List.find?_cons_of_neg hp] at h
      obtain ⟨y, hy, hle⟩ := ih h
      have hax : a ≠ x := by
        rintro rfl
        exact hp (List.find?_some h)
      have hay : a ≠ y := by
        rintro rfl
        exact hq (List.find?_some hy)
      refine ⟨y, by rwa [List.find?_cons_of_neg hq], hle.imp_right fun hlt => ?_⟩
      rw [hother hax, hother hay]
      exact Nat.succ_lt_succ hlt

namespace Gate

/-- What is blank is no word character. -/
theorem any_isWordChar_of_all_isBlank {c? : Option Char} (h : c?.all Text.isBlank = true) :
    c?.any Text.isWordChar = false := by
  cases c? with
  | none => rfl
  | some c => exact Text.isWordChar_of_isBlank h

/-- A message that concerns the ledger still does when more text is put in front of it and behind
it, with blanks in between; one that mentions a category still mentions one, and the first that it
mentions is the same as before or one that comes before it in the list of all categories. -/
theorem admits_added {front text back : List Char} (hfront : front.getLast?.all Text.isBlank = true)
    (hback : back.head?.all Text.isBlank = true) :
    (admits text = true → admits (front ++ text ++ back) = true) ∧
      (Category.anyIn text = true → Category.anyIn (front ++ text ++ back) = true) ∧
      ∀ c, Category.ofText? text = some c →
        ∃ c', Category.ofText? (front ++ text ++ back) = some c' ∧
          (c' = c ∨ Category.all.idxOf c' < Category.all.idxOf c) := by
  -- added words stand behind a blank, so that no pattern loses the edges of its words
  have hin (p : Pattern) (h : p.isIn text = true) : p.isIn (front ++ text ++ back) = true :=
    Pattern.isIn_widen (any_isWordChar_of_all_isBlank hfront)
      (any_isWordChar_of_all_isBlank hback) h
  have hcategory (c : Category) : c.isIn text = true → c.isIn (front ++ text ++ back) = true :=
    hin c.mention
  have hany : Category.anyIn text = true → Category.anyIn (front ++ text ++ back) = true := by
    simp only [Category.anyIn, List.any_eq_true]
    rintro ⟨c, hc, h⟩
    exact ⟨c, hc, hcategory c h⟩
  have hsigns : (signs.any fun p => p.isIn text) = true →
      (signs.any fun p => p.isIn (front ++ text ++ back)) = true := by
    simp only [List.any_eq_true]
    rintro ⟨p, hp, h⟩
    exact ⟨p, hp, hin p h⟩
  refine ⟨fun h => ?_, hany, fun c h => exists_find?_le hcategory h⟩
  rw [admits, Bool.or_eq_true] at h ⊢
  exact h.imp hsigns hany

/-- A message about flights between words about food, after a no-break space and in front of a line
feed. -/
theorem flights_and_food :
    ("snacks and\u00A0".toList.getLast?.all Text.isBlank = true ∧
        "\non the bus".toList.head?.all Text.isBlank = true ∧
        admits "my flights".toList = true ∧
        Category.ofText? "my flights".toList = some .travel) ∧
      admits ("snacks and\u00A0".toList ++ "my flights".toList ++ "\non the bus".toList) = true ∧
      ∃ c, Category.ofText?
          ("snacks and\u00A0".toList ++ "my flights".toList ++ "\non the bus".toList) = some c ∧
        (c = .travel ∨ Category.all.idxOf c < Category.all.idxOf .travel) := by
  have hfront : "snacks and\u00A0".toList.getLast?.all Text.isBlank = true := by decide +kernel
  have hback : "\non the bus".toList.head?.all Text.isBlank = true := by decide +kernel
  have hadmits : admits "my flights".toList = true := by decide +kernel
  have htravel : Category.ofText? "my flights".toList = some .travel := by decide +kernel
  obtain ⟨hadded, -, hcategory⟩ := @admits_added _ "my flights".toList _ hfront hback
  exact ⟨⟨hfront, hback, hadmits, htravel⟩, hadded hadmits, hcategory .travel htravel⟩

end Gate

end AskLedger
