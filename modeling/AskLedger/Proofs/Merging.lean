import AskLedger.Ledger.LongOrder
import AskLedger.Proofs.StableOrder
import Mathlib.Data.List.Basic

/-!
# Merging

Two lists in order are merged by taking elements from their fronts. How much of each has been
taken at some time is a cut of the two lists: what has been taken of the second one precedes what
is left of the first one, and nothing left of the second one precedes what has been taken of the
first one. Two cuts cannot cross. That is why merging from both ends at once comes out even, if
`precedes` is an order.

* `IsSorting.unique`: there is one way to put a list in order that keeps the order of elements of
  which none precedes another.
* `LongOrder.takeFirst_isCut`: how much has been taken is a cut.
* `LongOrder.IsCut.not_cross`: two cuts do not cross.
* `LongOrder.isSorting_merged`, `LongOrder.exists_mergedFromEnds?`: both ways of merging
  put elements in order.
-/

namespace AskLedger

section
variable {α : Type}

/-- `precedes` orders the elements of which `p` holds: of two elements at most one precedes the
other, and what precedes another precedes a third one or is one that the third one precedes. -/
structure IsOrderOn (precedes : α → α → Bool) (p : α → Prop) : Prop where
  /-- No two elements precede each other. -/
  asymm : ∀ {a b}, precedes a b = true → precedes b a = false
  /-- To be preceded by neither of two elements carries over from one to the next. -/
  trans : ∀ {a b c}, p b → precedes a b = false → precedes b c = false → precedes a c = false

/-- `full` has the elements of a list in order, those of which none precedes another in the order
that they had. -/
structure IsSorting (precedes : α → α → Bool) (l full : List α) : Prop where
  /-- No element is lost or invented. -/
  perm : full.Perm l
  /-- Nothing precedes what stands in front of it. -/
  inOrder : full.Pairwise fun a b => precedes b a = false
  /-- Elements that do not precede each other keep their order. -/
  stable : ∀ q : α → Bool, (∀ a b, q a = true → q b = true → precedes a b = false) →
    full.filter q = l.filter q

variable {precedes : α → α → Bool} {p : α → Prop}

namespace IsOrderOn

variable (h : IsOrderOn precedes p)
include h

theorem irrefl (a : α) : precedes a a = false := by
  cases haa : precedes a a with
  | false => rfl
  | true => exact haa.symm.trans (h.asymm haa)

/-- What precedes another element precedes a third one or is preceded by it. -/
theorem precedes_or_precedes {a b c : α} (hc : p c) (hab : precedes a b = true) :
    precedes a c = true ∨ precedes c b = true := by
  by_contra hnot
  simp only [not_or, Bool.not_eq_true] at hnot
  exact absurd hab (by simp [h.trans hc hnot.1 hnot.2])

theorem flip : IsOrderOn (fun a b => precedes b a) p where
  asymm hba := h.asymm hba
  trans hb hba hcb := h.trans hb hcb hba

end IsOrderOn

namespace IsSorting

variable {l r s t : List α}

/-- What is in order already is its own sorting. -/
theorem refl (hl : l.Pairwise fun a b => precedes b a = false) : IsSorting precedes l l :=
  ⟨.refl l, hl, fun _ _ => rfl⟩

/-- A sorting of a sorting is a sorting. -/
theorem trans (h : IsSorting precedes l s) (h' : IsSorting precedes s t) :
    IsSorting precedes l t :=
  ⟨h'.perm.trans h.perm, h'.inOrder, fun q hq => (h'.stable q hq).trans (h.stable q hq)⟩

/-- A list sorted the other way round and reversed is sorted. -/
theorem reverse (h : IsSorting (fun a b => precedes b a) l.reverse t) :
    IsSorting precedes l t.reverse where
  perm := (List.reverse_perm t).trans (h.perm.trans (List.reverse_perm l))
  inOrder := List.pairwise_reverse.2 h.inOrder
  stable q hq := by
    rw [List.filter_reverse, h.stable q fun a b ha hb => hq b a hb ha, List.filter_reverse,
      List.reverse_reverse]

theorem mem_iff (h : IsSorting precedes l s) {a : α} : a ∈ s ↔ a ∈ l := h.perm.mem_iff

/-- Lists in order, one of which goes before the other, are in order one behind the other. -/
theorem append (h : IsSorting precedes l s) (h' : IsSorting precedes r t)
    (hcross : ∀ a ∈ l, ∀ b ∈ r, precedes b a = false) : IsSorting precedes (l ++ r) (s ++ t) where
  perm := h.perm.append h'.perm
  inOrder := List.pairwise_append.2 ⟨h.inOrder, h'.inOrder, fun a ha b hb =>
    hcross a (h.mem_iff.1 ha) b (h'.mem_iff.1 hb)⟩
  stable q hq := by
    rw [List.filter_append, List.filter_append, h.stable q hq, h'.stable q hq]

/-- What nothing precedes is put first. -/
theorem cons {a : α} (h : IsSorting precedes l s) (ha : ∀ x ∈ l, precedes x a = false) :
    IsSorting precedes (a :: l) (a :: s) where
  perm := h.perm.cons a
  inOrder := List.pairwise_cons.2 ⟨fun x hx => ha x (h.mem_iff.1 hx), h.inOrder⟩
  stable q hq := by rw [List.filter_cons, List.filter_cons, h.stable q hq]

/-- What precedes all in front of it is put in front of that. -/
theorem of_middle {b : α} (h : IsSorting precedes (b :: (l ++ r)) s)
    (hb : ∀ x ∈ l, precedes b x = true) : IsSorting precedes (l ++ b :: r) s where
  perm := h.perm.trans List.perm_middle.symm
  inOrder := h.inOrder
  stable q hq := by
    rw [h.stable q hq, List.filter_append, List.filter_cons, List.filter_cons, List.filter_append]
    split
    · next hqb =>
      -- nothing in front of it is of its kind
      have hnil : l.filter q = [] := by
        refine List.filter_eq_nil_iff.2 fun x hx hqx => ?_
        have hbx := hb x hx
        rw [hq b x hqb hqx] at hbx
        exact Bool.noConfusion hbx
      rw [hnil]
      rfl
    · rfl

/-- Lists may be put in order before they are put in order together. -/
theorem of_parts (h : IsSorting precedes l s) (h' : IsSorting precedes r t) {u : List α}
    (hu : IsSorting precedes (s ++ t) u) : IsSorting precedes (l ++ r) u where
  perm := hu.perm.trans (h.perm.append h'.perm)
  inOrder := hu.inOrder
  stable q hq := by
    rw [hu.stable q hq, List.filter_append, List.filter_append, h.stable q hq, h'.stable q hq]

/-- There is one way to put elements in order that keeps the order of those of which none precedes
another. -/
theorem unique (horder : IsOrderOn precedes p) (hl : ∀ a ∈ l, p a) (hs : IsSorting precedes l s)
    (ht : IsSorting precedes l t) : s = t := by
  have hperm := hs.perm.trans ht.perm.symm
  have hfilter : ∀ q : α → Bool, (∀ a b, q a = true → q b = true → precedes a b = false) →
      s.filter q = t.filter q := fun q hq => (hs.stable q hq).trans (ht.stable q hq).symm
  have hp : ∀ a ∈ s, p a := fun a ha => hl a (hs.mem_iff.1 ha)
  obtain ⟨-, hs, -⟩ := hs
  obtain ⟨-, ht, -⟩ := ht
  clear hl
  induction s generalizing t with
  | nil => exact hperm.nil_eq
  | cons a s ih =>
    cases t with
    | nil => exact absurd hperm (by simp)
    | cons b t =>
      obtain ⟨ha, hstail⟩ := List.pairwise_cons.1 hs
      obtain ⟨hb, httail⟩ := List.pairwise_cons.1 ht
      -- neither precedes the other, so they are the first ones of their kind
      have hba : precedes b a = false := by
        rcases List.mem_cons.1 (hperm.mem_iff.2 List.mem_cons_self) with rfl | hmem
        · exact horder.irrefl b
        · exact ha b hmem
      have hab : precedes a b = false := by
        rcases List.mem_cons.1 (hperm.mem_iff.1 List.mem_cons_self) with rfl | hmem
        · exact horder.irrefl a
        · exact hb a hmem
      have hpa : p a := hp a List.mem_cons_self
      have hkind := hfilter (fun x => !precedes a x && !precedes x a) fun x y hx hy => by
        simp only [Bool.and_eq_true, Bool.not_eq_true'] at hx hy
        exact horder.trans hpa hx.2 hy.1
      simp only [List.filter_cons, horder.irrefl, hab, hba, Bool.not_false, Bool.and_self,
        if_true] at hkind
      obtain rfl : a = b := (List.cons.inj hkind).1
      have hrest : ∀ q : α → Bool, (∀ a b, q a = true → q b = true → precedes a b = false) →
          s.filter q = t.filter q := by
        intro q hq
        have hq := hfilter q hq
        simp only [List.filter_cons] at hq
        split at hq
        · exact (List.cons.inj hq).2
        · exact hq
      rw [ih hperm.cons_inv hrest (fun x hx => hp x (List.mem_cons_of_mem _ hx)) hstail httail]

end IsSorting

section
variable (h : IsOrderOn precedes p) {l : List α} (hl : ∀ a ∈ l, p a)
include h hl

/-- Sorting by insertion puts a list in order. -/
theorem isSorting_sorted : IsSorting precedes l (sorted precedes l) where
  perm := sorted_perm precedes l
  inOrder := pairwise_sorted (fun _ _ => h.asymm) fun b hb _ _ => h.trans (hl b hb)
  stable _ hq := filter_sorted hq l

/-- Sorting by insertion goes on from what is in order. -/
theorem IsSorting.sortInto {first rest : List α} (hfirst : IsSorting precedes l first)
    (hrest : ∀ a ∈ rest, p a) :
    IsSorting precedes (l ++ rest) (sortInto precedes first.reverse rest) where
  perm := (sortInto_perm precedes _ _).trans
    (List.perm_append_comm.trans (((List.reverse_perm first).trans hfirst.perm).append_right rest))
  inOrder := by
    refine pairwise_sortInto (fun _ _ => h.asymm) (fun b hb _ _ => h.trans ?_)
      (List.pairwise_reverse.2 hfirst.inOrder)
    rcases List.mem_append.1 hb with hb | hb
    · exact hl b (hfirst.mem_iff.1 (List.mem_reverse.1 hb))
    · exact hrest b hb
  stable q hq := by
    rw [filter_sortInto hq, List.reverse_reverse, List.filter_append, hfirst.stable q hq,
      List.filter_append]

end

namespace LongOrder

variable {l r : List α}

/-! ## Cuts -/

/-- Two lists are cut after `i` and after `j` elements as merging cuts them. -/
structure IsCut (precedes : α → α → Bool) (l r : List α) (i j : Nat) : Prop where
  /-- What is taken of the second list precedes what is left of the first one. -/
  before : ∀ b ∈ r.take j, ∀ a ∈ l.drop i, precedes b a = true
  /-- Nothing left of the second list precedes what is taken of the first one. -/
  after : ∀ a ∈ l.take i, ∀ b ∈ r.drop j, precedes b a = false

namespace IsCut

variable {i j i' j' : Nat}

/-- Of two cuts none is before the other in one list and behind it in the other. -/
theorem not_cross (h : IsCut precedes l r i j) (h' : IsCut precedes l r i' j') (hi : i < i')
    (hj : j' < j) (hil : i' ≤ l.length) (hjr : j ≤ r.length) : False := by
  have hbetween {l : List α} {i i' : Nat} (hi : i < i') (hl : i' ≤ l.length) :
      ∃ a, a ∈ l.drop i ∧ a ∈ l.take i' := by
    have hlt : i < l.length := Nat.lt_of_lt_of_le hi hl
    exact ⟨l[i], List.mem_drop_iff_getElem.2 ⟨0, by omega, by simp⟩,
      List.mem_take_iff_getElem.2 ⟨i, by omega, rfl⟩⟩
  obtain ⟨a, ha, ha'⟩ := hbetween hi hil
  obtain ⟨b, hb', hb⟩ := hbetween hj hjr
  have hbefore := h.before b hb a ha
  rw [h'.after a ha' b hb'] at hbefore
  exact Bool.noConfusion hbefore

/-- A cut of the lists from behind is one from the front. -/
theorem of_reverse (h : IsCut (fun a b => precedes b a) r.reverse l.reverse j i) :
    IsCut precedes l r (l.length - i) (r.length - j) where
  before b hb a ha := by
    rw [← take_reverse, List.mem_reverse] at ha
    refine h.before a ha b ?_
    rwa [List.drop_reverse, List.mem_reverse]
  after a ha b hb := by
    rw [← take_reverse, List.mem_reverse] at hb
    refine h.after b hb a ?_
    rwa [List.drop_reverse, List.mem_reverse]

/-- A cut of lists is one of what stands in front of another one. -/
theorem take (h : IsCut precedes l r i j) (n m : Nat) :
    IsCut precedes (l.take n) (r.take m) i j where
  before b hb a ha := by
    refine h.before b ?_ a ?_
    · exact List.mem_of_mem_take (by rwa [List.take_take, Nat.min_comm, ← List.take_take] at hb)
    · rw [List.drop_take] at ha
      exact List.mem_of_mem_take ha
  after a ha b hb := by
    refine h.after a ?_ b ?_
    · exact List.mem_of_mem_take (by rwa [List.take_take, Nat.min_comm, ← List.take_take] at ha)
    · rw [List.drop_take] at hb
      exact List.mem_of_mem_take hb

/-- What is in front of a cut and what is behind it may be put in order one after the other. -/
theorem append (hcut : IsCut precedes l r i j) (h : IsOrderOn precedes p)
    (hl : l.Pairwise fun a b => precedes b a = false)
    (hr : r.Pairwise fun a b => precedes b a = false) {s t : List α}
    (hs : IsSorting precedes (l.take i ++ r.take j) s)
    (ht : IsSorting precedes (l.drop i ++ r.drop j) t) : IsSorting precedes (l ++ r) (s ++ t) := by
  rw [← List.take_append_drop i l, List.pairwise_append] at hl
  rw [← List.take_append_drop j r, List.pairwise_append] at hr
  -- two of the four pairings stand in one part, in its own order; the other two cross the cut
  have hcross : ∀ a ∈ l.take i ++ r.take j, ∀ b ∈ l.drop i ++ r.drop j, precedes b a = false := by
    intro a ha b hb
    rcases List.mem_append.1 ha with ha | ha <;> rcases List.mem_append.1 hb with hb | hb
    · exact hl.2.2 a ha b hb
    · exact hcut.after a ha b hb
    · exact h.asymm (hcut.before a ha b hb)
    · exact hr.2.2 a ha b hb
  have hall := hs.append ht hcross
  refine ⟨hall.perm.trans ?_, hall.inOrder, fun q hq => (hall.stable q hq).trans ?_⟩
  · refine (perm_append_append _ _ _ _).trans ?_
    rw [List.take_append_drop, List.take_append_drop]
  · -- of what changes places, one part has nothing of a kind that the other has something of
    have hswap : (r.take j).filter q ++ (l.drop i).filter q =
        (l.drop i).filter q ++ (r.take j).filter q := by
      by_cases hnil : (r.take j).filter q = []
      · simp [hnil]
      · obtain ⟨b, hb⟩ := List.exists_mem_of_ne_nil _ hnil
        obtain ⟨hb, hqb⟩ := List.mem_filter.1 hb
        have hnil' : (l.drop i).filter q = [] := by
          refine List.filter_eq_nil_iff.2 fun a ha hqa => ?_
          have hba := hcut.before b hb a ha
          rw [hq b a hqb hqa] at hba
          exact Bool.noConfusion hba
        simp [hnil']
    calc ((l.take i ++ r.take j) ++ (l.drop i ++ r.drop j)).filter q
        = (l.take i).filter q ++ ((r.take j).filter q ++ (l.drop i).filter q) ++
            (r.drop j).filter q := by simp only [List.filter_append, List.append_assoc]
      _ = ((l.take i ++ l.drop i) ++ (r.take j ++ r.drop j)).filter q := by
          rw [hswap]
          simp only [List.filter_append, List.append_assoc]
      _ = (l ++ r).filter q := by rw [List.take_append_drop, List.take_append_drop]

end IsCut

/-! ## Merging from the fronts -/

section
variable {a b : α}

/-- What precedes the first element of a list in order precedes all of it. -/
theorem precedes_of_precedes_head (h : IsOrderOn precedes p) (hl : ∀ x ∈ a :: l, p x)
    (hls : (a :: l).Pairwise fun x y => precedes y x = false) (hba : precedes b a = true) :
    ∀ x ∈ a :: l, precedes b x = true := by
  intro x hx
  rcases List.mem_cons.1 hx with rfl | htail
  · exact hba
  · rcases h.precedes_or_precedes (hl x hx) hba with hbx | hxa
    · exact hbx
    · rw [List.rel_of_pairwise_cons hls htail] at hxa
      exact Bool.noConfusion hxa

/-- Nothing in a list in order precedes what its first element does not precede. -/
theorem not_precedes_of_not_precedes_head (h : IsOrderOn precedes p) (hr : ∀ x ∈ b :: r, p x)
    (hrs : (b :: r).Pairwise fun x y => precedes y x = false) (hba : precedes b a = false) :
    ∀ x ∈ b :: r, precedes x a = false := by
  intro x hx
  rcases List.mem_cons.1 hx with rfl | htail
  · exact hba
  · exact h.trans (hr b List.mem_cons_self) (List.rel_of_pairwise_cons hrs htail) hba

variable {i j : Nat}

/-- A cut stays one with an element in front of the left part that nothing on the right precedes. -/
theorem IsCut.cons_left (h : IsCut precedes l r i j) (ha : ∀ x ∈ r, precedes x a = false) :
    IsCut precedes (a :: l) r (i + 1) j where
  before := h.before
  after x hx y hy := by
    rcases List.mem_cons.1 hx with rfl | hx
    · exact ha y (List.mem_of_mem_drop hy)
    · exact h.after x hx y hy

/-- A cut stays one with an element in front of the right part that precedes all on the left. -/
theorem IsCut.cons_right (h : IsCut precedes l r i j) (hb : ∀ x ∈ l, precedes b x = true) :
    IsCut precedes l (b :: r) i (j + 1) where
  before x hx y hy := by
    rcases List.mem_cons.1 hx with rfl | hx
    · exact hb y (List.mem_of_mem_drop hy)
    · exact h.before x hx y hy
  after := h.after

end

section
variable (h : IsOrderOn precedes p)
include h

/-- Taking elements from the fronts of two lists in order cuts them, and what is taken is in
order. -/
theorem takeFirst_isCut (n : Nat) (hl : ∀ a ∈ l, p a) (hr : ∀ a ∈ r, p a)
    (hls : l.Pairwise fun a b => precedes b a = false)
    (hrs : r.Pairwise fun a b => precedes b a = false) :
    ∃ i j, (takeFirst precedes n l r).Takes l r i j ∧ i + j = min n (l.length + r.length) ∧
      IsCut precedes l r i j ∧
      IsSorting precedes (l.take i ++ r.take j) (takeFirst precedes n l r).taken := by
  fun_induction takeFirst precedes n l r with
  | case1 l r =>
    exact ⟨0, 0, ⟨Nat.zero_le _, Nat.zero_le _, rfl, rfl, .refl _⟩, by simp, ⟨by simp, by simp⟩,
      .refl .nil⟩
  | case2 n r =>
    -- the left part is used up: what is taken is a front of the right one
    refine ⟨0, _, .of_right (n + 1) [] r, by simp, ⟨by simp, by simp⟩, ?_⟩
    rw [← List.take_eq_take_min]
    exact .refl (hrs.sublist (List.take_sublist _ _))
  | case3 n a l =>
    -- the right part is used up: what is taken is a front of the left one
    refine ⟨_, 0, .of_left (n + 1) (a :: l) [], by simp, ⟨by simp, by simp⟩, ?_⟩
    rw [← List.take_eq_take_min, List.take_nil, List.append_nil]
    exact .refl (hls.sublist (List.take_sublist _ _))
  | case4 n a l b r hba m ih =>
    -- the head of the right part precedes the head of the left one, and with it the whole left part
    obtain ⟨hb, hrtail⟩ := List.pairwise_cons.1 hrs
    obtain ⟨i, j, htakes, hsum, hcut, hsorting⟩ :=
      ih hl (fun x hx => hr x (List.mem_cons_of_mem _ hx)) hls hrtail
    have hall := precedes_of_precedes_head h hl hls hba
    refine ⟨i, j + 1, htakes.cons_right b, ?_, hcut.cons_right hall, .of_middle (.cons hsorting ?_)
      fun x hx => hall x (List.mem_of_mem_take hx)⟩
    · simp only [List.length_cons] at hsum ⊢
      omega
    · intro x hx
      rcases List.mem_append.1 hx with hx | hx
      · exact h.asymm (hall x (List.mem_of_mem_take hx))
      · exact hb x (List.mem_of_mem_take hx)
  | case5 n a l b r hba m ih =>
    -- nothing in the right part precedes the head of the left one, so that head is taken first
    obtain ⟨ha, hltail⟩ := List.pairwise_cons.1 hls
    obtain ⟨i, j, htakes, hsum, hcut, hsorting⟩ :=
      ih (fun x hx => hl x (List.mem_cons_of_mem _ hx)) hr hltail hrs
    have hnone := not_precedes_of_not_precedes_head h hr hrs (by simpa using hba)
    refine ⟨i + 1, j, htakes.cons_left a, ?_, hcut.cons_left hnone, .cons hsorting ?_⟩
    · simp only [List.length_cons] at hsum ⊢
      omega
    · intro x hx
      rcases List.mem_append.1 hx with hx | hx
      · exact ha x (List.mem_of_mem_take hx)
      · exact hnone x (List.mem_of_mem_take hx)

variable (hl : ∀ a ∈ l, p a) (hr : ∀ a ∈ r, p a)
  (hls : l.Pairwise fun a b => precedes b a = false)
  (hrs : r.Pairwise fun a b => precedes b a = false)
include hl hr hls hrs

/-- Taking all elements from the fronts of two lists in order puts them in order. -/
theorem isSorting_takeFirst :
    IsSorting precedes (l ++ r) (takeFirst precedes (l.length + r.length) l r).taken := by
  obtain ⟨i, j, htakes, hsum, -, hsorting⟩ :=
    takeFirst_isCut h (l.length + r.length) hl hr hls hrs
  have hleft := htakes.le_left
  have hright := htakes.le_right
  obtain rfl : i = l.length := by omega
  obtain rfl : j = r.length := by omega
  rwa [List.take_length, List.take_length] at hsorting

/-- The same from the ends: what is left stands in front of a cut, and what is taken is in order. -/
theorem takeLast_isCut (n : Nat) :
    ∃ i j, i ≤ l.length ∧ j ≤ r.length ∧
      i + j = l.length + r.length - min n (l.length + r.length) ∧
      (takeLast precedes n l r).left.length = j ∧ (takeLast precedes n l r).right.length = i ∧
      IsCut precedes l r i j ∧
      IsSorting precedes (l.drop i ++ r.drop j) (takeLast precedes n l r).taken.reverse := by
  obtain ⟨j, i, htakes, hsum, hcut, hsorting⟩ := takeFirst_isCut h.flip n
    (fun a ha => hr a (List.mem_reverse.1 ha)) (fun a ha => hl a (List.mem_reverse.1 ha))
    (List.pairwise_reverse.2 hrs) (List.pairwise_reverse.2 hls)
  have hleft := htakes.le_left
  have hright := htakes.le_right
  simp only [List.length_reverse] at hsum hleft hright
  refine ⟨l.length - i, r.length - j, Nat.sub_le _ _, Nat.sub_le _ _, by omega, ?_, ?_,
    .of_reverse hcut, .reverse ?_⟩
  · rw [takeLast, htakes.left, List.length_drop, List.length_reverse]
  · rw [takeLast, htakes.right, List.length_drop, List.length_reverse]
  · rw [List.reverse_append, ← take_reverse, ← take_reverse, List.reverse_reverse,
      List.reverse_reverse]
    exact hsorting

/-- Merging two lists in order puts all in order. -/
theorem isSorting_merged : IsSorting precedes (l ++ r) (merged precedes l r) := by
  unfold merged
  split
  · exact isSorting_takeFirst h hl hr hls hrs
  · have htaken := isSorting_takeFirst h.flip
      (fun a ha => hr a (List.mem_reverse.1 ha)) (fun a ha => hl a (List.mem_reverse.1 ha))
      (List.pairwise_reverse.2 hrs) (List.pairwise_reverse.2 hls)
    rw [← List.reverse_append, List.length_reverse, List.length_reverse, Nat.add_comm] at htaken
    exact htaken.reverse

omit h hl hr hls hrs in
/-- The element in the middle is the one between two cuts next to each other. -/
theorem Merging.middle_between {m : Merging α} {i j i' j' : Nat} (hm : m.Takes l r i j)
    (isOdd : Bool) (hi : i ≤ i') (hj : j ≤ j') (hil : i' ≤ l.length) (hjr : j' ≤ r.length)
    (hsum : i' + j' = i + j + if isOdd then 1 else 0) :
    (m.middle isOdd (l.length - i')).left = l.drop i' ∧
      (m.middle isOdd (l.length - i')).right = r.drop j' ∧
      (m.middle isOdd (l.length - i')).taken = (l.take i').drop i ++ (r.take j').drop j ∧
      (m.middle isOdd (l.length - i')).taken.length ≤ 1 := by
  have hone (l : List α) (i : Nat) : (l.drop i).take 1 = (l.take (i + 1)).drop i := by
    rw [List.drop_take, Nat.add_sub_cancel_left]
  have hnone (l : List α) (i : Nat) : (l.take i).drop i = [] :=
    List.drop_eq_nil_of_le (List.length_take_le _ _)
  unfold middle
  cases isOdd with
  | false =>
    -- the two walks meet, and nothing is left between them
    obtain ⟨rfl, rfl⟩ : i' = i ∧ j' = j := by simp at hsum; omega
    simp [hm.left, hm.right, hnone]
  | true =>
    simp only [if_true] at hsum ⊢
    rw [hm.left, List.length_drop, hm.right]
    split
    · next hlt =>
      -- the one element between them is of the left part
      obtain ⟨rfl, rfl⟩ : i' = i + 1 ∧ j' = j := by omega
      refine ⟨List.drop_drop, rfl, ?_, List.length_take_le _ _⟩
      rw [hnone, List.append_nil, hone]
    · next hge =>
      -- the one element between them is of the right part
      obtain ⟨rfl, rfl⟩ : i' = i ∧ j' = j + 1 := by omega
      refine ⟨rfl, List.drop_drop, ?_, List.length_take_le _ _⟩
      rw [hnone, List.nil_append, hone]

/-- Merging two lists in order from both ends succeeds and puts all in order. -/
theorem exists_mergedFromEnds? :
    ∃ t, mergedFromEnds? precedes l r = some t ∧ IsSorting precedes (l ++ r) t := by
  obtain ⟨i, j, htakes, hsum, hcut, hfront⟩ :=
    takeFirst_isCut h ((l.length + r.length) / 2) hl hr hls hrs
  obtain ⟨i', j', hi', hj', hsum', hright, hleft, hcut', hback⟩ :=
    takeLast_isCut h hl hr hls hrs ((l.length + r.length) / 2)
  have hi := htakes.le_left
  have hj := htakes.le_right
  -- of two cuts of sorted parts neither can cross the other, so the front walk stops first in both
  have hle : i ≤ i' := by
    by_contra hlt
    exact hcut'.not_cross hcut (by omega) (by omega) hi hj'
  have hle' : j ≤ j' := by
    by_contra hlt
    exact hcut.not_cross hcut' (by omega) (by omega) hi' hj
  obtain ⟨hrestl, hrestr, htaken, hfew⟩ := Merging.middle_between htakes
    ((l.length + r.length) % 2 == 1) hle hle' hi' hj' (by
      split
      · next hodd => rw [beq_iff_eq] at hodd; omega
      · next hodd => rw [beq_iff_eq] at hodd; omega)
  -- at most one element is left between the walks, which is in order as it stands
  have hmiddle : IsSorting precedes ((l.take i').drop i ++ (r.take j').drop j)
      ((l.take i').drop i ++ (r.take j').drop j) := by
    rw [htaken] at hfew
    exact .refl (List.pairwise_iff_getElem.2 fun _ _ _ _ _ => by omega)
  have hbefore : IsSorting precedes (l.take i' ++ r.take j')
      ((takeFirst precedes ((l.length + r.length) / 2) l r).taken ++
        ((l.take i').drop i ++ (r.take j').drop j)) := by
    refine (hcut.take i' j').append h (hls.sublist (List.take_sublist _ _))
      (hrs.sublist (List.take_sublist _ _)) ?_ hmiddle
    rwa [List.take_take, List.take_take, Nat.min_eq_left hle, Nat.min_eq_left hle']
  refine ⟨_, ?_, hcut'.append h hls hrs hbefore hback⟩
  -- both walks end at the same places, so the merge goes through
  dsimp only [mergedFromEnds?]
  rw [hleft, hright, hrestl, hrestr, htaken, List.length_drop, List.length_drop,
    if_pos ⟨rfl, rfl⟩]

end

end LongOrder

end

end AskLedger
