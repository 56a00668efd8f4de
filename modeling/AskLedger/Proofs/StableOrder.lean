import AskLedger.Question.Ranking

/-!
# Order of amounts and stable sorting

Numbers of double precision are ordered by where they lie: minus infinity, the negative numbers,
zero, the positive numbers, infinity. Among the numbers of one sign the exponent counts first and
then the mantissa. What is not a number lies nowhere and compares with nothing.

Sorting by insertion is stable for every order: elements of which none precedes another keep their
order. That nothing stands in front of what precedes it takes an order like that of numbers.

* `Amount.lt_or_lt`, `Amount.not_lt_of_le_of_le`, `Amount.le_of_not_lt`: the order of numbers.
* `pairwise_sorted`: nothing in a sorted list precedes what stands in front of it.
* `filter_sorted`: sorting keeps the order of elements that do not precede each other.
* `sorted_map`: what has no part in the order may be changed before the sorting or after it.
* `Entry.isNewestFirst_iff`: there is one way to put entries by date that keeps the order of those
  of one moment.
-/

namespace AskLedger

/-! ## Numbers -/

namespace Amount

open Float.Model (UnpackedFloat)

/-- Where a number lies: its sign and kind first, then its exponent, then its mantissa. -/
structure Position where
  /-- From minus infinity to infinity, in five steps. -/
  level : Int
  /-- The exponent, growing with the number. -/
  exponent : Int
  /-- The mantissa, growing with the number. -/
  mantissa : Int

/-- Where a number lies; what is not a number is put nowhere in particular. -/
def position : UnpackedFloat → Position
  | .infinity .negative => ⟨-2, 0, 0⟩
  | .finite .negative m e _ => ⟨-1, -e, -m⟩
  | .zero _ => ⟨0, 0, 0⟩
  | .finite .positive m e _ => ⟨1, e, m⟩
  | .infinity .positive => ⟨2, 0, 0⟩
  | .notANumber => ⟨0, 0, 0⟩

/-- How two positions compare. -/
def Position.order (p q : Position) : Ordering :=
  (compare p.level q.level).then
    ((compare p.exponent q.exponent).then (compare p.mantissa q.mantissa))

/-- A position comes earlier by its level, then its exponent, then its mantissa. -/
theorem Position.order_eq_lt {p q : Position} :
    p.order q = .lt ↔ p.level < q.level ∨ p.level = q.level ∧
      (p.exponent < q.exponent ∨ p.exponent = q.exponent ∧ p.mantissa < q.mantissa) := by
  simp only [order, Ordering.then_eq_lt, Int.compare_eq_lt, Int.compare_eq_eq]

theorem Position.order_eq_eq {p q : Position} :
    p.order q = .eq ↔ p.level = q.level ∧ p.exponent = q.exponent ∧ p.mantissa = q.mantissa := by
  simp only [order, Ordering.then_eq_eq, Int.compare_eq_eq]

/-- Positions are compared the other way round. -/
theorem Position.order_swap (p q : Position) : (p.order q).swap = q.order p := by
  simp only [order, Ordering.swap_then, Int.compare_swap]

theorem compare_neg (a b : Int) : compare (-a) (-b) = (compare a b).swap := by
  rw [Int.compare_swap]
  rcases Int.lt_trichotomy a b with h | rfl | h
  · rw [Int.compare_eq_gt.2 h, Int.compare_eq_gt.2 (Int.neg_lt_neg h)]
  · rw [Int.compare_eq_eq.2 rfl, Int.compare_eq_eq.2 rfl]
  · rw [Int.compare_eq_lt.2 h, Int.compare_eq_lt.2 (Int.neg_lt_neg h)]

theorem compare_natCast (m n : Nat) : compare (m : Int) (n : Int) = compare m n := by
  rcases Nat.lt_trichotomy m n with h | rfl | h
  · rw [Int.compare_eq_lt.2 (Int.ofNat_lt.2 h), Nat.compare_eq_lt.2 h]
  · rw [Int.compare_eq_eq.2 rfl, Nat.compare_eq_eq.2 rfl]
  · rw [Int.compare_eq_gt.2 (Int.ofNat_lt.2 h), Nat.compare_eq_gt.2 h]

/-- Numbers compare as their positions do. -/
theorem compare_eq_order {u v : UnpackedFloat} (hu : u.isNaN = false) (hv : v.isNaN = false) :
    u.compare v = some ((position u).order (position v)) := by
  -- the kinds decide, except between two numbers other than zero of one sign
  cases u with
  | notANumber => cases hu
  | infinity s =>
    cases v with
    | notANumber => cases hv
    | infinity t => cases s <;> cases t <;> rfl
    | zero t => cases s <;> rfl
    | finite t => cases s <;> cases t <;> rfl
  | zero s =>
    cases v with
    | notANumber => cases hv
    | infinity t => cases t <;> rfl
    | zero t => rfl
    | finite t => cases t <;> rfl
  | finite s m e =>
    cases v with
    | notANumber => cases hv
    | infinity t => cases s <;> cases t <;> rfl
    | zero t => cases s <;> rfl
    | finite t m' e' =>
      cases s with
      | negative =>
        cases t with
        | negative =>
          change some ((compare e e').then (compare m m')).swap = some
            ((compare (-1 : Int) (-1)).then
              ((compare (-e) (-e')).then (compare (-m : Int) (-m'))))
          rw [Ordering.swap_then, compare_neg e e', compare_neg m m', compare_natCast]
          rfl
        | positive => rfl
      | positive =>
        cases t with
        | negative => rfl
        | positive =>
          change some ((compare e e').then (compare m m')) = some
            ((compare (1 : Int) 1).then ((compare e e').then (compare (m : Int) m')))
          rw [compare_natCast]
          rfl

/-- What is no number compares with nothing. -/
theorem compare_of_isNaN {u v : UnpackedFloat} (h : u.isNaN = true ∨ v.isNaN = true) :
    u.compare v = none := by
  rcases h with h | h
  · cases u with
    | notANumber => rfl
    | infinity | zero | finite => cases h
  · cases v with
    | notANumber => cases u <;> rfl
    | infinity | zero | finite => cases h

variable {a b x : Float}

/-- Where a number of double precision lies. -/
def place (x : Float) : Position := position x.toModel.unpack

/-- Numbers are ordered by their positions. -/
theorem lt_iff : a < b ↔ a.isNaN = false ∧ b.isNaN = false ∧ (place a).order (place b) = .lt := by
  have hdef : a < b ↔ a.toModel.unpack.compare b.toModel.unpack = some .lt := by
    change decide (a.toModel.lt b.toModel = true) = true ↔ _
    simp [Float.Model.lt, UnpackedFloat.lt]
  rw [hdef]
  cases ha : a.isNaN with
  | true => simp [compare_of_isNaN (.inl ha)]
  | false =>
    cases hb : b.isNaN with
    | true => simp [compare_of_isNaN (.inr hb)]
    | false => simp [compare_eq_order ha hb, place]

/-- One number is at most another if the other is not in front of it. -/
theorem le_iff : a ≤ b ↔ a.isNaN = false ∧ b.isNaN = false ∧ (place b).order (place a) ≠ .lt := by
  have hdef : a ≤ b ↔ (a.toModel.unpack.compare b.toModel.unpack).any (·.isLE) = true := by
    change decide (a.toModel.le b.toModel = true) = true ↔ _
    rw [decide_eq_true_iff]
    exact Iff.rfl
  rw [hdef]
  cases ha : a.isNaN with
  | true => simp [compare_of_isNaN (.inl ha)]
  | false =>
    cases hb : b.isNaN with
    | true => simp [compare_of_isNaN (.inr hb)]
    | false =>
      rw [compare_eq_order ha hb, ← Position.order_swap]
      change Option.any _ (some ((place b).order (place a)).swap) = true ↔ _
      cases (place b).order (place a) <;> simp

/-- Numbers are equal if their positions are. -/
theorem beq_iff : (a == b) = true ↔
    a.isNaN = false ∧ b.isNaN = false ∧ (place a).order (place b) = .eq := by
  have hdef : (a == b) = (a.toModel.unpack.compare b.toModel.unpack == some .eq) := rfl
  rw [hdef, beq_iff_eq]
  cases ha : a.isNaN with
  | true => simp [compare_of_isNaN (.inl ha)]
  | false =>
    cases hb : b.isNaN with
    | true => simp [compare_of_isNaN (.inr hb)]
    | false => simp [compare_eq_order ha hb, place]

theorem not_lt_of_lt (h : a < b) : ¬b < a := by
  simp only [lt_iff, Position.order_eq_lt] at h ⊢
  omega

/-- A number between two others, or outside of them, is above the smaller or below the larger. -/
theorem lt_or_lt (h : a < b) (hx : x.isNaN = false) : a < x ∨ x < b := by
  simp only [lt_iff, Position.order_eq_lt] at h ⊢
  simp only [h.1, h.2.1, hx, true_and]
  -- three positions of three integers each, compared one after another
  omega

/-- Of two numbers one is at most the other. -/
theorem le_of_not_lt (ha : a.isNaN = false) (hb : b.isNaN = false) (h : ¬a < b) : b ≤ a := by
  simp only [lt_iff, le_iff, ha, hb, true_and] at h ⊢
  exact h

/-- Two numbers with another between them are in order. -/
theorem not_lt_of_le_of_le (ha : a ≤ x) (hb : x ≤ b) : ¬b < a := by
  simp only [lt_iff, le_iff, Ne, Position.order_eq_lt] at ha hb ⊢
  omega

theorem not_lt_of_beq (ha : (a == x) = true) (hb : (b == x) = true) : ¬a < b := by
  simp only [lt_iff, beq_iff, Position.order_eq_lt, Position.order_eq_eq] at ha hb ⊢
  omega

end Amount

/-! ## Sorting -/

section
variable {α : Type} {precedes : α → α → Bool}

/-- Among elements that do not precede each other, a new one is put last. -/
theorem filter_insertFromEnd {p : α → Bool} {a : α} {l : List α}
    (h : ∀ a b, p a = true → p b = true → precedes a b = false) :
    (insertFromEnd precedes a l).filter p = (a :: l).filter p := by
  induction l with
  | nil => rfl
  | cons b rest ih =>
    rw [insertFromEnd]
    split
    · next hab =>
      rw [List.filter_cons, ih]
      cases hpa : p a with
      | false => simp [hpa, List.filter_cons]
      | true =>
        cases hpb : p b with
        | false => simp [hpa, hpb]
        | true =>
          rw [h a b hpa hpb] at hab
          cases hab
    · rfl

/-- Sorting into what is in order already keeps the order of elements that do not precede each
other. -/
theorem filter_sortInto {p : α → Bool} (h : ∀ a b, p a = true → p b = true → precedes a b = false)
    (done l : List α) : (sortInto precedes done l).filter p = (done.reverse ++ l).filter p := by
  -- what is in order already is kept with its last element first
  induction l generalizing done with
  | nil => simp [sortInto]
  | cons a rest ih =>
    rw [sortInto, ih, List.filter_append, List.filter_reverse, filter_insertFromEnd h,
      ← List.filter_reverse, ← List.filter_append]
    simp

/-- Sorting keeps the order of elements that do not precede each other. -/
theorem filter_sorted {p : α → Bool} (h : ∀ a b, p a = true → p b = true → precedes a b = false)
    (l : List α) : (sorted precedes l).filter p = l.filter p :=
  filter_sortInto h [] l

/-- Putting an element in front of what it precedes keeps a list in order. -/
theorem pairwise_insertFromEnd {a : α} {l : List α}
    (hasymm : ∀ a b, precedes a b = true → precedes b a = false)
    (htrans : ∀ b ∈ l, ∀ a c, precedes a b = false → precedes b c = false → precedes a c = false)
    (hl : l.Pairwise fun x y => precedes x y = false) :
    (insertFromEnd precedes a l).Pairwise fun x y => precedes x y = false := by
  induction l with
  | nil => exact List.pairwise_singleton _ a
  | cons b rest ih =>
    obtain ⟨hb, hrest⟩ := List.pairwise_cons.1 hl
    obtain ⟨hbtrans, htrans⟩ := List.forall_mem_cons.1 htrans
    rw [insertFromEnd]
    split
    · next hab =>
      -- what precedes `b` goes behind it, since the last element stands first
      refine List.pairwise_cons.2 ⟨?_, ih htrans hrest⟩
      intro c hc
      rcases List.mem_cons.1 ((insertFromEnd_perm precedes a rest).mem_iff.1 hc) with rfl | hc
      · exact hasymm c b hab
      · exact hb c hc
    · next hab =>
      -- `a` stops here, and what `b` does not precede, `a` does not precede either
      have hab : precedes a b = false := by simpa using hab
      refine List.pairwise_cons.2 ⟨?_, hl⟩
      exact List.forall_mem_cons.2 ⟨hab, fun c hc => hbtrans a c hab (hb c hc)⟩

/-- Sorting into what is in order already puts all in order. -/
theorem pairwise_sortInto {done l : List α}
    (hasymm : ∀ a b, precedes a b = true → precedes b a = false)
    (htrans : ∀ b ∈ done ++ l, ∀ a c,
      precedes a b = false → precedes b c = false → precedes a c = false)
    (hdone : done.Pairwise fun x y => precedes x y = false) :
    (sortInto precedes done l).Pairwise fun x y => precedes y x = false := by
  induction l generalizing done with
  | nil => exact List.pairwise_reverse.2 hdone
  | cons a rest ih =>
    have hmem : ∀ b ∈ done, b ∈ done ++ a :: rest := fun b => List.mem_append_left _
    refine ih (fun b hb => htrans b ?_)
      (pairwise_insertFromEnd hasymm (fun b hb => htrans b (hmem b hb)) hdone)
    simpa [(insertFromEnd_perm precedes a done).mem_iff, or_assoc, or_left_comm] using hb

/-- Nothing in a sorted list precedes what stands in front of it, if to be preceded by neither of
two elements carries over from one to the next. -/
theorem pairwise_sorted {l : List α} (hasymm : ∀ a b, precedes a b = true → precedes b a = false)
    (htrans : ∀ b ∈ l, ∀ a c, precedes a b = false → precedes b c = false → precedes a c = false) :
    (sorted precedes l).Pairwise fun x y => precedes y x = false :=
  pairwise_sortInto hasymm htrans List.Pairwise.nil

end

/-! ## Sorting images -/

section
variable {α β : Type} {f : α → β} {precedes : α → α → Bool} {precedes' : β → β → Bool}
  (h : ∀ a b, precedes' (f a) (f b) = precedes a b)
include h

/-- An insertion commutes with a map that keeps the order. -/
theorem insertFromEnd_map (a : α) (l : List α) :
    insertFromEnd precedes' (f a) (l.map f) = (insertFromEnd precedes a l).map f := by
  induction l with
  | nil => rfl
  | cons b l ih =>
    rw [List.map_cons, insertFromEnd, insertFromEnd, h, ih]
    split <;> rfl

/-- What has no part in the order may be changed before the sorting or after it. -/
theorem sorted_map (l : List α) : sorted precedes' (l.map f) = (sorted precedes l).map f := by
  suffices hinto : ∀ done, sortInto precedes' (done.map f) (l.map f) =
      (sortInto precedes done l).map f from hinto []
  induction l with
  | nil =>
    intro done
    exact (List.map_reverse).symm
  | cons a l ih =>
    intro done
    rw [List.map_cons, sortInto, sortInto, insertFromEnd_map h, ih]

end

/-! ## Entries by date -/

namespace Entry

/-- `full` has some entries in the order of their dates, the newest first and those of one moment in
the order that they had. -/
structure IsNewestFirst (entries full : List Entry) : Prop where
  /-- No entry is lost or invented. -/
  perm : full.Perm entries
  /-- No entry is newer than one in front of it. -/
  descending : full.Pairwise fun a b => b.date ≤ a.date
  /-- Entries of one moment keep their order. -/
  stable : ∀ m : Moment, full.filter (·.date = m) = entries.filter (·.date = m)

/-- The newest first order is one. -/
theorem isNewestFirst_newestFirst (entries : List Entry) :
    IsNewestFirst entries (newestFirst entries) where
  perm := newestFirst_perm entries
  descending := by
    have hsorted : (newestFirst entries).Pairwise fun a b => isNewer b a = false := by
      apply pairwise_sorted
      · intro a b
        simp only [isNewer, Moment.lt_def, decide_eq_true_iff, decide_eq_false_iff_not]
        omega
      · intro b _ a c
        simp only [isNewer, Moment.lt_def, decide_eq_false_iff_not]
        omega
    refine hsorted.imp fun {a b} h => ?_
    simp only [isNewer, Moment.lt_def, decide_eq_false_iff_not] at h
    simp only [Moment.le_def]
    omega
  stable m := by
    apply filter_sorted
    intro a b ha hb
    -- of two entries of one moment neither is newer, so they keep their order
    have hdate : a.date = b.date := (of_decide_eq_true ha).trans (of_decide_eq_true hb).symm
    simp [isNewer, Moment.lt_def, hdate]

/-- An entry of a list is found among those of its moment. -/
theorem mem_iff_of_filter_date {l l' : List Entry} {e : Entry}
    (h : ∀ m : Moment, l.filter (·.date = m) = l'.filter (·.date = m)) : e ∈ l ↔ e ∈ l' := by
  have hfilter : e ∈ l.filter (·.date = e.date) ↔ e ∈ l'.filter (·.date = e.date) := by
    rw [h e.date]
  simpa using hfilter

/-- Lists with the newest first are the same if they have the same entries of each moment
in the same order. -/
theorem eq_of_filter_date {l l' : List Entry} (hl : l.Pairwise fun a b => b.date ≤ a.date)
    (hl' : l'.Pairwise fun a b => b.date ≤ a.date)
    (h : ∀ m : Moment, l.filter (·.date = m) = l'.filter (·.date = m)) : l = l' := by
  induction l generalizing l' with
  | nil =>
    refine (List.eq_nil_iff_forall_not_mem.2 fun e he => ?_).symm
    exact List.not_mem_nil ((mem_iff_of_filter_date h).2 he)
  | cons a l ih =>
    cases l' with
    | nil => exact absurd ((mem_iff_of_filter_date h).1 List.mem_cons_self) List.not_mem_nil
    | cons b l' =>
      obtain ⟨ha, htail⟩ := List.pairwise_cons.1 hl
      obtain ⟨hb, htail'⟩ := List.pairwise_cons.1 hl'
      -- both are the newest, so they are of one moment and the first ones of it
      have hba : b.date ≤ a.date := by
        rcases List.mem_cons.1 ((mem_iff_of_filter_date h).2 List.mem_cons_self) with rfl | hmem
        · exact Int.le_refl _
        · exact ha b hmem
      have hab : a.date ≤ b.date := by
        rcases List.mem_cons.1 ((mem_iff_of_filter_date h).1 List.mem_cons_self) with rfl | hmem
        · exact Int.le_refl _
        · exact hb a hmem
      have hdate : a.date = b.date := Moment.ext_serial (Int.le_antisymm hab hba)
      have hfirst := h a.date
      simp only [List.filter_cons, decide_true, if_true, hdate] at hfirst
      obtain rfl : a = b := (List.cons.inj hfirst).1
      have hrest : ∀ m : Moment, l.filter (·.date = m) = l'.filter (·.date = m) := by
        intro m
        have hm := h m
        simp only [List.filter_cons] at hm
        split at hm
        · exact (List.cons.inj hm).2
        · exact hm
      rw [ih htail htail' hrest]

/-- There is one way to put the newest first that keeps the order of entries of one moment. -/
theorem isNewestFirst_iff {entries full : List Entry} :
    IsNewestFirst entries full ↔ full = newestFirst entries := by
  have hsorted := isNewestFirst_newestFirst entries
  constructor
  · intro h
    refine eq_of_filter_date h.descending hsorted.descending fun m => ?_
    rw [h.stable, hsorted.stable]
  · rintro rfl
    exact hsorted

end Entry

end AskLedger
