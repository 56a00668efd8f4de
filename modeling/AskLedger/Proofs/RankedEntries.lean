import AskLedger.Proofs.LongSorting
import AskLedger.Question.Ranking

/-!
# Ranked entries

A ranking puts entries in the order of their amounts or their dates, from either end, and takes the
first of them. Entries of equal keys stand in the order that they had, whichever end comes first, so
a shorter ranking is the start of a longer one, and ranking what has been ranked changes nothing.
All this takes keys that can be told apart: dates, or amounts that are numbers. Of other entries
nothing may come, if there are many.

* `RankKey.isBelow_or_isBelow`: keys that are numbers are in a linear order.
* `Ranking.ranked?_of_isKnown`: when something comes of a ranking.
* `Ranking.IsRanked`: all entries in the order of a ranking.
* `sorted_eq_self`: sorting leaves a sorted list as it is.
* `Ranking.apply_isRanked`: what a ranking takes.
-/

namespace AskLedger

/-! ## Keys -/

namespace RankKey

/-- Whether the key of `a` is at most that of `b`. -/
def AtMost (key : RankKey) (a b : Entry) : Prop :=
  match key with
  | .amount => a.amount ≤ b.amount
  | .date => a.date ≤ b.date

/-- Whether two entries have equal keys. The two zeros are equal amounts. -/
def same (key : RankKey) (a b : Entry) : Bool :=
  match key with
  | .amount => a.amount == b.amount
  | .date => a.date == b.date

/-- Whether the key of an entry can be compared: an amount has to be a number. -/
def IsKnown (key : RankKey) (e : Entry) : Prop := key = .amount → e.amount.isNaN = false

variable {key : RankKey} {a b c : Entry}

/-- No entry lies below one that lies below it. -/
theorem not_isBelow_of_isBelow (h : key.isBelow a b = true) : key.isBelow b a = false := by
  cases key with
  | amount =>
    have hlt : a.amount < b.amount := of_decide_eq_true h
    exact decide_eq_false (Amount.not_lt_of_lt hlt)
  | date =>
    have hlt : a.date < b.date := of_decide_eq_true h
    refine decide_eq_false ?_
    simp only [Moment.lt_def] at hlt ⊢
    omega

/-- A key between two others, or outside of them, is above the smaller or below the larger. -/
theorem isBelow_or_isBelow (hb : key.IsKnown b) (h : key.isBelow a c = true) :
    key.isBelow a b = true ∨ key.isBelow b c = true := by
  cases key with
  | amount =>
    have hlt : a.amount < c.amount := of_decide_eq_true h
    exact (Amount.lt_or_lt hlt (hb rfl)).imp (decide_eq_true ·) (decide_eq_true ·)
  | date =>
    have hlt : a.date < c.date := of_decide_eq_true h
    have hor : a.date < b.date ∨ b.date < c.date := by
      simp only [Moment.lt_def] at hlt ⊢
      omega
    exact hor.imp (decide_eq_true ·) (decide_eq_true ·)

/-- Of two amounts that are numbers one is at most the other. -/
theorem atMost_of_not_isBelow (ha : a.amount.isNaN = false) (hb : b.amount.isNaN = false)
    (h : key.isBelow b a = false) : key.AtMost a b := by
  cases key with
  | amount => exact Amount.le_of_not_lt hb ha (of_decide_eq_false h)
  | date =>
    have hnot : ¬b.date < a.date := of_decide_eq_false h
    exact Int.not_lt.1 hnot

/-- Of entries with one key none is below another. -/
theorem not_isBelow_of_same (ha : key.same a c = true) (hb : key.same b c = true) :
    key.isBelow a b = false := by
  cases key with
  | amount => exact decide_eq_false (Amount.not_lt_of_beq ha hb)
  | date =>
    have hdate : a.date = b.date := (beq_iff_eq.1 ha).trans (beq_iff_eq.1 hb).symm
    refine decide_eq_false ?_
    rw [hdate, Moment.lt_def]
    exact Int.lt_irrefl _

end RankKey

/-! ## Sorted lists -/

/-- Sorting leaves a list as it is in which nothing precedes what stands in front of it. -/
theorem sorted_eq_self {α : Type} {precedes : α → α → Bool} {l : List α}
    (h : l.Pairwise fun a b => precedes b a = false) : sorted precedes l = l := by
  -- each element stays behind those before it, the last of which stands first in `done`
  suffices hinto : ∀ done, (done.reverse ++ l).Pairwise (fun a b => precedes b a = false) →
      sortInto precedes done l = done.reverse ++ l from hinto [] h
  clear h
  induction l with
  | nil =>
    intro done _
    rw [sortInto, List.append_nil]
  | cons a l ih =>
    intro done hdone
    have hput : insertFromEnd precedes a done = a :: done := by
      cases done with
      | nil => rfl
      | cons b done =>
        have hba : precedes a b = false :=
          (List.pairwise_append.1 hdone).2.2 b (by simp) a List.mem_cons_self
        rw [insertFromEnd, if_neg (by simp [hba])]
    have hsplit : done.reverse ++ a :: l = (a :: done).reverse ++ l := by simp
    rw [sortInto, hput, ih _ (hsplit ▸ hdone), hsplit]

/-! ## Rankings -/

namespace Ranking

/-- Whether `a` may stand in front of `b`. -/
def InOrder (r : Ranking) (a b : Entry) : Prop :=
  match r.order with
  | .ascending => r.key.AtMost a b
  | .descending => r.key.AtMost b a

/-- `full` has some entries in the order of a ranking, those of equal keys in the order that they
had. -/
structure IsRanked (r : Ranking) (entries full : List Entry) : Prop where
  /-- No entry is lost or invented. -/
  perm : full.Perm entries
  /-- The keys grow or fall, as the ranking has it. -/
  inOrder : full.Pairwise r.InOrder
  /-- Entries of equal keys keep their order. -/
  stable : ∀ x, full.filter (fun e => r.key.same e x) = entries.filter (fun e => r.key.same e x)

variable {r : Ranking} {a b c : Entry}

/-- No entry precedes one that precedes it. -/
theorem not_precedes_of_precedes (h : r.precedes a b = true) : r.precedes b a = false := by
  unfold precedes at h ⊢
  cases horder : r.order with
  | ascending | descending =>
    rw [horder] at h
    exact RankKey.not_isBelow_of_isBelow h

/-- To be preceded by neither of two entries carries over from one to the next. -/
theorem not_precedes_trans (hb : r.key.IsKnown b) (hab : r.precedes a b = false)
    (hbc : r.precedes b c = false) : r.precedes a c = false := by
  unfold precedes at hab hbc ⊢
  cases horder : r.order with
  | ascending =>
    rw [horder] at hab hbc
    refine Bool.eq_false_iff.2 fun hac => ?_
    rcases RankKey.isBelow_or_isBelow hb hac with h | h
    · exact Bool.eq_false_iff.1 hab h
    · exact Bool.eq_false_iff.1 hbc h
  | descending =>
    rw [horder] at hab hbc
    refine Bool.eq_false_iff.2 fun hca => ?_
    rcases RankKey.isBelow_or_isBelow hb hca with h | h
    · exact Bool.eq_false_iff.1 hbc h
    · exact Bool.eq_false_iff.1 hab h

/-- A ranking orders entries whose keys can be compared. -/
theorem isOrderOn (r : Ranking) : IsOrderOn r.precedes r.key.IsKnown :=
  ⟨not_precedes_of_precedes, not_precedes_trans⟩

/-- Entries whose keys can be compared are put in order, however many there are. -/
theorem ranked?_of_isKnown {entries : List Entry} (h : ∀ e ∈ entries, r.key.IsKnown e) :
    r.ranked? entries = some ((sorted r.precedes entries).take r.limit) := by
  rw [ranked?, sorted?_eq_sorted r.isOrderOn h, Option.map_some]

/-- Where all keys are known, the first of the sorted entries are taken. -/
theorem apply_of_isKnown {entries : List Entry} (h : ∀ e ∈ entries, r.key.IsKnown e) :
    r.apply entries = (sorted r.precedes entries).take r.limit :=
  apply_of_ranked? (ranked?_of_isKnown h)

/-- If nothing comes of a ranking, it is one of more than twenty amounts of which some is not a
number. -/
theorem of_ranked?_eq_none {entries : List Entry} (h : r.ranked? entries = none) :
    r.key = .amount ∧ 20 < entries.length ∧ ∃ e ∈ entries, e.amount.isNaN = true := by
  have hlong : 20 < entries.length := by
    by_contra hshort
    rw [ranked?_of_length_le (Nat.not_lt.1 hshort)] at h
    cases h
  have hunknown : ¬ ∀ e ∈ entries, r.key.IsKnown e := by
    intro hknown
    rw [ranked?_of_isKnown hknown] at h
    cases h
  simp only [RankKey.IsKnown, not_forall, Bool.not_eq_false] at hunknown
  obtain ⟨e, he, hkey, hnan⟩ := hunknown
  exact ⟨hkey, hlong, e, he, hnan⟩

/-- Entries are in order if the later one does not precede the earlier one. -/
theorem inOrder_of_not_precedes (ha : a.amount.isNaN = false) (hb : b.amount.isNaN = false)
    (h : r.precedes b a = false) : r.InOrder a b := by
  unfold precedes at h
  unfold InOrder
  cases horder : r.order with
  | ascending =>
    rw [horder] at h
    exact RankKey.atMost_of_not_isBelow ha hb h
  | descending =>
    rw [horder] at h
    exact RankKey.atMost_of_not_isBelow hb ha h

/-- Entries with the same key do not precede each other. -/
theorem not_precedes_of_same (ha : r.key.same a c = true) (hb : r.key.same b c = true) :
    r.precedes a b = false := by
  unfold precedes
  cases r.order with
  | ascending => exact RankKey.not_isBelow_of_same ha hb
  | descending => exact RankKey.not_isBelow_of_same hb ha

section
variable {entries : List Entry} (h : ∀ e ∈ entries, e.amount.isNaN = false)
include h

/-- Nothing in the order of a ranking precedes what stands in front of it. -/
theorem pairwise_sorted_precedes :
    (sorted r.precedes entries).Pairwise fun a b => r.precedes b a = false :=
  pairwise_sorted (fun _ _ => not_precedes_of_precedes)
    fun b hb _ _ hab hbc => not_precedes_trans (fun _ => h b hb) hab hbc

/-- Sorted entries are ranked. -/
theorem isRanked_sorted : r.IsRanked entries (sorted r.precedes entries) where
  perm := sorted_perm r.precedes entries
  inOrder := (pairwise_sorted_precedes h).imp_of_mem fun ha hb hba =>
    inOrder_of_not_precedes (h _ (mem_sorted.1 ha)) (h _ (mem_sorted.1 hb)) hba
  stable _ := filter_sorted (fun _ _ => not_precedes_of_same) entries

end

/-- Let the amounts of some entries all be numbers. A ranking succeeds and takes the first of them
in its order, as many as it may, and none that is left out goes strictly before one that is taken.
With a smaller limit it takes the start of what it takes with a larger one, and of what it has taken
it takes all, as it stands. -/
theorem apply_isRanked (r : Ranking) {entries : List Entry}
    (h : ∀ e ∈ entries, e.amount.isNaN = false) :
    ∃ full, r.IsRanked entries full ∧
      r.ranked? entries = some (r.apply entries) ∧
      r.apply entries = full.take (min r.limit entries.length) ∧
      (∀ taken ∈ full.take r.limit, ∀ left ∈ full.drop r.limit, r.precedes left taken = false) ∧
      (∀ fewer ≤ r.limit, apply { r with limit := fewer } entries <+: r.apply entries) ∧
      r.apply (r.apply entries) = r.apply entries := by
  have hknown : ∀ e ∈ entries, r.key.IsKnown e := fun e he _ => h e he
  have happly : r.apply entries = (sorted r.precedes entries).take r.limit :=
    apply_of_isKnown hknown
  have hpairwise := pairwise_sorted_precedes (r := r) h
  refine ⟨sorted r.precedes entries, isRanked_sorted h, ?_, ?_, ?_, ?_, ?_⟩
  · rw [ranked?_of_isKnown hknown, happly]
  · rw [happly, ← length_sorted r.precedes entries, List.take_eq_take_min]
  · rw [← List.take_append_drop r.limit (sorted r.precedes entries)] at hpairwise
    exact (List.pairwise_append.1 hpairwise).2.2
  · -- the order does not depend on the limit
    intro fewer hle
    have hfewer : apply { r with limit := fewer } entries = (sorted r.precedes entries).take fewer :=
      apply_of_isKnown hknown
    rw [happly, hfewer]
    exact List.take_prefix_take_left hle
  · have htaken : (r.apply entries).Pairwise fun a b => r.precedes b a = false :=
      happly ▸ hpairwise.sublist (List.take_sublist _ _)
    have hlength : (r.apply entries).length ≤ r.limit := by
      rw [length_apply]
      exact Nat.min_le_left _ _
    rw [apply_of_isKnown fun e he => hknown e (mem_of_mem_apply he), sorted_eq_self htaken,
      List.take_of_length_le hlength]

/-- A free coffee, a refund of minus nothing and a rent, in this order. -/
def twoZeros : List Entry :=
  [⟨"coffee", .startOf ⟨2025, 8, 1, by decide⟩, none, none, 0.0, .expense, false, none, none⟩,
    ⟨"refund", .startOf ⟨2025, 8, 1, by decide⟩, none, none, -0.0, .income, false, none, none⟩,
    ⟨"rent", .startOf ⟨2025, 8, 2, by decide⟩, none, none, 900.0, .expense, false, none, none⟩]

/-- The coffee stays in front of the refund, from the smallest amount on as from the largest. -/
theorem twoZeros_keep_their_order :
    (∀ e ∈ twoZeros, e.amount.isNaN = false) ∧
      (apply ⟨.amount, .ascending, 2⟩ twoZeros).map (·.id) = ["coffee", "refund"] ∧
      (apply ⟨.amount, .descending, 3⟩ twoZeros).map (·.id) = ["rent", "coffee", "refund"] ∧
      ∃ full, IsRanked ⟨.amount, .descending, 2⟩ twoZeros full ∧
        apply ⟨.amount, .descending, 2⟩ twoZeros = full.take 2 ∧
        apply ⟨.amount, .descending, 1⟩ twoZeros <+: apply ⟨.amount, .descending, 2⟩ twoZeros := by
  have hnumbers : ∀ e ∈ twoZeros, e.amount.isNaN = false := by decide
  obtain ⟨full, hfull, -, htaken, -, hfewer, -⟩ :=
    apply_isRanked ⟨.amount, .descending, 2⟩ hnumbers
  exact ⟨hnumbers, by decide, by decide, full, hfull, htaken, hfewer 1 (by decide)⟩

end Ranking

/-! ## Entries by amount -/

/-- `full` has some entries in the order of their amounts, the largest first and those of equal
amounts in the order that they had. -/
structure Entry.IsByAmount (entries full : List Entry) : Prop where
  /-- No entry is lost or invented. -/
  perm : full.Perm entries
  /-- No amount is larger than one in front of it. -/
  descending : full.Pairwise fun a b => b.amount ≤ a.amount
  /-- Entries of equal amounts keep their order. -/
  stable : ∀ x : Float,
    full.filter (fun e => e.amount == x) = entries.filter (fun e => e.amount == x)

/-- A ranking of the largest amounts takes the first entries by amount. -/
theorem Ranking.ranked?_byAmount {entries : List Entry} (limit : Nat)
    (h : ∀ e ∈ entries, e.amount.isNaN = false) :
    ∃ full, Entry.IsByAmount entries full ∧
      ranked? ⟨.amount, .descending, limit⟩ entries = some (full.take limit) := by
  let r : Ranking := ⟨.amount, .descending, limit⟩
  have hranked : r.IsRanked entries (sorted r.precedes entries) := isRanked_sorted h
  refine ⟨sorted r.precedes entries, ⟨hranked.perm, hranked.inOrder, fun x => ?_⟩,
    ranked?_of_isKnown fun e he _ => h e he⟩
  apply filter_sorted
  intro a b ha hb
  exact decide_eq_false (Amount.not_lt_of_beq hb ha)

end AskLedger
