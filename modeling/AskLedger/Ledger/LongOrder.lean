import AskLedger.Ledger.Order

/-!
# Sorting long lists

A list of more than twenty elements is not sorted by insertion alone. It is cut into runs: stretches
that are in order already, and others that are put in order later on. Runs are merged with their
neighbours, in pairs that the positions of the runs decide. A run of at most 32 elements is sorted
in two halves, a longer one around a pivot.

All this keeps the order of elements of which neither precedes the other, as long as `precedes` is
an order. If it is not, because some element is preceded by nothing and precedes nothing whatever
its place, the two halves of a short run may not fit together, and nothing comes of the sorting.

* `LongOrder.short?_perm`, `LongOrder.byRuns?_perm`, `LongOrder.byPivots?_perm`: short runs, all
  runs and what stands around a pivot keep their elements.
* `sorted?_perm`: sorting rearranges a list, if anything comes of it.
-/

namespace AskLedger

namespace LongOrder

variable {α : Type} (precedes : α → α → Bool)

/-! ## Merging -/

/-- Two lists some elements of which have been taken. -/
structure Merging (α : Type) where
  /-- The elements that have been taken, the first one first. -/
  taken : List α
  /-- What is left of the first list. -/
  left : List α
  /-- What is left of the second list. -/
  right : List α

/-- Takes `n` elements from the fronts of two lists, from the second one where its first element
precedes that of the first one. -/
def takeFirst : Nat → List α → List α → Merging α
  | 0, l, r => ⟨[], l, r⟩
  | n + 1, [], r => ⟨r.take (n + 1), [], r.drop (n + 1)⟩
  | n + 1, a :: l, [] => ⟨(a :: l).take (n + 1), (a :: l).drop (n + 1), []⟩
  | n + 1, a :: l, b :: r =>
    if precedes b a then
      let m := takeFirst n (a :: l) r
      { m with taken := b :: m.taken }
    else
      let m := takeFirst n l (b :: r)
      { m with taken := a :: m.taken }

/-- The same from the ends of the lists; the lists of the result stand back to front, and so do the
two lists. -/
def takeLast (n : Nat) (l r : List α) : Merging α :=
  takeFirst (fun a b => precedes b a) n r.reverse l.reverse

/-- Two lists merged, from their fronts if the first one is not the longer one. -/
def merged (l r : List α) : List α :=
  if l.length ≤ r.length then (takeFirst precedes (l.length + r.length) l r).taken
  else (takeLast precedes (l.length + r.length) l r).taken.reverse

/-- The element in the middle of two lists that have been taken from equally often at both ends, if
their lengths add up to an odd number: one of the first list if that has more left than has been
taken of it at the end. -/
def Merging.middle (m : Merging α) (isOdd : Bool) (takenOfLeft : Nat) : Merging α :=
  if isOdd then
    if takenOfLeft < m.left.length then ⟨m.left.take 1, m.left.drop 1, m.right⟩
    else ⟨m.right.take 1, m.left, m.right.drop 1⟩
  else ⟨[], m.left, m.right⟩

/-- Two lists, of which the second one may be longer by one, merged from both ends at once. Nothing
comes of it if the ends do not meet: if what is left of a list at the front is not what has been
taken of it at the end. -/
def mergedFromEnds? (l r : List α) : Option (List α) :=
  let n := (l.length + r.length) / 2
  let front := takeFirst precedes n l r
  let back := takeLast precedes n l r
  let takenOfLeft := l.length - back.right.length
  let takenOfRight := r.length - back.left.length
  let rest := front.middle ((l.length + r.length) % 2 == 1) takenOfLeft
  if rest.left.length = takenOfLeft ∧ rest.right.length = takenOfRight then
    some (front.taken ++ rest.taken ++ back.taken.reverse)
  else none

/-! ## Short runs -/

/-- Two elements in order. -/
def two (a b : α) : List α := if precedes b a then [b, a] else [a, b]

/-- Two pairs that are in order, merged by comparing their first and their last elements. -/
def pairs : List α → List α → List α
  | [a, b], [c, d] =>
    match precedes c a, precedes d b with
    | false, false => a :: two precedes b c ++ [d]
    | false, true => a :: two precedes c d ++ [b]
    | true, false => c :: two precedes a b ++ [d]
    | true, true => c :: two precedes a d ++ [b]
  | l, r => l ++ r

/-- Four elements in order; other lists stay as they are. -/
def four : List α → List α
  | [a, b, c, d] => pairs precedes (two precedes a b) (two precedes c d)
  | l => l

/-- One half of a run of `n` elements in order: its first eight, four or one elements, as many as
both halves have, and then the others by insertion. -/
def half? (n : Nat) (l : List α) : Option (List α) :=
  if 16 ≤ n then do
    let first ← mergedFromEnds? precedes (four precedes (l.take 4)) (four precedes ((l.drop 4).take 4))
    return sortInto precedes first.reverse (l.drop 8)
  else if 8 ≤ n then some (sortInto precedes (four precedes (l.take 4)).reverse (l.drop 4))
  else some (sorted precedes l)

/-- A short run in order. -/
def short? (l : List α) : Option (List α) :=
  if l.length < 2 then some l
  else do
    let a ← half? precedes l.length (l.take (l.length / 2))
    let b ← half? precedes l.length (l.drop (l.length / 2))
    mergedFromEnds? precedes a b

/-! ## Runs -/

/-- A stretch of a list that is in order, or to be put in order later on. -/
structure Run (α : Type) where
  /-- Its elements. -/
  elements : List α
  /-- Whether they are in order. -/
  isSorted : Bool

/-- How many elements go on from `a`, each one from the one in front of it. -/
def stretch (goesOn : α → α → Bool) (a : α) : List α → Nat
  | [] => 0
  | b :: rest => if goesOn a b then stretch goesOn b rest + 1 else 0

/-- The elements at the front of a list that are in order, or in order back to front. -/
def orderedFront : List α → List α × Bool
  | [] => ([], false)
  | [a] => ([a], false)
  | a :: b :: rest =>
    if precedes b a then
      (a :: (b :: rest).take (stretch (fun x y => precedes y x) a (b :: rest)), true)
    else (a :: (b :: rest).take (stretch (fun x y => !precedes y x) a (b :: rest)), false)

/-- The next run of a list: a stretch in order if it has at least `least` elements, and otherwise
elements that are put in order at once or left as they are. -/
def nextRun? (least : Nat) (atOnce : Bool) (l : List α) : Option (Run α) :=
  let (front, isReversed) := orderedFront precedes l
  if least ≤ front.length then some ⟨if isReversed then front.reverse else front, true⟩
  else if atOnce then (short? precedes (l.take 32)).map (⟨·, true⟩)
  else some ⟨l.take least, false⟩

/-- The runs of a list, from its front on. -/
def runs? (least : Nat) (atOnce : Bool) : List α → Option (List (Run α))
  | [] => some []
  | a :: l => do
    let run ← nextRun? precedes least atOnce (a :: l)
    return run :: (← runs? least atOnce (l.drop (run.elements.length - 1)))
  termination_by l => l.length
  decreasing_by
    rw [List.length_drop, List.length_cons]
    omega

/-! ## Joining runs -/

section Join

variable (sort? : List α → Option (List α)) (room : Nat)

/-- The elements of a run in order; those that are not yet are sorted with `sort?`. -/
def Run.sorted? (r : Run α) : Option (List α) :=
  if r.isSorted then some r.elements else sort? r.elements

/-- Two runs in one. Where both are still to be put in order and there is room for them, this is put
off. -/
def Run.join? (a b : Run α) : Option (Run α) :=
  if a.elements.length + b.elements.length ≤ room ∧ a.isSorted = false ∧ b.isSorted = false then
    some ⟨a.elements ++ b.elements, false⟩
  else do
    return ⟨merged precedes (← a.sorted? sort?) (← b.sorted? sort?), true⟩

/-- Joins a run with runs in front of it, from the last one on, as long as they are due: those that
are not due before `depth`. -/
def collapse? (depth : Nat) (last : Run α) :
    List (Run α × Nat) → Option (Run α × List (Run α × Nat))
  | [] => some (last, [])
  | (run, due) :: before =>
    if depth ≤ due then do collapse? depth (← run.join? precedes sort? room last) before
    else some (last, (run, due) :: before)

/-- How deep in the tree of all joins two runs of a list of `n` elements are joined, the first one
from `start` to `middle` and the second one from there to `stop`: how many leading bits of 64 their
scaled centres have in common. -/
def depthOfJoin (n start middle stop : Nat) : Nat :=
  let scale := (1 <<< 62 + n - 1) / n
  let bits := (scale * (start + middle)) ^^^ (scale * (middle + stop))
  if bits = 0 then 64 else 63 - bits.log2

/-- Joins all runs of a list of `n` elements, of which `last` ends at `stop`; `before` holds those
in front of it, the last one first, each with the depth at which it is due to be joined. -/
def joinAll? (n stop : Nat) (before : List (Run α × Nat)) (last : Run α) :
    List (Run α) → Option (Run α)
  | [] => (collapse? precedes sort? room 0 last before).map (·.1)
  | next :: rest => do
    let ending := stop + next.elements.length
    let depth := depthOfJoin n (stop - last.elements.length) stop ending
    let (run, before) ← collapse? precedes sort? room depth last before
    joinAll? n ending ((run, depth) :: before) next rest

/-- How long a stretch in order has to be for a run of its own: half of a short list, and about the
square root of the length of a long one. -/
def leastLength (n : Nat) : Nat :=
  if n ≤ 4096 then min (n - n / 2) 64
  else
    let root := 1 <<< ((1 + n.log2) / 2)
    (root + n / root) / 2

/-- A list sorted by cutting it into runs and joining them. -/
def byRuns? (atOnce : Bool) (l : List α) : Option (List α) := do
  match ← runs? precedes (leastLength l.length) atOnce l with
  | [] => return []
  | first :: rest =>
    let run ← joinAll? precedes sort? room l.length first.elements.length [] first rest
    run.sorted? sort?

end Join

/-! ## Pivots -/

/-- Of three places the one whose element is between the others. -/
def median (before : Nat → Nat → Bool) (a b c : Nat) : Nat :=
  if before a b = before a c then (if before b c = before a b then b else c) else a

/-- Of three places, each the first one of `n`, one that is likely to be near the middle. Where
there are many places, each of the three is replaced by such a one of its own. -/
def likelyMedian (before : Nat → Nat → Bool) (a b c n : Nat) : Nat :=
  if 8 ≤ n then
    let spread (x : Nat) := likelyMedian before x (x + n / 8 * 4) (x + n / 8 * 7) (n / 8)
    median before (spread a) (spread b) (spread c)
  else median before a b c
  termination_by n

/-- Whether the element at one place precedes that at another. -/
def precedesAt (l : List α) (i j : Nat) : Bool :=
  match l[i]?, l[j]? with
  | some a, some b => precedes a b
  | _, _ => false

/-- The place of the pivot of a list. -/
def pivotPlace (l : List α) : Nat :=
  let n := l.length / 8
  likelyMedian (precedesAt precedes l) 0 (n * 4) (n * 7) n

/-- A list split in two, each part in the order of the list: the elements that `goesLeft` says, and
the others. The element at place `i` goes where it is told. -/
def split (goesLeft : α → Bool) (i : Nat) (pivotGoesLeft : Bool) (l : List α) : List α × List α :=
  let sides := (l.take i).partition goesLeft
  let sides' := (l.drop (i + 1)).partition goesLeft
  let pivot := l[i]?.toList
  if pivotGoesLeft then (sides.1 ++ pivot ++ sides'.1, sides.2 ++ sides'.2)
  else (sides.1 ++ sides'.1, sides.2 ++ pivot ++ sides'.2)

/-- A list sorted by splitting it at pivots, at most `limit` times one after the other, until what
is left is short. Nothing in the list precedes `ancestor?`, the pivot in front of it. -/
def byPivots? : (limit : Nat) → (ancestor? : Option α) → List α → Option (List α)
  | limit, ancestor?, l =>
    if l.length ≤ 32 then short? precedes l
    else
      match limit with
      | 0 => byRuns? precedes some l.length true l
      | limit + 1 =>
        let i := pivotPlace precedes l
        match l[i]? with
        | none => none
        | some pivot => do
          let (less, rest) := split (precedes · pivot) i false l
          if (ancestor?.any fun a => !precedes a pivot) || less.isEmpty then
            -- the pivot is one of the first, so those like it are in their places
            let (first, rest) := split (fun a => !precedes pivot a) i true l
            return first ++ (← byPivots? limit none rest)
          else
            let rest ← byPivots? limit (some pivot) rest
            return (← byPivots? limit ancestor? less) ++ rest

/-- A long list in order. -/
def long? (l : List α) : Option (List α) :=
  let sort? (run : List α) := byPivots? precedes (2 * run.length.log2) none run
  let needed := max (max (l.length - l.length / 2) (min l.length 1000000)) 48
  byRuns? precedes sort? (if needed ≤ 512 then 512 else needed) (l.length ≤ 64) l

end LongOrder

/-- The list in the order of `precedes`, if anything comes of sorting it; elements of which neither
precedes the other keep their order. -/
def sorted? {α : Type} (precedes : α → α → Bool) (l : List α) : Option (List α) :=
  if l.length ≤ 20 then some (sorted precedes l) else LongOrder.long? precedes l

namespace LongOrder

variable {α : Type} {precedes : α → α → Bool} {l r : List α}

/-! ## What becomes of the elements -/

/-- How many elements have been taken of each of two lists, and what is left of them. -/
structure Merging.Takes (m : Merging α) (l r : List α) (i j : Nat) : Prop where
  /-- There are as many in the first list. -/
  le_left : i ≤ l.length
  /-- There are as many in the second list. -/
  le_right : j ≤ r.length
  /-- The others are left of the first list. -/
  left : m.left = l.drop i
  /-- The others are left of the second list. -/
  right : m.right = r.drop j
  /-- Nothing is lost or invented. -/
  perm : m.taken.Perm (l.take i ++ r.take j)

theorem Merging.Takes.cons_left {m : Merging α} {i j : Nat} (h : m.Takes l r i j) (a : α) :
    ({ m with taken := a :: m.taken } : Merging α).Takes (a :: l) r (i + 1) j where
  le_left := by simpa using h.le_left
  le_right := h.le_right
  left := h.left
  right := h.right
  perm := h.perm.cons a

theorem Merging.Takes.cons_right {m : Merging α} {i j : Nat} (h : m.Takes l r i j) (b : α) :
    ({ m with taken := b :: m.taken } : Merging α).Takes l (b :: r) i (j + 1) where
  le_left := h.le_left
  le_right := by simpa using h.le_right
  left := h.left
  right := h.right
  perm := (h.perm.cons b).trans List.perm_middle.symm

/-- A front of the first list is taken and nothing of the second one. -/
theorem Merging.Takes.of_left (n : Nat) (l r : List α) :
    (⟨l.take n, l.drop n, r⟩ : Merging α).Takes l r (min n l.length) 0 where
  le_left := Nat.min_le_right _ _
  le_right := Nat.zero_le _
  left := List.drop_eq_drop_min
  right := rfl
  perm := by
    rw [← List.take_eq_take_min, List.take_zero, List.append_nil]

/-- A front of the second list is taken and nothing of the first one. -/
theorem Merging.Takes.of_right (n : Nat) (l r : List α) :
    (⟨r.take n, l, r.drop n⟩ : Merging α).Takes l r 0 (min n r.length) where
  le_left := Nat.zero_le _
  le_right := Nat.min_le_right _ _
  left := rfl
  right := List.drop_eq_drop_min
  perm := by
    rw [← List.take_eq_take_min, List.take_zero, List.nil_append]

variable (precedes) in
/-- As many elements are taken as are asked for, or all of them. -/
theorem exists_takes (n : Nat) (l r : List α) : ∃ i j, (takeFirst precedes n l r).Takes l r i j ∧
    i + j = min n (l.length + r.length) := by
  fun_induction takeFirst precedes n l r with
  | case1 l r => exact ⟨0, 0, ⟨Nat.zero_le _, Nat.zero_le _, rfl, rfl, .refl _⟩, by simp⟩
  | case2 n r => exact ⟨0, _, .of_right (n + 1) [] r, by simp⟩
  | case3 n a l => exact ⟨_, 0, .of_left (n + 1) (a :: l) [], by simp⟩
  | case4 n a l b r h m ih =>
    obtain ⟨i, j, htakes, hsum⟩ := ih
    refine ⟨i, j + 1, htakes.cons_right b, ?_⟩
    simp only [List.length_cons] at hsum ⊢
    omega
  | case5 n a l b r h m ih =>
    obtain ⟨i, j, htakes, hsum⟩ := ih
    refine ⟨i + 1, j, htakes.cons_left a, ?_⟩
    simp only [List.length_cons] at hsum ⊢
    omega

/-- Of four parts the two in the middle may change places. -/
theorem perm_append_append (a b c d : List α) : (a ++ b ++ (c ++ d)).Perm (a ++ c ++ (b ++ d)) := by
  simp only [List.append_assoc]
  exact (List.perm_append_comm_assoc b c d).append_left a

/-- What stands in the middle is taken from one of the two lists. -/
theorem Merging.exists_takes_middle (m : Merging α) (isOdd : Bool) (takenOfLeft : Nat) :
    ∃ i j, (m.middle isOdd takenOfLeft).Takes m.left m.right i j := by
  unfold middle
  split
  · split
    · exact ⟨_, 0, .of_left 1 m.left m.right⟩
    · exact ⟨0, _, .of_right 1 m.left m.right⟩
  · exact ⟨0, 0, Nat.zero_le _, Nat.zero_le _, rfl, rfl, .refl _⟩

/-- What is taken one time after the other rearranges what is taken in all. -/
theorem Merging.Takes.append {m m' : Merging α} {i j i' j' : Nat} (h : m.Takes l r i j)
    (h' : m'.Takes m.left m.right i' j') :
    (m.taken ++ m'.taken).Perm (l.take (i + i') ++ r.take (j + j')) := by
  refine (h.perm.append h'.perm).trans ((perm_append_append _ _ _ _).trans ?_)
  rw [h.left, h.right, ← List.take_add, ← List.take_add]

theorem take_reverse (n : Nat) (l : List α) :
    (l.reverse.take n).reverse = l.drop (l.length - n) := by
  rw [List.take_reverse, List.reverse_reverse]

/-- Merging from both ends rearranges two lists. -/
theorem mergedFromEnds?_perm {t : List α} (h : mergedFromEnds? precedes l r = some t) :
    t.Perm (l ++ r) := by
  dsimp only [mergedFromEnds?] at h
  obtain ⟨i, j, hfront, -⟩ := exists_takes precedes ((l.length + r.length) / 2) l r
  obtain ⟨j', i', hback, -⟩ := exists_takes (fun a b => precedes b a)
    ((l.length + r.length) / 2) r.reverse l.reverse
  rw [← takeLast] at hback
  generalize takeFirst precedes ((l.length + r.length) / 2) l r = front at h hfront
  generalize takeLast precedes ((l.length + r.length) / 2) l r = back at h hback
  obtain ⟨i'', j'', hrest⟩ := front.exists_takes_middle ((l.length + r.length) % 2 == 1)
    (l.length - back.right.length)
  generalize front.middle _ _ = rest at h hrest
  simp only [Option.ite_none_right_eq_some, Option.some.injEq] at h
  obtain ⟨⟨hleft, hright⟩, rfl⟩ := h
  -- what is left at the front is what has been taken at the end
  have hl : l.length - i' = i + i'' := by
    have := hrest.le_left
    have := hback.le_right
    have := hfront.le_left
    simp only [hback.right, hrest.left, hfront.left, List.length_drop, List.length_reverse] at *
    omega
  have hr : r.length - j' = j + j'' := by
    have := hrest.le_right
    have := hback.le_left
    have := hfront.le_right
    simp only [hback.left, hrest.right, hfront.right, List.length_drop, List.length_reverse] at *
    omega
  have hend : back.taken.reverse.Perm (l.drop (i + i'') ++ r.drop (j + j'')) := by
    have hperm := (List.reverse_perm _).trans (hback.perm.trans List.perm_append_comm)
    rw [← List.reverse_reverse (List.take i' _), ← List.reverse_reverse (List.take j' _),
      take_reverse, take_reverse, hl, hr] at hperm
    exact hperm.trans ((List.reverse_perm _).append (List.reverse_perm _))
  refine ((hfront.append hrest).append hend).trans ((perm_append_append _ _ _ _).trans ?_)
  rw [List.take_append_drop, List.take_append_drop]

variable (precedes) in
/-- Taking all elements from the fronts rearranges two lists. -/
theorem takeFirst_perm (l r : List α) :
    (takeFirst precedes (l.length + r.length) l r).taken.Perm (l ++ r) := by
  obtain ⟨i, j, h, hsum⟩ := exists_takes precedes (l.length + r.length) l r
  have hi := h.le_left
  have hj := h.le_right
  obtain rfl : i = l.length := by omega
  obtain rfl : j = r.length := by omega
  simpa using h.perm

/-- Merging rearranges two lists. -/
theorem merged_perm (l r : List α) : (merged precedes l r).Perm (l ++ r) := by
  unfold merged
  split
  · exact takeFirst_perm precedes l r
  · have hperm := takeFirst_perm (fun a b => precedes b a) r.reverse l.reverse
    rw [← List.reverse_append, List.length_reverse, List.length_reverse, Nat.add_comm] at hperm
    exact (List.reverse_perm _).trans (hperm.trans (List.reverse_perm _))

theorem two_perm (a b : α) : (two precedes a b).Perm [a, b] := by
  unfold two
  split
  · exact .swap a b []
  · exact .refl _

/-- Two pairs that are merged keep their elements. -/
theorem pairs_perm (l r : List α) : (pairs precedes l r).Perm (l ++ r) := by
  have hend {x y z : α} : (two precedes x y ++ [z]).Perm [x, y, z] := (two_perm x y).append_right [z]
  unfold pairs
  split
  · next a b c d =>
    split
    · exact hend.cons a
    · exact (hend.trans (@List.perm_append_comm _ [c, d] [b])).cons a
    · exact (hend.cons c).trans (List.perm_append_comm_assoc [c] [a, b] [d])
    · refine (hend.cons c).trans ((List.perm_append_comm_assoc [c] [a] [d, b]).trans (.cons a ?_))
      exact @List.perm_append_comm _ [c, d] [b]
  · exact .refl _

/-- Putting four elements in order rearranges them. -/
theorem four_perm (l : List α) : (four precedes l).Perm l := by
  unfold four
  split
  · exact (pairs_perm _ _).trans ((two_perm _ _).append (two_perm _ _))
  · exact .refl _

theorem half?_perm {n : Nat} {t : List α} (h : half? precedes n l = some t) : t.Perm l := by
  have hinsert {first done rest : List α} (hfirst : first.Perm done) :
      (sortInto precedes first.reverse rest).Perm (done ++ rest) :=
    (sortInto_perm _ _ _).trans
      (List.perm_append_comm.trans (((List.reverse_perm _).trans hfirst).append_right rest))
  unfold half? at h
  split at h
  · obtain ⟨first, hfirst, ht⟩ := Option.bind_eq_some_iff.1 h
    obtain rfl := Option.some.inj ht
    have hperm := (mergedFromEnds?_perm hfirst).trans ((four_perm _).append (four_perm _))
    refine (hinsert hperm).trans (.of_eq ?_)
    rw [← List.take_add, List.take_append_drop]
  · split at h
    · obtain rfl := Option.some.inj h
      refine (hinsert (four_perm _)).trans (.of_eq ?_)
      rw [List.take_append_drop]
    · obtain rfl := Option.some.inj h
      exact sorted_perm _ _

/-- Putting a short run in order rearranges it. -/
theorem short?_perm {t : List α} (h : short? precedes l = some t) : t.Perm l := by
  unfold short? at h
  split at h
  · obtain rfl := Option.some.inj h
    exact .refl _
  · obtain ⟨a, ha, h⟩ := Option.bind_eq_some_iff.1 h
    obtain ⟨b, hb, h⟩ := Option.bind_eq_some_iff.1 h
    refine (mergedFromEnds?_perm h).trans (((half?_perm ha).append (half?_perm hb)).trans (.of_eq ?_))
    rw [List.take_append_drop]

/-! ### Runs -/

/-- All elements of some runs. -/
def elementsOf (runs : List (Run α)) : List α := runs.flatMap (·.elements)

variable (precedes) in
/-- The front of a list is where it begins. -/
theorem take_orderedFront (l : List α) :
    (orderedFront precedes l).1 = l.take (orderedFront precedes l).1.length := by
  unfold orderedFront
  split
  · rfl
  · rfl
  · split <;>
    · simp only [List.length_cons, List.take_succ_cons, List.length_take]
      rw [← List.length_cons, ← List.take_eq_take_min]

variable (precedes) in
/-- A list that has an element starts with an ordered stretch that has one. -/
theorem orderedFront_pos (hl : l ≠ []) : 0 < (orderedFront precedes l).1.length := by
  unfold orderedFront
  split
  · exact absurd rfl hl
  · exact Nat.one_pos
  · split <;> simp

/-- A run of a list is made of the elements at its front. -/
theorem nextRun?_perm {least : Nat} {atOnce : Bool} {run : Run α}
    (h : nextRun? precedes least atOnce l = some run) :
    run.elements.Perm (l.take run.elements.length) := by
  dsimp only [nextRun?] at h
  split at h
  · obtain rfl := Option.some.inj h
    have htake := take_orderedFront precedes l
    cases (orderedFront precedes l).2 with
    | true =>
      simp only [if_true, List.length_reverse]
      exact (List.reverse_perm _).trans (.of_eq htake)
    | false => exact .of_eq htake
  · split at h
    · obtain ⟨t, ht, rfl⟩ := Option.map_eq_some_iff.1 h
      have hperm := short?_perm ht
      rw [hperm.length_eq, List.length_take, ← List.take_eq_take_min]
      exact hperm
    · obtain rfl := Option.some.inj h
      simp only [List.length_take]
      rw [← List.take_eq_take_min]

/-- A run takes at least one element. -/
theorem nextRun?_pos {least : Nat} (hleast : 0 < least) {atOnce : Bool} {run : Run α} (hl : l ≠ [])
    (h : nextRun? precedes least atOnce l = some run) : 0 < run.elements.length := by
  have hpos := List.length_pos_iff.2 hl
  dsimp only [nextRun?] at h
  split at h
  · obtain rfl := Option.some.inj h
    have hfront := orderedFront_pos precedes hl
    cases (orderedFront precedes l).2 <;> simpa using hfront
  · split at h
    · obtain ⟨t, ht, rfl⟩ := Option.map_eq_some_iff.1 h
      rw [(short?_perm ht).length_eq, List.length_take]
      omega
    · obtain rfl := Option.some.inj h
      rw [List.length_take]
      omega

/-- One element in front shifts what is dropped by one. -/
theorem drop_pred {n : Nat} (hn : 0 < n) {a : α} : l.drop (n - 1) = (a :: l).drop n := by
  cases n with
  | zero => exact absurd hn (Nat.lt_irrefl 0)
  | succ n => rfl

/-- Cutting a list into runs rearranges it. -/
theorem runs?_perm {least : Nat} (hleast : 0 < least) {atOnce : Bool} {runs : List (Run α)}
    (h : runs? precedes least atOnce l = some runs) : (elementsOf runs).Perm l := by
  fun_induction runs? precedes least atOnce l generalizing runs with
  | case1 =>
    obtain rfl := Option.some.inj h
    exact .refl _
  | case2 a l ih =>
    obtain ⟨run, hrun, h⟩ := Option.bind_eq_some_iff.1 h
    obtain ⟨rest, hrest, h⟩ := Option.bind_eq_some_iff.1 h
    obtain rfl := Option.some.inj h
    have hpos := nextRun?_pos hleast (List.cons_ne_nil a l) hrun
    refine ((nextRun?_perm hrun).append (ih run hrest)).trans (.of_eq ?_)
    rw [drop_pred hpos, List.take_append_drop]

section Join

variable {sort? : List α → Option (List α)} {room : Nat}
  (hsort : ∀ l t, sort? l = some t → t.Perm l)
include hsort

/-- A run that is put in order has the same elements. -/
theorem Run.sorted?_perm {run : Run α} {t : List α} (h : run.sorted? sort? = some t) :
    t.Perm run.elements := by
  unfold Run.sorted? at h
  split at h
  · exact .of_eq (Option.some.inj h).symm
  · exact hsort _ _ h

/-- Two runs that are joined keep their elements. -/
theorem Run.join?_perm {a b run : Run α} (h : a.join? precedes sort? room b = some run) :
    run.elements.Perm (a.elements ++ b.elements) := by
  unfold Run.join? at h
  split at h
  · obtain rfl := Option.some.inj h
    exact .refl _
  · obtain ⟨s, hs, h⟩ := Option.bind_eq_some_iff.1 h
    obtain ⟨t, ht, h⟩ := Option.bind_eq_some_iff.1 h
    obtain rfl := Option.some.inj h
    exact (merged_perm s t).trans
      ((Run.sorted?_perm hsort hs).append (Run.sorted?_perm hsort ht))

/-- Joining the runs on the stack keeps their elements. -/
theorem collapse?_perm {depth : Nat} {last run : Run α} {before before' : List (Run α × Nat)}
    (h : collapse? precedes sort? room depth last before = some (run, before')) :
    (run.elements ++ elementsOf (before'.map (·.1))).Perm
      (last.elements ++ elementsOf (before.map (·.1))) := by
  induction before generalizing last with
  | nil =>
    obtain ⟨rfl, rfl⟩ := Prod.mk.inj (Option.some.inj h)
    exact .refl _
  | cons front before ih =>
    rw [collapse?] at h
    split at h
    · obtain ⟨both, hboth, h⟩ := Option.bind_eq_some_iff.1 h
      refine (ih h).trans (((Run.join?_perm hsort hboth).append_right _).trans ?_)
      rw [List.append_assoc]
      exact List.perm_append_comm_assoc _ _ _
    · obtain ⟨rfl, rfl⟩ := Prod.mk.inj (Option.some.inj h)
      exact .refl _

omit hsort in
/-- At depth zero all runs are due. -/
theorem collapse?_zero {last run : Run α} {before before' : List (Run α × Nat)}
    (h : collapse? precedes sort? room 0 last before = some (run, before')) : before' = [] := by
  induction before generalizing last with
  | nil => exact (Prod.mk.inj (Option.some.inj h)).2.symm
  | cons front before ih =>
    rw [collapse?, if_pos (Nat.zero_le _)] at h
    obtain ⟨both, -, h⟩ := Option.bind_eq_some_iff.1 h
    exact ih h

/-- Joining all runs keeps their elements. -/
theorem joinAll?_perm {n stop : Nat} {before : List (Run α × Nat)} {last run : Run α}
    {rest : List (Run α)} (h : joinAll? precedes sort? room n stop before last rest = some run) :
    run.elements.Perm (last.elements ++ elementsOf (before.map (·.1)) ++ elementsOf rest) := by
  induction rest generalizing stop before last with
  | nil =>
    obtain ⟨⟨run, before'⟩, hall, rfl⟩ := Option.map_eq_some_iff.1 h
    obtain rfl := collapse?_zero hall
    simpa [elementsOf] using collapse?_perm hsort hall
  | cons next rest ih =>
    obtain ⟨⟨run', before'⟩, hall, h⟩ := Option.bind_eq_some_iff.1 h
    refine (ih h).trans ?_
    have hperm := collapse?_perm hsort hall
    simp only [elementsOf, List.map_cons, List.flatMap_cons, ← List.append_assoc] at hperm ⊢
    refine (List.Perm.append_right _ ?_)
    rw [List.append_assoc]
    exact List.perm_append_comm.trans (hperm.append_right _)

omit hsort in
theorem leastLength_pos {n : Nat} (hn : 0 < n) : 0 < leastLength n := by
  unfold leastLength
  split
  · omega
  · have hlog := Nat.le_log2 (n := n) (k := 1) (by omega)
    have hroot : 2 ≤ 1 <<< ((1 + n.log2) / 2) := by
      rw [Nat.one_shiftLeft]
      exact Nat.le_self_pow (by omega) 2
    exact Nat.div_pos (Nat.le_add_right_of_le hroot) (by decide)

/-- Sorting a list by cutting it into runs rearranges it. -/
theorem byRuns?_perm {atOnce : Bool} {t : List α}
    (h : byRuns? precedes sort? room atOnce l = some t) : t.Perm l := by
  obtain ⟨runs, hruns, h⟩ := Option.bind_eq_some_iff.1 h
  cases l with
  | nil =>
    rw [List.length_nil, runs?] at hruns
    obtain rfl := Option.some.inj hruns
    exact .of_eq (Option.some.inj h).symm
  | cons a l =>
    have hperm := runs?_perm (leastLength_pos (Nat.succ_pos _)) hruns
    cases runs with
    | nil => exact absurd hperm.symm (by simp [elementsOf])
    | cons first rest =>
      obtain ⟨run, hrun, h⟩ := Option.bind_eq_some_iff.1 h
      refine (Run.sorted?_perm hsort h).trans ((joinAll?_perm hsort hrun).trans ?_)
      simpa [elementsOf] using hperm

end Join

/-! ### Pivots -/

/-- Splitting a list rearranges it. -/
theorem split_perm {goesLeft : α → Bool} {i : Nat} {pivotGoesLeft : Bool} (l : List α) :
    ((split goesLeft i pivotGoesLeft l).1 ++ (split goesLeft i pivotGoesLeft l).2).Perm l := by
  have hside (l : List α) : ((l.partition goesLeft).1 ++ (l.partition goesLeft).2).Perm l := by
    rw [List.partition_eq_filter_filter]
    exact List.filter_append_perm _ _
  have hfront {a b p rest : List α} (h : (a ++ b).Perm (l.take i))
      (hrest : rest.Perm (l.drop (i + 1))) (hp : p = l[i]?.toList) :
      (a ++ (b ++ p) ++ rest).Perm l := by
    rw [← List.append_assoc]
    refine ((h.append_right p).append hrest).trans (.of_eq ?_)
    rw [hp, List.append_assoc, List.drop_eq_getElem?_toList_append.symm, List.take_append_drop]
  dsimp only [split]
  split
  · refine (perm_append_append _ _ _ _).trans ?_
    refine (List.Perm.append_right _ ?_).trans (hfront (hside _) (hside _) rfl)
    rw [List.append_assoc]
    exact List.perm_append_comm.append_left _
  · exact (perm_append_append _ _ _ _).trans (hfront (hside _) (hside _) rfl)

/-- Sorting a list by splitting it at pivots rearranges it. -/
theorem byPivots?_perm {limit : Nat} {ancestor? : Option α} {t : List α}
    (h : byPivots? precedes limit ancestor? l = some t) : t.Perm l := by
  induction limit generalizing ancestor? l t with
  | zero =>
    unfold byPivots? at h
    split at h
    · exact short?_perm h
    · exact byRuns?_perm (fun _ _ hsome => .of_eq (Option.some.inj hsome).symm) h
  | succ limit ih =>
    unfold byPivots? at h
    split at h
    · exact short?_perm h
    · dsimp only at h
      split at h
      · cases h
      · split at h
        · obtain ⟨rest, hrest, h⟩ := Option.bind_eq_some_iff.1 h
          obtain rfl := Option.some.inj h
          -- what is like the pivot stays in front, and only the rest goes on
          exact ((ih hrest).append_left _).trans (split_perm l)
        · obtain ⟨rest, hrest, h⟩ := Option.bind_eq_some_iff.1 h
          obtain ⟨less, hless, h⟩ := Option.bind_eq_some_iff.1 h
          obtain rfl := Option.some.inj h
          exact ((ih hless).append (ih hrest)).trans (split_perm l)

end LongOrder

open LongOrder in
/-- Sorting rearranges a list, if anything comes of it. -/
theorem sorted?_perm {α : Type} {precedes : α → α → Bool} {l t : List α}
    (h : sorted? precedes l = some t) : t.Perm l := by
  unfold sorted? at h
  split at h
  · obtain rfl := Option.some.inj h
    exact sorted_perm precedes l
  · exact byRuns?_perm (fun _ _ hrun => byPivots?_perm hrun) h

end AskLedger

