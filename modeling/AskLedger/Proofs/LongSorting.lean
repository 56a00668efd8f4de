import AskLedger.Proofs.Merging

/-!
# Sorting long lists in order

Sorting a long list by runs and pivots comes to the same as sorting it by insertion, if `precedes`
is an order: every step puts some elements in order and keeps the order of those of which none
precedes another, and there is only one way to do that.

* `LongOrder.exists_short?`: a short run is put in order.
* `LongOrder.exists_byRuns?`: so is a list that is cut into runs.
* `LongOrder.exists_byPivots?`: and one that is split at pivots.
* `sorted?_eq_sorted`: the result is that of sorting by insertion.
-/

namespace AskLedger

namespace LongOrder

variable {α : Type} {precedes : α → α → Bool} {p : α → Prop} {l r : List α}

/-! ## Short runs -/

section
variable (h : IsOrderOn precedes p) {a b c d : α}
include h

theorem isSorting_two : IsSorting precedes [a, b] (two precedes a b) := by
  unfold two
  split
  · next hba =>
    refine .of_middle (l := [a]) (r := []) (.refl ?_) (by simpa using hba)
    simpa using h.asymm hba
  · next hba => exact .refl (by simpa using hba)

/-- The last one of three elements is put behind the others if it is behind both. -/
theorem isSorting_two_append (hac : precedes c a = false) (hbc : precedes c b = false) :
    IsSorting precedes [a, b, c] (two precedes a b ++ [c]) :=
  (isSorting_two h).append (.refl (List.pairwise_singleton _ c)) (by simp [hac, hbc])

/-- Two pairs in order are put in order together. -/
theorem isSorting_pairs (hp : ∀ x ∈ [a, b, c, d], p x) (hab : precedes b a = false)
    (hcd : precedes d c = false) :
    IsSorting precedes [a, b, c, d] (pairs precedes [a, b] [c, d]) := by
  simp only [List.forall_mem_cons] at hp
  obtain ⟨ha, hb, hc, -⟩ := hp
  have hpair {x y : α} (hxy : precedes y x = false) :
      [x, y].Pairwise fun a b => precedes b a = false := by simpa using hxy
  have hone (x : α) : IsSorting precedes [x] [x] := .refl (List.pairwise_singleton _ x)
  simp only [pairs]
  split
  · next hca hdb =>
    -- `a` is the first one and `d` the last one
    have hda := h.trans hc hcd hca
    exact (isSorting_two_append h hdb hcd).cons (by simp [hab, hca, hda])
  · next hca hdb =>
    -- `a` is the first one, and `b` is behind both of the others
    have hcb : precedes c b = true := by simpa [hcd] using h.precedes_or_precedes hc hdb
    have hda := h.trans hc hcd hca
    have hcut : IsCut precedes [b] [c, d] 0 2 := ⟨by simp [hcb, hdb], by simp⟩
    exact (hcut.append h (List.pairwise_singleton _ b) (hpair hcd) (isSorting_two h) (hone b)).cons
      (by simp [hab, hca, hda])
  · next hca hdb =>
    -- `c` is the first one and `d` the last one
    have hcb : precedes c b = true := by simpa [hab] using h.precedes_or_precedes hb hca
    have hda := h.trans hb hdb hab
    refine .of_middle (l := [a, b]) (r := [d]) ?_ (by simp [hca, hcb])
    exact (isSorting_two_append h hda hdb).cons (by simp [h.asymm hca, h.asymm hcb, hcd])
  · next hca hdb =>
    -- `c` is the first one and `b` the last one
    have hcb : precedes c b = true := by simpa [hab] using h.precedes_or_precedes hb hca
    have hcut : IsCut precedes [a, b] [d] 1 1 := ⟨by simp [hdb], by simp⟩
    refine .of_middle (l := [a, b]) (r := [d]) ?_ (by simp [hca, hcb])
    exact (hcut.append h (hpair hab) (List.pairwise_singleton _ d) (isSorting_two h) (hone b)).cons
      (by simp [h.asymm hca, h.asymm hcb, hcd])

omit h in
variable (precedes) in
theorem two_eq_or (a b : α) : two precedes a b = [a, b] ∨ two precedes a b = [b, a] := by
  unfold two
  split
  · exact .inr rfl
  · exact .inl rfl

/-- Four elements are put in order. -/
theorem isSorting_four (hl : ∀ a ∈ l, p a) (hlength : l.length = 4) :
    IsSorting precedes l (four precedes l) := by
  match l, hlength with
  | [a, b, c, d], _ =>
    have hab := isSorting_two h (a := a) (b := b)
    have hcd := isSorting_two h (a := c) (b := d)
    have hp : ∀ x ∈ two precedes a b ++ two precedes c d, p x := by
      intro x hx
      refine hl x ?_
      simpa [hab.mem_iff, hcd.mem_iff, or_assoc] using hx
    refine hab.of_parts hcd ?_
    change IsSorting precedes _ (pairs precedes (two precedes a b) (two precedes c d))
    have habOrder := hab.inOrder
    have hcdOrder := hcd.inOrder
    -- whichever order the pairs are in
    rcases two_eq_or precedes a b with hab' | hab' <;>
    rcases two_eq_or precedes c d with hcd' | hcd' <;>
    · rw [hab'] at habOrder hp ⊢
      rw [hcd'] at hcdOrder hp ⊢
      exact isSorting_pairs h hp (by simpa using habOrder) (by simpa using hcdOrder)

/-- One half of a short run is put in order. -/
theorem exists_half? {n : Nat} (hl : ∀ a ∈ l, p a) (hlength : n / 2 ≤ l.length) :
    ∃ t, half? precedes n l = some t ∧ IsSorting precedes l t := by
  have htake {m : Nat} : ∀ a ∈ l.take m, p a := fun a ha => hl a (List.mem_of_mem_take ha)
  have hdrop {m : Nat} : ∀ a ∈ l.drop m, p a := fun a ha => hl a (List.mem_of_mem_drop ha)
  unfold half?
  split
  · -- two fours are merged into the first eight, and what follows is inserted into them
    have hfour := isSorting_four h htake (l := l.take 4) (by rw [List.length_take]; omega)
    have hfour' := isSorting_four h (l := (l.drop 4).take 4)
      (fun a ha => hdrop a (List.mem_of_mem_take ha))
      (by rw [List.length_take, List.length_drop]; omega)
    obtain ⟨first, hfirst, hsorting⟩ := exists_mergedFromEnds? h
      (fun a ha => htake a (hfour.mem_iff.1 ha))
      (fun a ha => hdrop a (List.mem_of_mem_take (hfour'.mem_iff.1 ha)))
      hfour.inOrder hfour'.inOrder
    refine ⟨_, by rw [hfirst]; rfl, ?_⟩
    have hall := IsSorting.sortInto h (l := l.take 8) htake
      (by rw [show (8 : Nat) = 4 + 4 from rfl, List.take_add]; exact hfour.of_parts hfour' hsorting)
      (hdrop (m := 8))
    rwa [List.take_append_drop] at hall
  · split
    · have hfour := isSorting_four h htake (l := l.take 4) (by rw [List.length_take]; omega)
      have hall := IsSorting.sortInto h htake hfour (hdrop (m := 4))
      rw [List.take_append_drop] at hall
      exact ⟨_, rfl, hall⟩
    · exact ⟨_, rfl, isSorting_sorted h hl⟩

/-- A short run is put in order. -/
theorem exists_short? (hl : ∀ a ∈ l, p a) :
    ∃ t, short? precedes l = some t ∧ IsSorting precedes l t := by
  unfold short?
  split
  · exact ⟨l, rfl, .refl (List.pairwise_iff_getElem.2 fun _ _ _ _ _ => by omega)⟩
  · obtain ⟨s, hs, hsSorting⟩ := exists_half? h (n := l.length) (l := l.take (l.length / 2))
      (fun a ha => hl a (List.mem_of_mem_take ha)) (by rw [List.length_take]; omega)
    obtain ⟨t, ht, htSorting⟩ := exists_half? h (n := l.length) (l := l.drop (l.length / 2))
      (fun a ha => hl a (List.mem_of_mem_drop ha)) (by rw [List.length_drop]; omega)
    obtain ⟨u, hu, huSorting⟩ := exists_mergedFromEnds? h
      (fun a ha => hl a (List.mem_of_mem_take (hsSorting.mem_iff.1 ha)))
      (fun a ha => hl a (List.mem_of_mem_drop (htSorting.mem_iff.1 ha)))
      hsSorting.inOrder htSorting.inOrder
    have hall := hsSorting.of_parts htSorting huSorting
    rw [List.take_append_drop] at hall
    exact ⟨u, by rw [hs, ht]; exact hu, hall⟩

end

/-! ## Runs -/

/-- What stands next to each other in some order is in that order all along. -/
theorem pairwise_of_isChain {R : α → α → Prop}
    (htrans : ∀ a b c, p a → p b → R a b → R b c → R a c) (hl : ∀ a ∈ l, p a)
    (hchain : l.IsChain R) : l.Pairwise R := by
  induction hchain with
  | nil => exact .nil
  | singleton a => exact List.pairwise_singleton _ a
  | @cons_cons a b l hab _ ih =>
    have htail := ih fun x hx => hl x (List.mem_cons_of_mem _ hx)
    refine List.pairwise_cons.2 ⟨List.forall_mem_cons.2 ⟨hab, fun x hx => ?_⟩, htail⟩
    exact htrans a b x (hl a List.mem_cons_self) (hl b (by simp)) hab
      (List.rel_of_pairwise_cons htail hx)

/-- Along the stretch every element goes on with the one before it. -/
theorem isChain_stretch (goesOn : α → α → Bool) (a : α) (l : List α) :
    (a :: l.take (stretch goesOn a l)).IsChain fun x y => goesOn x y = true := by
  induction l generalizing a with
  | nil => exact List.IsChain.singleton a
  | cons b l ih =>
    rw [stretch]
    split
    · next hab => exact List.isChain_cons_cons.2 ⟨hab, ih b⟩
    · exact List.IsChain.singleton a

/-- Elements each of which precedes those in front of it are in order back to front. -/
theorem isSorting_reverse (h : IsOrderOn precedes p)
    (hl : l.Pairwise fun a b => precedes b a = true) : IsSorting precedes l l.reverse where
  perm := List.reverse_perm l
  inOrder := List.pairwise_reverse.2 (hl.imp h.asymm)
  stable q hq := by
    rw [List.filter_reverse]
    -- there is at most one of each kind
    have hkind := hl.filter q
    have hall : ∀ a ∈ l.filter q, q a = true := fun a ha => (List.mem_filter.1 ha).2
    match hfilter : l.filter q with
    | [] => rfl
    | [a] => rfl
    | a :: b :: rest =>
      rw [hfilter] at hkind hall
      have hba : precedes b a = true := List.rel_of_pairwise_cons hkind List.mem_cons_self
      rw [hq b a (hall b (by simp)) (hall a (by simp))] at hba
      exact Bool.noConfusion hba

/-- The front of a list is in order, or so back to front. -/
theorem isSorting_orderedFront (h : IsOrderOn precedes p) (hl : ∀ a ∈ l, p a) :
    IsSorting precedes (orderedFront precedes l).1
      (if (orderedFront precedes l).2 then (orderedFront precedes l).1.reverse
        else (orderedFront precedes l).1) := by
  have hfront : ∀ a ∈ (orderedFront precedes l).1, p a := by
    rw [take_orderedFront]
    exact fun a ha => hl a (List.mem_of_mem_take ha)
  revert hfront
  unfold orderedFront
  split
  · exact fun _ => .refl .nil
  · next a => exact fun _ => .refl (List.pairwise_singleton _ a)
  · split
    · intro hfront
      -- the front strictly descends, so turning it round moves no element past one like it
      refine isSorting_reverse h (pairwise_of_isChain ?_ hfront (isChain_stretch _ _ _))
      intro a b c ha hb hba hcb
      simpa [h.asymm hba] using h.precedes_or_precedes ha hcb
    · intro hfront
      refine .refl (pairwise_of_isChain ?_ hfront ((isChain_stretch _ _ _).imp ?_))
      · exact fun a b c _ hb hba hcb => h.trans hb hcb hba
      · simp

/-- `run` has the elements of `part`: in order or, where that may be put off, as they were. -/
def Run.IsOf (precedes : α → α → Bool) (putOff : Prop) (part : List α) (run : Run α) : Prop :=
  run.isSorted = true ∧ IsSorting precedes part run.elements ∨
    putOff ∧ run.isSorted = false ∧ run.elements = part

/-- The runs of a list, from its front on. -/
inductive AreOf (precedes : α → α → Bool) (putOff : Prop) : List α → List (Run α) → Prop
  /-- The empty list has none. -/
  | nil : AreOf precedes putOff [] []
  /-- The first run has the elements at the front. -/
  | cons {part l : List α} {run : Run α} {runs : List (Run α)}
      (hrun : run.IsOf precedes putOff part) (hruns : AreOf precedes putOff l runs) :
      AreOf precedes putOff (part ++ l) (run :: runs)

/-- The next run of a list is made of the elements at its front. -/
theorem exists_nextRun? (h : IsOrderOn precedes p) (hl : ∀ a ∈ l, p a) (least : Nat)
    (atOnce : Bool) :
    ∃ run, nextRun? precedes least atOnce l = some run ∧
      run.IsOf precedes (atOnce = false) (l.take run.elements.length) := by
  have hfront := isSorting_orderedFront h hl
  have htake := take_orderedFront precedes l
  dsimp only [nextRun?]
  split
  · -- the front is long enough to be a run of its own
    refine ⟨_, rfl, .inl ⟨rfl, ?_⟩⟩
    rw [hfront.perm.length_eq, ← htake]
    exact hfront
  · split
    · obtain ⟨t, ht, hsorting⟩ := exists_short? h (l := l.take 32)
        fun a ha => hl a (List.mem_of_mem_take ha)
      refine ⟨⟨t, true⟩, by rw [ht]; rfl, .inl ⟨rfl, ?_⟩⟩
      rw [hsorting.perm.length_eq, List.length_take, ← List.take_eq_take_min]
      exact hsorting
    · next hnot =>
      -- the run is put off: its elements stand as they came
      refine ⟨_, rfl, .inr ⟨by simpa using hnot, rfl, ?_⟩⟩
      rw [List.length_take, ← List.take_eq_take_min]

/-- A list is cut into runs. -/
theorem exists_runs? (h : IsOrderOn precedes p) (hl : ∀ a ∈ l, p a) {least : Nat}
    (hleast : 0 < least) (atOnce : Bool) :
    ∃ runs, runs? precedes least atOnce l = some runs ∧ AreOf precedes (atOnce = false) l runs := by
  fun_induction runs? precedes least atOnce l with
  | case1 => exact ⟨[], rfl, .nil⟩
  | case2 a l ih =>
    obtain ⟨run, hrun, hof⟩ := exists_nextRun? h hl least atOnce
    have hpos := nextRun?_pos hleast (List.cons_ne_nil a l) hrun
    obtain ⟨runs, hruns, hare⟩ := ih run fun x hx =>
      hl x (List.mem_cons_of_mem _ (List.mem_of_mem_drop hx))
    have hall := AreOf.cons hof hare
    rw [drop_pred hpos, List.take_append_drop] at hall
    exact ⟨run :: runs, by rw [hrun]; simp [hruns], hall⟩

/-! ## Joining runs -/

/-- The runs in front of another one, the last one first. -/
inductive AreBefore (precedes : α → α → Bool) (putOff : Prop) :
    List α → List (Run α × Nat) → Prop
  /-- There are none in front of the first one. -/
  | nil : AreBefore precedes putOff [] []
  /-- The last run has the elements at the end. -/
  | cons {part l : List α} {run : Run α} {before : List (Run α × Nat)} (due : Nat)
      (hrun : run.IsOf precedes putOff part) (hbefore : AreBefore precedes putOff l before) :
      AreBefore precedes putOff (l ++ part) ((run, due) :: before)

section Join

variable {sort? : List α → Option (List α)} (room : Nat) (h : IsOrderOn precedes p) {putOff : Prop}
  (hsort : putOff → ∀ l, (∀ a ∈ l, p a) → ∃ t, sort? l = some t ∧ IsSorting precedes l t)
include hsort

/-- Every run can be put in order. -/
theorem Run.exists_sorted? {run : Run α} (hl : ∀ a ∈ l, p a)
    (hrun : run.IsOf precedes putOff l) :
    ∃ t, run.sorted? sort? = some t ∧ IsSorting precedes l t := by
  unfold Run.sorted?
  rcases hrun with ⟨hsorted, hsorting⟩ | ⟨hoff, hsorted, helements⟩
  · exact ⟨run.elements, by simp [hsorted], hsorting⟩
  · obtain ⟨t, ht, hsorting⟩ := hsort hoff l hl
    exact ⟨t, by simp [hsorted, helements, ht], hsorting⟩

include h

/-- Two runs are joined. -/
theorem Run.exists_join? {a b : Run α} (hl : ∀ a ∈ l, p a) (hr : ∀ a ∈ r, p a)
    (ha : a.IsOf precedes putOff l) (hb : b.IsOf precedes putOff r) :
    ∃ run, a.join? precedes sort? room b = some run ∧ run.IsOf precedes putOff (l ++ r) := by
  obtain ⟨s, hs, hsSorting⟩ := Run.exists_sorted? hsort hl ha
  obtain ⟨t, ht, htSorting⟩ := Run.exists_sorted? hsort hr hb
  unfold Run.join?
  split
  · next hroom =>
    refine ⟨_, rfl, .inr ?_⟩
    rcases ha with ⟨hsorted, -⟩ | ⟨hoff, -, ha⟩
    · exact absurd (hsorted.symm.trans hroom.2.1) (by simp)
    · rcases hb with ⟨hsorted, -⟩ | ⟨-, -, hb⟩
      · exact absurd (hsorted.symm.trans hroom.2.2) (by simp)
      · exact ⟨hoff, rfl, by rw [ha, hb]⟩
  · refine ⟨⟨merged precedes s t, true⟩, by rw [hs, ht]; rfl, .inl ⟨rfl, hsSorting.of_parts htSorting ?_⟩⟩
    exact isSorting_merged h (fun x hx => hl x (hsSorting.mem_iff.1 hx))
      (fun x hx => hr x (htSorting.mem_iff.1 hx)) hsSorting.inOrder htSorting.inOrder

/-- A run is joined with runs in front of it. -/
theorem exists_collapse? {before : List (Run α × Nat)} {last : Run α} (depth : Nat)
    (hbefore : AreBefore precedes putOff l before) (hlast : last.IsOf precedes putOff r)
    (hl : ∀ a ∈ l, p a) (hr : ∀ a ∈ r, p a) :
    ∃ run before' l' r', collapse? precedes sort? room depth last before = some (run, before') ∧
      l' ++ r' = l ++ r ∧ AreBefore precedes putOff l' before' ∧ run.IsOf precedes putOff r' := by
  induction hbefore generalizing last r with
  | nil => exact ⟨last, [], [], r, rfl, rfl, .nil, hlast⟩
  | @cons part l run before due hrun hbefore ih =>
    rw [List.forall_mem_append] at hl
    rw [collapse?]
    split
    · obtain ⟨both, hboth, hof⟩ := Run.exists_join? room h hsort hl.2 hr hrun hlast
      obtain ⟨run', before', l', r', hall, heq, hbefore', hrun'⟩ :=
        ih hof hl.1 (List.forall_mem_append.2 ⟨hl.2, hr⟩)
      refine ⟨run', before', l', r', by rw [hboth]; exact hall, ?_, hbefore', hrun'⟩
      rw [heq, List.append_assoc]
    · exact ⟨last, _, _, r, rfl, rfl, .cons due hrun hbefore, hlast⟩

/-- All runs of a list are joined. -/
theorem exists_joinAll? {before : List (Run α × Nat)} {last : Run α} {rest : List (Run α)}
    {part : List α} (n stop : Nat) (hbefore : AreBefore precedes putOff l before)
    (hlast : last.IsOf precedes putOff part) (hrest : AreOf precedes putOff r rest)
    (hp : ∀ a ∈ l ++ part ++ r, p a) :
    ∃ run, joinAll? precedes sort? room n stop before last rest = some run ∧
      run.IsOf precedes putOff (l ++ part ++ r) := by
  induction hrest generalizing stop before last l part with
  | nil =>
    -- no run follows, so all that are kept back are joined to the last one
    rw [List.append_nil, List.forall_mem_append] at hp
    obtain ⟨run, before', l', r', hall, heq, hbefore', hrun⟩ :=
      exists_collapse? room h hsort 0 hbefore hlast hp.1 hp.2
    obtain rfl := collapse?_zero hall
    cases hbefore'
    refine ⟨run, by rw [joinAll?, hall]; rfl, ?_⟩
    rw [List.append_nil, ← heq]
    exact hrun
  | @cons part' r next rest hnext hrest ih =>
    rw [List.forall_mem_append] at hp
    rw [joinAll?]
    -- the runs that lie deeper than the next join are joined first, and the result is kept back
    obtain ⟨run, before', l', r', hall, heq, hbefore', hrun⟩ :=
      exists_collapse? room h hsort
        (depthOfJoin n (stop - last.elements.length) stop (stop + next.elements.length))
        hbefore hlast (List.forall_mem_append.1 hp.1).1 (List.forall_mem_append.1 hp.1).2
    obtain ⟨run', hrun', hof⟩ := ih (stop + next.elements.length)
      (.cons (depthOfJoin n (stop - last.elements.length) stop (stop + next.elements.length))
        hrun hbefore') hnext (by
          rw [heq, List.append_assoc]
          exact List.forall_mem_append.2 hp)
    rw [heq, List.append_assoc (l ++ part)] at hof
    exact ⟨run', by rw [hall]; exact hrun', hof⟩

omit h hsort in
/-- A list that is cut into runs is put in order, if those that are not yet can be. -/
theorem exists_byRuns? (h : IsOrderOn precedes p) {atOnce : Bool}
    (hsort : atOnce = false → ∀ l, (∀ a ∈ l, p a) →
      ∃ t, sort? l = some t ∧ IsSorting precedes l t) (hl : ∀ a ∈ l, p a) :
    ∃ t, byRuns? precedes sort? room atOnce l = some t ∧ IsSorting precedes l t := by
  by_cases hnil : l = []
  · subst hnil
    exact ⟨[], by rw [byRuns?, List.length_nil, runs?]; rfl, .refl .nil⟩
  · obtain ⟨runs, hruns, hare⟩ :=
      exists_runs? h hl (leastLength_pos (List.length_pos_iff.2 hnil)) atOnce
    rw [byRuns?, hruns]
    cases hare with
    | nil => exact absurd rfl hnil
    | @cons part l first rest hfirst hrest =>
      obtain ⟨run, hrun, hof⟩ := exists_joinAll? room h hsort (part ++ l).length
        first.elements.length .nil hfirst hrest hl
      obtain ⟨t, ht, hsorting⟩ := Run.exists_sorted? hsort hl hof
      refine ⟨t, ?_, hsorting⟩
      change (joinAll? _ _ _ _ _ _ _ _).bind _ = _
      rw [hrun]
      exact ht

end Join

/-! ## Pivots -/

theorem median_eq_or (before : Nat → Nat → Bool) (a b c : Nat) :
    median before a b c = a ∨ median before a b c = b ∨ median before a b c = c := by
  unfold median
  split
  · split
    · exact .inr (.inl rfl)
    · exact .inr (.inr rfl)
  · exact .inl rfl

/-- The place that is found is one of the places that were looked at. -/
theorem likelyMedian_lt (before : Nat → Nat → Bool) (a b c n : Nat) (hn : 0 < n) :
    likelyMedian before a b c n < max a (max b c) + n := by
  induction n using Nat.strongRecOn generalizing a b c with
  | ind n ih =>
    rw [likelyMedian]
    split
    · next hlarge =>
      -- each of the three medians lies within the seven eighths and one eighth behind its own start
      have hspread (x : Nat) :
          likelyMedian before x (x + n / 8 * 4) (x + n / 8 * 7) (n / 8) < x + n := by
        have hlt := ih (n / 8) (by omega) x (x + n / 8 * 4) (x + n / 8 * 7) (by omega)
        omega
      have ha := hspread a
      have hb := hspread b
      have hc := hspread c
      rcases median_eq_or before (likelyMedian before a (a + n / 8 * 4) (a + n / 8 * 7) (n / 8))
        (likelyMedian before b (b + n / 8 * 4) (b + n / 8 * 7) (n / 8))
        (likelyMedian before c (c + n / 8 * 4) (c + n / 8 * 7) (n / 8)) with h | h | h <;>
      · simp only [h]
        omega
    · rcases median_eq_or before a b c with h | h | h <;> omega

variable (precedes) in
/-- The pivot is an element of the list. -/
theorem pivotPlace_lt (hl : 8 ≤ l.length) : pivotPlace precedes l < l.length := by
  have hlt := likelyMedian_lt (precedesAt precedes l) 0 (l.length / 8 * 4) (l.length / 8 * 7)
    (l.length / 8) (by omega)
  exact Nat.lt_of_lt_of_le hlt (by omega)

/-- Every element goes where it is told if the pivot does. -/
theorem split_eq_filter {goesLeft : α → Bool} {i : Nat} {pivot : α} (hi : l[i]? = some pivot)
    {pivotGoesLeft : Bool} (hpivot : goesLeft pivot = pivotGoesLeft) :
    split goesLeft i pivotGoesLeft l = (l.filter goesLeft, l.filter (!goesLeft ·)) := by
  have hl : l = l.take i ++ pivot :: l.drop (i + 1) := by
    have htail := List.drop_eq_getElem?_toList_append (l := l) (i := i)
    rw [hi] at htail
    exact (List.take_append_drop i l).symm.trans (congrArg _ htail)
  have hfilter (f : α → Bool) :
      l.filter f = (l.take i).filter f ++ (pivot :: l.drop (i + 1)).filter f := by
    rw [← List.filter_append, ← hl]
  subst hpivot
  cases hgoes : goesLeft pivot with
  | true => simp [split, hfilter, hi, hgoes, Function.comp_def]
  | false => simp [split, hfilter, hi, hgoes, Function.comp_def]

/-- What `goesLeft` tells apart is put in order part by part, if all of the one part precedes all of
the other. -/
theorem isSorting_of_filter {goesLeft : α → Bool} {s t : List α} (h : IsOrderOn precedes p)
    (hcross : ∀ a ∈ l, ∀ b ∈ l, goesLeft a = true → goesLeft b = false → precedes a b = true)
    (hs : IsSorting precedes (l.filter goesLeft) s)
    (ht : IsSorting precedes (l.filter (!goesLeft ·)) t) : IsSorting precedes l (s ++ t) := by
  have hboth := hs.append ht fun a ha b hb => by
    simp only [List.mem_filter, Bool.not_eq_true'] at ha hb
    exact h.asymm (hcross a ha.1 b hb.1 ha.2 hb.2)
  refine ⟨hboth.perm.trans (List.filter_append_perm _ _), hboth.inOrder, fun q hq => ?_⟩
  rw [hboth.stable q hq, List.filter_append]
  -- all elements of a kind are in one part
  by_cases hnil : (l.filter goesLeft).filter q = []
  · rw [hnil, List.nil_append, List.filter_filter]
    refine List.filter_congr fun b hb => ?_
    cases hqb : q b with
    | false => rfl
    | true => simpa [hb, hqb] using List.filter_eq_nil_iff.1 hnil b
  · obtain ⟨a, ha⟩ := List.exists_mem_of_ne_nil _ hnil
    simp only [List.mem_filter] at ha
    have hleft : ∀ b ∈ l, q b = true → goesLeft b = true := by
      intro b hb hqb
      by_contra hgoes
      have hab := hcross a ha.1.1 b hb ha.1.2 (by simpa using hgoes)
      rw [hq a b ha.2 hqb] at hab
      exact Bool.noConfusion hab
    have hnil' : (l.filter (!goesLeft ·)).filter q = [] := by
      refine List.filter_eq_nil_iff.2 fun b hb hqb => ?_
      simp only [List.mem_filter, Bool.not_eq_true'] at hb
      rw [hleft b hb.1 hqb] at hb
      exact Bool.noConfusion hb.2
    rw [hnil', List.append_nil, List.filter_filter]
    refine List.filter_congr fun b hb => ?_
    cases hqb : q b with
    | false => rfl
    | true => simp [hleft b hb hqb]

section
variable (h : IsOrderOn precedes p)
include h

/-- A list is put in order by splitting it at pivots. -/
theorem exists_byPivots? (limit : Nat) (ancestor? : Option α)
    (hancestor : ∀ a ∈ ancestor?, p a ∧ ∀ x ∈ l, precedes x a = false) (hl : ∀ a ∈ l, p a) :
    ∃ t, byPivots? precedes limit ancestor? l = some t ∧ IsSorting precedes l t := by
  induction limit generalizing ancestor? l with
  | zero =>
    unfold byPivots?
    split
    · exact exists_short? h hl
    · exact exists_byRuns? _ h (fun hoff => Bool.noConfusion hoff) hl
  | succ limit ih =>
    unfold byPivots?
    split
    · exact exists_short? h hl
    · next hlong =>
      -- the pivot is one of the elements, so both partitions are filters of the list
      have hlt := pivotPlace_lt precedes (l := l) (by omega)
      have hi := List.getElem?_eq_getElem hlt
      have hpivot : p l[pivotPlace precedes l] := hl _ (List.getElem_mem hlt)
      have hfilter (f : α → Bool) : ∀ a ∈ l.filter f, p a :=
        fun a ha => hl a (List.mem_filter.1 ha).1
      dsimp only
      rw [hi]
      generalize l[pivotPlace precedes l] = pivot at hi hpivot
      have hless : split (precedes · pivot) (pivotPlace precedes l) false l =
          (l.filter (precedes · pivot), l.filter (!precedes · pivot)) :=
        split_eq_filter hi (h.irrefl pivot)
      have hequal : split (!precedes pivot ·) (pivotPlace precedes l) true l =
          (l.filter (!precedes pivot ·), l.filter (!!precedes pivot ·)) :=
        split_eq_filter hi (by simp [h.irrefl pivot])
      dsimp only
      rw [hless, hequal]
      dsimp only
      split
      · next hfirst =>
        -- nothing precedes the pivot: the ancestor says so, or the first partition is empty
        have hnone : ∀ x ∈ l, precedes x pivot = false := by
          rw [Bool.or_eq_true] at hfirst
          rcases hfirst with hfirst | hfirst
          · obtain ⟨a, ha, hap⟩ := (Option.any_eq_true _ _).1 hfirst
            obtain ⟨hpa, hxa⟩ := hancestor a ha
            exact fun x hx => h.trans hpa (hxa x hx) (by simpa using hap)
          · intro x hx
            simpa [hx] using List.filter_eq_nil_iff.1 (List.isEmpty_iff.1 hfirst) x
        obtain ⟨t, ht, htSorting⟩ := ih none (by simp) (hfilter (!!precedes pivot ·))
        refine ⟨l.filter (!precedes pivot ·) ++ t, by rw [ht]; rfl,
          isSorting_of_filter h ?_ (.refl ?_) htSorting⟩
        · intro a ha b _ hap hbp
          simp only [Bool.not_eq_true', Bool.not_eq_false'] at hap hbp
          simpa [hap] using h.precedes_or_precedes (hl a ha) hbp
        · -- all of them are like the pivot
          refine List.pairwise_of_forall_mem_list fun a ha b hb => ?_
          simp only [List.mem_filter, Bool.not_eq_true'] at ha hb
          exact h.trans hpivot (hnone b hb.1) ha.2
      · -- the greater part has the pivot for its ancestor, the lesser part keeps the one there was
        obtain ⟨t, ht, htSorting⟩ := ih (some pivot) (l := l.filter (!precedes · pivot))
          (by simpa using hpivot) (hfilter _)
        obtain ⟨s, hs, hsSorting⟩ := ih ancestor? (l := l.filter (precedes · pivot))
          (fun a ha => ⟨(hancestor a ha).1, fun x hx => (hancestor a ha).2 x (List.mem_filter.1 hx).1⟩)
          (hfilter _)
        refine ⟨s ++ t, by rw [ht, hs]; rfl, isSorting_of_filter h ?_ hsSorting htSorting⟩
        intro a _ b hb hap hbp
        simpa [hbp] using h.precedes_or_precedes (hl b hb) hap

/-- A long list is put in order. -/
theorem exists_long? (hl : ∀ a ∈ l, p a) :
    ∃ t, long? precedes l = some t ∧ IsSorting precedes l t :=
  exists_byRuns? _ h (fun _ run hrun => exists_byPivots? h _ none (by simp) hrun) hl

end

end LongOrder

/-- Elements that `precedes` orders are sorted as by insertion. -/
theorem sorted?_eq_sorted {α : Type} {precedes : α → α → Bool} {p : α → Prop} {l : List α}
    (h : IsOrderOn precedes p) (hl : ∀ a ∈ l, p a) :
    sorted? precedes l = some (sorted precedes l) := by
  unfold sorted?
  split
  · rfl
  · obtain ⟨t, ht, hsorting⟩ := LongOrder.exists_long? h hl
    rw [ht, hsorting.unique h hl (isSorting_sorted h hl)]

end AskLedger
