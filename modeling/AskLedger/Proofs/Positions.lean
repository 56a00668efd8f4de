import Mathlib.Data.List.Perm.Subperm
import AskLedger.Proofs.Narrowing

/-!
# Where the entries of an answer stand

Equal entries can stand in a ledger more than once. What a message picks is therefore described by
positions of the ledger: every picked entry stands at a position of its own. Filters keep the order
of the ledger, also when they start over from it. Taking the newest entries and ranking both change
the order and cut, so they pick from what they are given without repeating any of it.

* `Filter.narrow_sublist`: filters keep the order of the ledger.
* `Question.unranked_subperm`: nothing is taken twice before a ranking, and no ranking does so.
* `Question.entries_at_positions`: the positions of the entries that a message picks.
-/

namespace AskLedger

open List (Sublist Subperm)

variable {ledger entries : List Entry}

/-! ## Keeping the order -/

namespace Filter

/-- A stage takes entries of the ledger in their order. -/
theorem step_sublist (rescue : Rescue) (h : entries.Sublist ledger) (test : Entry.Test) :
    (step rescue ledger entries test).Sublist ledger := by
  have hinput : (rescue.input ledger entries).Sublist ledger := by
    unfold Rescue.input
    split
    · exact .refl ledger
    · exact h
  exact List.filter_sublist.trans hinput

/-- Tests keep the order of the ledger, whether or not they start over from it. -/
theorem narrow_sublist (rescue : Rescue) (h : entries.Sublist ledger) (tests : List Entry.Test) :
    (narrow rescue ledger entries tests).Sublist ledger := by
  induction tests generalizing entries with
  | nil => exact h
  | cons test tests ih => exact ih (step_sublist rescue h test)

end Filter

/-- What is left behind the stages are entries of the ledger in their order. -/
theorem Question.narrowed_sublist (q : Question) : q.narrowed.Sublist q.ledger := by
  rw [narrowed, Filter.narrowBy_eq_narrow]
  exact Filter.narrow_sublist _ List.filter_sublist _

/-! ## Taking nothing twice -/

theorem Entry.newest_subperm (n : Nat) : (Entry.newest n ledger).Subperm ledger :=
  (List.take_sublist n _).subperm.trans (newestFirst_perm ledger).subperm

/-- A ranking takes no entry twice. -/
theorem Ranking.apply_subperm (r : Ranking) : (r.apply entries).Subperm entries := by
  obtain ⟨full, hperm, happly⟩ := r.exists_perm_apply entries
  rw [happly]
  exact (List.take_sublist r.limit full).subperm.trans hperm.subperm

/-- A stage that starts again takes no entry twice. -/
theorem Rescue.input_subperm (rescue : Rescue) (h : entries.Subperm ledger) :
    (rescue.input ledger entries).Subperm ledger := by
  unfold input
  split
  · exact .refl ledger
  · exact h

namespace Question

/-- Before a ranking, every entry is taken at most as often as the ledger has it. -/
theorem unranked_subperm (q : Question) : q.unranked.Subperm q.ledger := by
  unfold unranked
  split
  · exact Entry.newest_subperm _
  · exact q.narrowed_sublist.subperm

/-- What is ranked has every entry at most as often as the ledger. -/
theorem pool_subperm (q : Question) : q.pool.Subperm q.ledger :=
  q.options.rescue.input_subperm q.unranked_subperm

/-- Every entry is picked at most as often as the ledger has it. -/
theorem entries_subperm (q : Question) : q.shortlist.entries.Subperm q.ledger := by
  simp only [shortlist]
  split
  · next r hr => exact r.apply_subperm.trans q.pool_subperm
  · exact q.unranked_subperm

end Question

/-! ## Positions -/

/-- Entries in the order of a ledger stand at ascending positions of it. -/
theorem positions_of_sublist (h : entries.Sublist ledger) :
    ∃ positions : List (Fin ledger.length),
      entries = positions.map ledger.get ∧ positions.Pairwise (· < ·) :=
  List.sublist_eq_map_getElem h

/-- Entries that are taken at most as often as a ledger has them stand at positions of it of which
no two are the same. -/
theorem positions_of_subperm (h : entries.Subperm ledger) :
    ∃ positions : List (Fin ledger.length),
      entries = positions.map ledger.get ∧ positions.Nodup := by
  obtain ⟨inOrder, hperm, hsub⟩ := h
  obtain ⟨positions, rfl, hascending⟩ := positions_of_sublist hsub
  have hcomp : Relation.Comp (· = List.map ledger.get ·) (·.Perm ·) entries positions := by
    rw [List.eq_map_comp_perm]
    exact hperm.symm
  obtain ⟨positions', hentries, hperm'⟩ := hcomp
  exact ⟨positions', hentries, hperm'.nodup_iff.2 (hascending.imp Fin.ne_of_lt)⟩

namespace Question

/-- The entries that a message picks stand at positions of the ledger of which no two are the same.
If neither the newest entries are taken nor a ranking is asked for, the positions ascend. A ranking
keeps at most as many entries as its limit; if the newest entries are taken and no ranking is asked
for, there are at most as many of them as the options say. -/
theorem entries_at_positions (q : Question) :
    ∃ positions : List (Fin q.ledger.length),
      q.shortlist.entries = positions.map q.ledger.get ∧ positions.Nodup ∧
      (q.fallsBack = false → q.ranking? = none → positions.Pairwise (· < ·)) ∧
      (∀ r, q.ranking? = some r → positions.length ≤ r.limit) ∧
      (q.fallsBack = true → q.ranking? = none →
        positions.length ≤ q.options.newestRows) := by
  by_cases hplain : q.fallsBack = false ∧ q.ranking? = none
  · -- nothing is put in another order, so the positions ascend
    obtain ⟨hfalls, hranking⟩ := hplain
    have hentries : q.shortlist.entries = q.narrowed := by
      simp [shortlist, hranking, unranked, hfalls]
    obtain ⟨positions, hpositions, hascending⟩ := positions_of_sublist q.narrowed_sublist
    refine ⟨positions, hentries.trans hpositions, hascending.imp Fin.ne_of_lt,
      fun _ _ => hascending, ?_, ?_⟩
    · simp [hranking]
    · simp [hfalls]
  · -- what is ranked or newest is a part of the ledger in some other order
    obtain ⟨positions, hpositions, hdistinct⟩ := positions_of_subperm q.entries_subperm
    have hlength := congrArg List.length hpositions
    rw [List.length_map] at hlength
    refine ⟨positions, hpositions, hdistinct, fun hf hr => absurd ⟨hf, hr⟩ hplain, ?_, ?_⟩
    · intro r hr
      rw [← hlength]
      simp only [shortlist, hr, Ranking.length_apply]
      exact Nat.min_le_left _ _
    · intro hfalls hranking
      rw [← hlength]
      simp only [shortlist, hranking, unranked, hfalls, if_true, Entry.newest]
      exact List.length_take_le _ _

/-- A question about a ledger that has the same entry twice. -/
def aboutTwoRents : Question := aboutRecurringIncome .fromLedger [rent, rent]

/-- Both of two equal entries are picked, each at its own position. -/
theorem equal_entries_are_both_picked :
    aboutTwoRents.fallsBack = false ∧ aboutTwoRents.ranking? = none ∧
      aboutTwoRents.shortlist.entries.length = 2 ∧
      ∃ positions : List (Fin 2), positions = [0, 1] ∧
        aboutTwoRents.shortlist.entries = positions.map aboutTwoRents.ledger.get := by
  have hfalls : aboutTwoRents.fallsBack = false := by decide
  have hranking : aboutTwoRents.ranking? = none := by decide
  have hlength : aboutTwoRents.shortlist.entries.length = 2 := by decide
  obtain ⟨positions, hentries, -, hascending, -, -⟩ := entries_at_positions aboutTwoRents
  refine ⟨hfalls, hranking, hlength, positions, ?_, hentries⟩
  rw [hentries, List.length_map] at hlength
  obtain ⟨i, j, rfl⟩ := List.length_eq_two.1 hlength
  have hij : i < j := by simpa using hascending hfalls hranking
  -- there are only two positions
  have honly : ∀ i j : Fin 2, i < j → [i, j] = [0, 1] := by decide
  exact honly i j hij

end Question

end AskLedger
