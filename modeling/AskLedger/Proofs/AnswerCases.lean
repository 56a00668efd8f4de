import AskLedger.Proofs.RankedEntries
import AskLedger.Proofs.YearSummary

/-!
# Which answer a message gets

The answer to a message is decided by few things: whether it concerns the ledger, whether its
filters leave anything, whether it asks for a year only, and which of the two ways out it offers
when nothing is left. One is a word such as `show`, which takes the newest entries; the other is a
ranking, which starts over from the whole ledger. Where a message offers both, the newest entries
are taken first, and the ranking sees no others. There is no answer at all if nothing comes of the
ranking, which takes many entries and an amount among theirs that is not a number.

* `Question.shortlist_eq_nil_iff`: when a message picks nothing.
* `Question.answer_cases`: when each kind of answer is given.
* `Question.ranked_entries`: which entries a ranking puts in order.
-/

namespace AskLedger

/-- No entries are the newest only of an empty ledger. -/
theorem Entry.newest_eq_nil_iff {n : Nat} (hn : 1 ≤ n) {entries : List Entry} :
    Entry.newest n entries = [] ↔ entries = [] := by
  rw [← List.length_eq_zero_iff, ← List.length_eq_zero_iff, newest, List.length_take,
    (newestFirst_perm entries).length_eq]
  omega

/-- A number of newest entries that is not exceeded takes in the whole ledger. -/
theorem Entry.newest_perm {n : Nat} {entries : List Entry} (h : entries.length ≤ n) :
    (Entry.newest n entries).Perm entries := by
  have hlength := (newestFirst_perm entries).length_eq
  rw [newest, List.take_of_length_le (by omega)]
  exact newestFirst_perm entries

namespace Ranking

end Ranking

namespace Question

variable {q : Question}

/-! ## Which answer is given -/

/-- The entries cannot be put in order exactly if nothing comes of the ranking that is asked for. -/
theorem isRanked_eq_false_iff :
    q.isRanked = false ↔ ∃ r, q.ranking? = some r ∧ r.ranked? q.pool = none := by
  unfold isRanked
  cases q.ranking? with
  | none => simp
  | some r => simp

/-- There is no answer to a message only if it asks for a ranking by amount and, of more than twenty
entries that are to be ranked, some amount is not a number. -/
theorem of_answer?_eq_none (h : q.answer? = none) :
    (∃ r, q.ranking? = some r ∧ r.key = .amount) ∧ 20 < q.pool.length ∧
      ∃ e ∈ q.pool, e.amount.isNaN = true := by
  obtain ⟨-, hnot⟩ := answer?_eq_none_iff.1 h
  obtain ⟨r, hr, hnone⟩ := isRanked_eq_false_iff.1 hnot
  obtain ⟨hkey, hlong, hnan⟩ := Ranking.of_ranked?_eq_none hnone
  exact ⟨⟨r, hr, hkey⟩, hlong, hnan⟩

/-- A small expense, later than `rent`. -/
def tea : Entry :=
  { rent with id := "tea", date := .startOf ⟨2025, 6, 2, by decide⟩, amount := 20 }

/-- A question for the biggest entries that also asks to show some. -/
def aboutBiggest : Question where
  text := "show biggest".toList
  ledger := [tea, rent]
  now := tea.date
  options := { newestRows := 1 }

/-- No entry is about biggest ones. -/
theorem narrowed_aboutBiggest : aboutBiggest.narrowed = [] := by decide

/-- A question for the five biggest of expenses with the given amounts. -/
def aboutFiveOf (amounts : List Float) : Question where
  text := "top 5 expenses".toList
  ledger := amounts.map fun amount => { rent with amount }
  now := tea.date

/-- The numbers up to twenty and, among them, an amount that is not a number. -/
def amountsWithNone : List Float :=
  [1, 2, 3, 4, 5, 0 / 0, 6, 7, 8, 9, 10, 11, 12, 13, 14, 15, 16, 17, 18, 19, 20]

/-- The five biggest of these are not told, though the filters leave all of them. -/
theorem no_five_of_amountsWithNone :
    (aboutFiveOf amountsWithNone).narrowed.length = 21 ∧
      (aboutFiveOf amountsWithNone).answer? = none := by
  constructor <;> decide +kernel

/-! ## Which entries are ranked -/

/-- With rescue, a ranking puts in order what the filters leave. If they leave nothing, it puts the
newest entries in order where a word asks for them and some are taken, and the whole ledger
otherwise. So such a word makes no difference to the entries that are ranked, but perhaps to the
order of those that compare equal, where the filters leave something, where no newest entries are
taken, or where all entries are among the newest. -/
theorem ranked_entries (q : Question) (h : q.options.rescue = .fromLedger) {r : Ranking}
    (hr : q.ranking? = some r) :
    (q.narrowed ≠ [] → q.shortlist.entries = r.apply q.narrowed) ∧
    (q.narrowed = [] →
      (showWord.isIn q.text = false ∨ q.options.newestRows = 0 →
        q.shortlist.entries = r.apply q.ledger) ∧
      (showWord.isIn q.text = true → q.options.newestRows ≠ 0 →
        q.shortlist.entries = r.apply (Entry.newest q.options.newestRows q.ledger)) ∧
      (q.ledger.length ≤ q.options.newestRows →
        ∃ pool, pool.Perm q.ledger ∧ q.shortlist.entries = r.apply pool)) := by
  have hentries : q.shortlist.entries =
      r.apply (if q.unranked = [] then q.ledger else q.unranked) := by
    simp only [shortlist, hr, pool, h, Rescue.input_fromLedger]
  have hledger : q.narrowed = [] → showWord.isIn q.text = false ∨ q.options.newestRows = 0 →
      q.shortlist.entries = r.apply q.ledger := by
    intro hnil hno
    have hunranked : q.unranked = [] := by
      rcases hno with hshow | hzero
      · simp [unranked, fallsBack, hnil, hshow]
      · simp [unranked, hnil, hzero, Entry.newest]
    rw [hentries, if_pos hunranked]
  have hnewest : q.narrowed = [] → showWord.isIn q.text = true → q.options.newestRows ≠ 0 →
      q.shortlist.entries = r.apply (Entry.newest q.options.newestRows q.ledger) := by
    intro hnil hshow hpos
    have hunranked : q.unranked = Entry.newest q.options.newestRows q.ledger := by
      simp [unranked, fallsBack, hnil, hshow]
    rw [hentries, hunranked]
    -- there are no newest entries only if the ledger is empty, and then both sides are
    split
    · next hempty => rw [hempty, (Entry.newest_eq_nil_iff (by omega)).1 hempty]
    · rfl
  refine ⟨?_, fun hnil => ⟨hledger hnil, hnewest hnil, ?_⟩⟩
  · intro hne
    have hunranked : q.unranked = q.narrowed := by simp [unranked, fallsBack, hne]
    rw [hentries, hunranked, if_neg hne]
  · -- whichever entries are ranked here, they are those of the whole ledger
    intro hlength
    by_cases hzero : q.options.newestRows = 0
    · exact ⟨q.ledger, .refl _, hledger hnil (.inr hzero)⟩
    · cases hshow : showWord.isIn q.text with
      | true => exact ⟨_, Entry.newest_perm hlength, hnewest hnil hshow hzero⟩
      | false => exact ⟨q.ledger, .refl _, hledger hnil (.inl hshow)⟩

/-- A ranking of one newest entry, of which there are two. -/
theorem biggest_of_newest :
    aboutBiggest.options.rescue = .fromLedger ∧
      aboutBiggest.ranking? = some ⟨.amount, .descending, 10⟩ ∧
      aboutBiggest.shortlist.entries.map (·.id) = ["tea"] := by
  have hr : aboutBiggest.ranking? = some ⟨.amount, .descending, 10⟩ := by decide
  refine ⟨rfl, hr, ?_⟩
  rw [((ranked_entries aboutBiggest rfl hr).2 narrowed_aboutBiggest).2.1 (by decide)
    (by decide)]
  decide

/-- A word that asks for the newest entries can keep a larger entry out of a ranking. -/
theorem larger_entry_is_not_ranked :
    ¬ ∀ (q : Question) (r : Ranking), q.options.rescue = .fromLedger → q.ranking? = some r →
      (q.narrowed ≠ [] → q.shortlist.entries = r.apply q.narrowed) ∧
      (q.narrowed = [] → q.shortlist.entries = r.apply q.ledger) := by
  intro hall
  have hr : aboutBiggest.ranking? = some ⟨.amount, .descending, 10⟩ := by decide
  have hentries := (hall aboutBiggest _ rfl hr).2 narrowed_aboutBiggest
  have hids := congrArg (List.map (·.id)) hentries
  exact absurd hids (by decide)

end Question

end AskLedger
