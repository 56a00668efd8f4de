import AskLedger.Proofs.RankedEntries
import AskLedger.Question.Answer
import AskLedger.Store.File
import AskLedger.Store.Memory

/-!
# The newest entries, wherever they are taken

The newest entries are taken in three places. A store takes them of what it has of a user, a
ranking that begins with the latest dates takes them of what is left of a ledger, and a message that
asks for entries whatever they are gets them where nothing else is left. There is only one order
with the newest first in which entries of one moment stay as they were, and all three take its first
entries.

So it does no harm to take them again. A store gives its entries in that order already, and sorting
them once more leaves them where they are: the newest of them are the first ones.

* `Entry.newestFirst_eq_self`: what has the newest first is not changed by putting them first.
* `Entry.newest_newest`: the newest of the newest entries.
* `newest_in_all_places`: the three places agree, and the newest entries of a ledger that comes from
  a store are a part from its front.
-/

namespace AskLedger

namespace Entry

variable {rows full : List Entry}

/-- What has the newest first is not changed by putting them first. -/
theorem newestFirst_eq_self (h : rows.Pairwise fun a b => b.date ≤ a.date) :
    newestFirst rows = rows := by
  -- `rows` itself keeps the order of entries of one moment, and there is only one such order
  have hself : IsNewestFirst rows rows := ⟨.refl rows, h, fun _ => rfl⟩
  exact (isNewestFirst_iff.1 hself).symm

/-- The newest entries are the first ones of the newest first order. -/
theorem newest_eq_take (h : IsNewestFirst rows full) (n : Nat) : newest n rows = full.take n := by
  rw [newest, isNewestFirst_iff.1 h]

/-- No entry among the newest is newer than one in front of it. -/
theorem pairwise_newest (n : Nat) (rows : List Entry) :
    (newest n rows).Pairwise fun a b => b.date ≤ a.date :=
  (isNewestFirst_newestFirst rows).descending.sublist (List.take_sublist n _)

/-- The newest of the newest entries are the first ones of them. -/
theorem newest_newest (m n : Nat) (rows : List Entry) :
    newest n (newest m rows) = (newest m rows).take n := by
  rw [newest, newestFirst_eq_self (pairwise_newest m rows)]

end Entry

/-- A ranking that begins with the latest dates takes the newest entries. -/
theorem Ranking.ranked?_byDate (n : Nat) (rows : List Entry) :
    ranked? ⟨.date, .descending, n⟩ rows = some (Entry.newest n rows) := by
  -- to be below from the far end is to be newer
  have hprecedes : precedes ⟨.date, .descending, n⟩ = Entry.isNewer := rfl
  rw [ranked?_of_isKnown fun _ _ hkey => absurd hkey RankKey.noConfusion, hprecedes, Entry.newest,
    Entry.newestFirst]

/-- A message that falls back on the newest entries gets as many as its options say. -/
theorem Question.unranked_of_fallsBack {q : Question} (h : q.fallsBack = true) :
    q.unranked = Entry.newest q.options.newestRows q.ledger := by
  rw [unranked, if_pos h]

/-! ## Stores -/

/-- What a store gives as the newest entries of a user, at most `limit` of them. -/
inductive IsFetched (limit : Nat) : List Entry → Prop where
  /-- From a file that can be read. -/
  | file {format : StoreFormat} {user : String} {content? : Option ByteArray} {rows : List Entry}
    (h : format.recent user limit content? = .ok rows) : IsFetched limit rows
  /-- From memory. -/
  | memory (s : MemoryStore) (user : String) : IsFetched limit (s.recent user limit)

/-- The newest entries of a file are those of all its entries. -/
theorem StoreFormat.recent_of_entries {format : StoreFormat} {user : String}
    {content? : Option ByteArray} {rows : List Entry} (h : format.entries user content? = .ok rows)
    (limit : Nat) : format.recent user limit content? = .ok (Entry.newest limit rows) := by
  rw [recent, h]
  rfl

/-- Every store takes the newest of some entries. -/
theorem IsFetched.exists_rows {limit : Nat} {ledger : List Entry} (h : IsFetched limit ledger) :
    ∃ rows, ledger = Entry.newest limit rows := by
  cases h with
  | @file format user content? _ h =>
    cases hentries : format.entries user content? with
    | error e => simp [StoreFormat.recent, hentries, Except.map] at h
    | ok rows =>
      rw [StoreFormat.recent_of_entries hentries] at h
      exact ⟨rows, (Except.ok.inj h).symm⟩
  | memory s user => exact ⟨s.rowsOf user, rfl⟩

/-! ## All places -/

/-- Of any rows there is one order with the newest first that keeps the order of those of one
moment, and its first `n` are what every place takes: a store of the rows of a user, a ranking that
begins with the latest dates, and a message that falls back on the newest entries. Of what has been
taken the newest are the first ones, so a message that falls back on a ledger from a store gets a
part from its front. -/
theorem newest_in_all_places :
    (∀ (rows : List Entry) (n : Nat), ∃ full, (∀ l, Entry.IsNewestFirst rows l ↔ l = full) ∧
      Entry.newest n rows = full.take n ∧
      Ranking.apply ⟨.date, .descending, n⟩ rows = full.take n ∧
      Ranking.ranked? ⟨.date, .descending, n⟩ rows = some (full.take n) ∧
      (∀ q : Question, q.ledger = rows → q.options.newestRows = n → q.fallsBack = true →
        q.unranked = full.take n) ∧
      (∀ (s : MemoryStore) (user : String), s.rowsOf user = rows →
        s.recent user n = full.take n) ∧
      ∀ (format : StoreFormat) (user : String) (content? : Option ByteArray),
        format.entries user content? = .ok rows →
          format.recent user n content? = .ok (full.take n)) ∧
    (∀ (rows : List Entry) (m n : Nat),
      Entry.newest n (Entry.newest m rows) = (Entry.newest m rows).take n) ∧
    ∀ (q : Question) (limit : Nat), IsFetched limit q.ledger → q.fallsBack = true →
      q.unranked = q.ledger.take q.options.newestRows ∧ q.unranked <+: q.ledger := by
  refine ⟨fun rows n => ?_, fun rows m n => Entry.newest_newest m n rows,
    fun q limit hledger h => ?_⟩
  · -- one list alone is in the order by date, so every place that follows the order gives that list
    have hnewest : Entry.newest n rows = (Entry.newestFirst rows).take n :=
      Entry.newest_eq_take (Entry.isNewestFirst_newestFirst rows) n
    have hranked := Ranking.ranked?_byDate n rows
    rw [hnewest] at hranked
    refine ⟨Entry.newestFirst rows, fun l => Entry.isNewestFirst_iff, hnewest,
      Ranking.apply_of_ranked? hranked, hranked, ?_, ?_, ?_⟩
    · rintro q rfl rfl h
      rw [Question.unranked_of_fallsBack h, hnewest]
    · rintro s user rfl
      rw [MemoryStore.recent, hnewest]
    · intro format user content? h
      rw [StoreFormat.recent_of_entries h, hnewest]
  · -- what the store has taken is in order, whatever rows it has taken it of
    obtain ⟨rows, hrows⟩ := hledger.exists_rows
    have htake : q.unranked = q.ledger.take q.options.newestRows := by
      rw [Question.unranked_of_fallsBack h, hrows, Entry.newest_newest]
    exact ⟨htake, htake ▸ List.take_prefix _ _⟩

namespace Question

/-- Three rows of a user, the last two of one day. -/
def kitchenStore : MemoryStore :=
  let row (id : String) (day : Date) : Entry :=
    { id, date := .startOf day, amount := 10.0, direction := .expense }
  ⟨[("asha", [row "chai" ⟨2025, 3, 3, by decide⟩, row "rent" ⟨2025, 3, 9, by decide⟩,
    row "fuel" ⟨2025, 3, 9, by decide⟩])]⟩

/-- A question that asks for everything and names nothing. -/
def aboutAll : Question where
  text := "show all".toList
  ledger := kitchenStore.recent "asha" 3
  now := .startOf ⟨2025, 3, 11, by decide⟩
  options := { newestRows := 2 }

/-- The two rows of the newest day are shown, in the order in which they were given. -/
theorem all_from_store :
    IsFetched 3 aboutAll.ledger ∧ aboutAll.fallsBack = true ∧
      aboutAll.unranked.map (·.id) = ["rent", "fuel"] ∧
      aboutAll.unranked = aboutAll.ledger.take 2 ∧
      Ranking.apply ⟨.date, .descending, 2⟩ (kitchenStore.rowsOf "asha") = aboutAll.unranked := by
  have hledger : IsFetched 3 aboutAll.ledger := .memory kitchenStore "asha"
  have hfalls : aboutAll.fallsBack = true := by decide
  obtain ⟨hplaces, -, hfetched⟩ := newest_in_all_places
  have htake : aboutAll.unranked = aboutAll.ledger.take 2 := (hfetched aboutAll 3 hledger hfalls).1
  refine ⟨hledger, hfalls, by decide, htake, ?_⟩
  -- the store has sorted all three rows, so its first two are the first two of the only order
  obtain ⟨full, -, hnewest, hranked, -⟩ := hplaces (kitchenStore.rowsOf "asha") 2
  rw [hranked, htake, ← hnewest]
  rfl

end Question

end AskLedger
