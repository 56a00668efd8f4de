import AskLedger.Question.Answer

/-!
# Narrowing by several filters

Every filter is a condition on single entries, so what the filters of a message leave of a ledger is
again the ledger filtered by some conditions. Which conditions these are depends on where a filter
starts when no entries are left.

If it starts from nothing, all conditions count and their order does not matter
(`Question.narrowed_without_rescue`). If it starts over from the ledger, the conditions before the
last such start are forgotten (`Question.narrowed_with_rescue`), and an entry that a filter refuses
can come back if that filter is one of them (`Question.standing_tests_hold`).

The module introduces:

* `Filter.admits`: whether a filter lets an entry through;
* `Question.leftAfter i`: the entries that are left after the first `i` tests;
* `Question.forgotten`: how many conditions no longer count in the end.
-/

namespace AskLedger

namespace Filter

variable (filters : List Filter) (ledger current : List Entry) (text : List Char) (now : Moment)

/-- Whether a filter lets an entry through. Without its phrase in the message it
lets all through. -/
def admits (f : Filter) (text : List Char) (now : Moment) (e : Entry) : Bool :=
  (f.test? text now).all fun test => test e

/-- An entry passes the tests of some filters exactly if all of them admit it. -/
theorem all_filterMap_test (e : Entry) :
    ((filters.filterMap fun f => f.test? text now).all fun test => test e) =
      filters.all fun f => f.admits text now e := by
  rw [List.all_filterMap]
  congr 1

/-- Where no test starts over, what is left has passed every test. -/
theorem narrow_none (tests : List Entry.Test) :
    narrow .none ledger current tests = current.filter fun e => tests.all fun test => test e := by
  induction tests generalizing current with
  | nil => exact (List.filter_eq_self.2 fun _ _ => rfl).symm
  | cons test rest ih =>
    have hstep : step .none ledger current test = current.filter test := by simp [step]
    calc narrow .none ledger current (test :: rest)
        = narrow .none ledger (current.filter test) rest := by rw [← hstep]; rfl
      _ = (current.filter test).filter (fun e => rest.all fun test => test e) := ih _
      _ = current.filter fun e => (test :: rest).all fun test => test e := by
        rw [List.filter_filter]
        simp only [List.all_cons, Bool.and_comm]

/-- Where no filter starts over, what is left is admitted by every filter. -/
theorem narrowBy_none :
    narrowBy filters .none ledger text now current =
      current.filter fun e => filters.all fun f => f.admits text now e := by
  rw [narrowBy_eq_narrow, narrow_none]
  simp only [all_filterMap_test]

end Filter

namespace Question

/-! ## Without starting over -/

/-- Filters that start from nothing where nothing is left make one condition with the base. -/
theorem narrowBy_candidates (q : Question) (h : q.options.rescue = .none) (filters : List Filter) :
    Filter.narrowBy filters q.options.rescue q.ledger q.text q.now q.candidates =
      q.ledger.filter fun e => q.base e && filters.all fun f => f.admits q.text q.now e := by
  rw [h, Filter.narrowBy_none, candidates, List.filter_filter]
  simp only [Bool.and_comm]

/-- If filters start from nothing where nothing is left, a message narrows a ledger to the entries
that satisfy its base condition and that every filter admits, in the order of the ledger. So parts
of a ledger are narrowed separately, and the order of the filters does not matter. -/
theorem narrowed_without_rescue (q : Question) (h : q.options.rescue = .none) :
    q.narrowed = q.ledger.filter (fun e =>
        q.base e && Filter.all.all fun f => f.admits q.text q.now e) ∧
      (∀ a b, q.ledger = a ++ b →
        q.narrowed = { q with ledger := a }.narrowed ++ { q with ledger := b }.narrowed) ∧
      ∀ filters, filters.Perm Filter.all →
        Filter.narrowBy filters q.options.rescue q.ledger q.text q.now q.candidates =
          q.narrowed := by
  have hall := narrowBy_candidates q h Filter.all
  refine ⟨hall, ?_, ?_⟩
  · intro a b hab
    have ha := narrowBy_candidates { q with ledger := a } h Filter.all
    have hb := narrowBy_candidates { q with ledger := b } h Filter.all
    rw [narrowed, narrowed, narrowed, hall, ha, hb, hab, List.filter_append]
    rfl
  · intro filters hperm
    rw [narrowed, narrowBy_candidates q h, hall]
    simp only [hperm.all_eq]

/-- A recurring expense. -/
def rent : Entry where
  id := "rent"
  date := .startOf ⟨2025, 6, 1, by decide⟩
  amount := 900
  direction := .expense
  isRecurring := true

/-- A recurring income. -/
def wages : Entry :=
  { rent with id := "wages", description? := some "Income from work", direction := .income }

/-- A question with two filters, on the direction and on recurrence. -/
def aboutRecurringIncome (rescue : Rescue) (ledger : List Entry) : Question where
  text := "recurring income".toList
  ledger := ledger
  now := .startOf ⟨2025, 6, 15, by decide⟩
  options := { rescue }

/-- A question that is narrowed without rescue to one of two entries. -/
theorem narrowed_two_entries :
    (aboutRecurringIncome .none [rent, wages]).options.rescue = .none ∧
      (aboutRecurringIncome .none [rent, wages]).narrowed.map (·.id) = ["wages"] := by
  refine ⟨rfl, ?_⟩
  rw [(narrowed_without_rescue (aboutRecurringIncome .none [rent, wages]) rfl).1]
  decide +kernel

/-! ## Starting over -/

/-- The tests of the filters whose phrases are in the message. -/
def tests (q : Question) : List Entry.Test := Filter.tests q.text q.now

/-- All that the message asks of an entry: its base condition, then its tests. -/
def conditions (q : Question) : List Entry.Test := q.base :: q.tests

/-- The entries that are left after the first `i` tests. -/
def leftAfter (q : Question) (i : Nat) : List Entry :=
  Filter.narrow q.options.rescue q.ledger q.candidates (q.tests.take i)

/-- Whether the test that follows the first `i` would start over from the whole ledger. -/
def startsOver (q : Question) (i : Nat) : Bool :=
  (q.leftAfter i).isEmpty && q.options.rescue == .fromLedger

/-- How many conditions no longer count after the first `i` tests: all those before the last test
that started over. -/
def forgottenAfter (q : Question) : Nat → Nat
  | 0 => 0
  | i + 1 => if q.startsOver i then i + 1 else q.forgottenAfter i

/-- How many conditions no longer count in the end. -/
def forgotten (q : Question) : Nat := q.forgottenAfter q.tests.length

variable (q : Question)

@[simp] theorem leftAfter_zero : q.leftAfter 0 = q.candidates := rfl

/-- The first `i + 1` tests leave what the last of them keeps of the entries it starts from. -/
theorem leftAfter_succ {i : Nat} (hi : i < q.tests.length) :
    q.leftAfter (i + 1) =
      (if q.startsOver i then q.ledger else q.leftAfter i).filter q.tests[i] := by
  rw [leftAfter, List.take_add_one, List.getElem?_eq_getElem hi, Filter.narrow_append]
  rfl

/-- All tests together leave what the message narrows the ledger to. -/
theorem leftAfter_length : q.leftAfter q.tests.length = q.narrowed := by
  rw [leftAfter, List.take_length, narrowed, Filter.narrowBy_eq_narrow]
  rfl

/-- No more tests are forgotten than have been made. -/
theorem forgottenAfter_le (i : Nat) : q.forgottenAfter i ≤ i := by
  induction i with
  | zero => exact Nat.le_refl 0
  | succ i ih =>
    rw [forgottenAfter]
    split <;> omega

/-- No more tests are forgotten than there are. -/
theorem forgotten_le_length : q.forgotten ≤ q.tests.length :=
  q.forgottenAfter_le q.tests.length

/-- The conditions that are forgotten end where a test started over. -/
theorem startsOver_of_forgottenAfter {i m : Nat} (h : q.forgottenAfter i = m + 1) :
    q.startsOver m = true := by
  induction i with
  | zero => cases h
  | succ i ih =>
    rw [forgottenAfter] at h
    split at h
    · next hover =>
      obtain rfl : i = m := Nat.succ.inj h
      exact hover
    · exact ih h

/-- No test starts over after the conditions that are forgotten. -/
theorem not_startsOver {i m : Nat} (hm : q.forgottenAfter i ≤ m) (hi : m < i) :
    q.startsOver m = false := by
  induction i with
  | zero => omega
  | succ i ih =>
    rw [forgottenAfter] at hm
    split at hm
    · omega
    · next hover =>
      rcases Nat.lt_succ_iff_lt_or_eq.1 hi with hlt | rfl
      · exact ih hm hlt
      · simpa using hover

/-- What is left after some tests has passed all conditions up to there but the forgotten ones. -/
theorem leftAfter_eq_filter {i : Nat} (hi : i ≤ q.tests.length) :
    q.leftAfter i = q.ledger.filter fun e =>
      ((q.conditions.take (i + 1)).drop (q.forgottenAfter i)).all fun test => test e := by
  induction i with
  | zero => simp [conditions, forgottenAfter, candidates]
  | succ i ih =>
    have hlt : i < q.tests.length := hi
    have hlen : (q.conditions.take (i + 1)).length = i + 1 := by
      simp [conditions, Nat.min_eq_left (Nat.le_of_lt hlt)]
    have htake : q.conditions.take (i + 1 + 1) = q.conditions.take (i + 1) ++ [q.tests[i]] := by
      rw [List.take_add_one, conditions, List.getElem?_cons_succ, List.getElem?_eq_getElem hlt]
      rfl
    rw [leftAfter_succ q hlt, htake, forgottenAfter]
    split
    · -- the test starts over, so it is the only condition that counts
      rw [List.drop_append_of_le_length (Nat.le_of_eq hlen.symm), List.drop_of_length_le
        (Nat.le_of_eq hlen)]
      simp
    · -- the test is one more condition on what was left before it
      have hle := q.forgottenAfter_le i
      rw [List.drop_append_of_le_length (by omega), ih (Nat.le_of_lt hlt), List.filter_filter]
      simp only [List.all_append, List.all_cons, List.all_nil, Bool.and_true]
      simp only [Bool.and_comm]

/-- A message narrows a ledger to the entries that satisfy all conditions but the forgotten ones. -/
theorem narrowed_eq_filter :
    q.narrowed = q.ledger.filter fun e =>
      (q.conditions.drop q.forgotten).all fun test => test e := by
  rw [← leftAfter_length, leftAfter_eq_filter q (Nat.le_refl _), forgotten, List.take_of_length_le
    (by simp [conditions])]

/-- Whatever is left passes every test that is not forgotten. -/
theorem test_of_mem_narrowed {i : Nat} (hi : i < q.tests.length) (hforgotten : q.forgotten ≤ i + 1)
    {e : Entry} (he : e ∈ q.narrowed) : q.tests[i] e = true := by
  rw [narrowed_eq_filter, List.mem_filter, List.all_eq_true] at he
  apply he.2
  rw [List.mem_drop_iff_getElem]
  refine ⟨i + 1 - q.forgotten, by simp [conditions]; omega, ?_⟩
  have hindex : q.forgotten + (i + 1 - q.forgotten) = i + 1 := by omega
  simp only [hindex, conditions, List.getElem_cons_succ]

/-- With rescue, a test starts over exactly where nothing is left. -/
theorem startsOver_iff (h : q.options.rescue = .fromLedger) (i : Nat) :
    q.startsOver i = true ↔ q.leftAfter i = [] := by
  simp [startsOver, h]

/-- Nothing is forgotten exactly if no test starts over. -/
theorem forgotten_eq_zero_iff :
    q.forgotten = 0 ↔ ∀ i < q.tests.length, q.startsOver i = false := by
  constructor
  · intro hzero i hi
    exact q.not_startsOver (Nat.le_trans (Nat.le_of_eq hzero) (Nat.zero_le i)) hi
  · intro hnever
    cases hj : q.forgotten with
    | zero => rfl
    | succ m =>
      have hover := q.startsOver_of_forgottenAfter hj
      have hle := q.forgotten_le_length
      rw [hnever m (by omega)] at hover
      cases hover

/-- Without rescue, nothing is forgotten. -/
theorem forgotten_without_rescue (h : q.options.rescue = .none) : q.forgotten = 0 := by
  rw [forgotten_eq_zero_iff]
  simp [startsOver, h]

/-- Once a test has started over, what is left are the entries of the ledger that pass the tests
from that one on. -/
theorem mem_narrowed_of_forgotten (h : q.forgotten ≠ 0) {e : Entry} :
    e ∈ q.narrowed ↔
      e ∈ q.ledger ∧ ((q.tests.drop (q.forgotten - 1)).all fun test => test e) = true := by
  obtain ⟨m, hm⟩ := Nat.exists_eq_succ_of_ne_zero h
  rw [narrowed_eq_filter, List.mem_filter, hm]
  rfl

/-- With rescue, the conditions that are forgotten end at a test before which nothing is left. -/
theorem leftAfter_eq_nil (h : q.options.rescue = .fromLedger) {m : Nat}
    (hm : q.forgotten = m + 1) : q.leftAfter m = [] :=
  (startsOver_iff q h m).1 (q.startsOver_of_forgottenAfter hm)

/-- With rescue, something is left before every later test. -/
theorem leftAfter_ne_nil (h : q.options.rescue = .fromLedger) {m : Nat} (hm : q.forgotten ≤ m)
    (hlt : m < q.tests.length) : q.leftAfter m ≠ [] := by
  intro hnil
  have hover := q.not_startsOver hm hlt
  rw [(startsOver_iff q h m).2 hnil] at hover
  cases hover

/-- Let `leftAfter i` be the entries that are left after `i` tests, where each test filters what the
tests before it leave or, if they leave nothing, the whole ledger. Then the message narrows the
ledger to what all tests leave. This is the ledger filtered by the conditions from number
`forgotten` on, one past the last `i` below the number of tests for which `leftAfter i` is empty, or
zero if there is none. So whatever is left passes the last test, and without tests the base
condition stands alone. -/
theorem narrowed_with_rescue (h : q.options.rescue = .fromLedger) :
    (q.leftAfter 0 = q.ledger.filter q.base ∧
      ∀ i (hi : i < q.tests.length), q.leftAfter (i + 1) =
        (if q.leftAfter i = [] then q.ledger else q.leftAfter i).filter q.tests[i]) ∧
    q.narrowed = q.leftAfter q.tests.length ∧
    (q.forgotten ≤ q.tests.length ∧
      (∀ i, q.forgotten = i + 1 → q.leftAfter i = []) ∧
      ∀ i, q.forgotten ≤ i → i < q.tests.length → q.leftAfter i ≠ []) ∧
    q.narrowed = q.ledger.filter (fun e =>
      ((q.base :: q.tests).drop q.forgotten).all fun test => test e) ∧
    (∀ test, q.tests.getLast? = some test → ∀ e ∈ q.narrowed, test e = true) ∧
    (q.tests = [] → q.narrowed = q.ledger.filter q.base) := by
  have hle := q.forgotten_le_length
  refine ⟨⟨rfl, ?_⟩, q.leftAfter_length.symm,
    ⟨hle, fun _ => q.leftAfter_eq_nil h, fun _ => q.leftAfter_ne_nil h⟩,
    q.narrowed_eq_filter, ?_, ?_⟩
  · intro i hi
    simp only [q.leftAfter_succ hi, startsOver_iff q h]
  · intro test hlast e he
    rw [List.getLast?_eq_getElem?, List.getElem?_eq_some_iff] at hlast
    obtain ⟨hlt, rfl⟩ := hlast
    exact q.test_of_mem_narrowed hlt (by omega) he
  · intro hnil
    rw [← leftAfter_length, hnil]
    rfl

/-- A question whose second test starts over because the first one leaves nothing. -/
theorem narrowed_after_restart :
    (aboutRecurringIncome .fromLedger [rent]).options.rescue = .fromLedger ∧
      (aboutRecurringIncome .fromLedger [rent]).forgotten = 2 ∧
      (aboutRecurringIncome .fromLedger [rent]).narrowed.map (·.id) = ["rent"] := by
  refine ⟨rfl, by decide +kernel, ?_⟩
  rw [(narrowed_with_rescue (aboutRecurringIncome .fromLedger [rent]) rfl).2.2.2.1]
  decide +kernel

/-! ## Tests that are forgotten -/

/-- The conditions before a test count as long as no later test starts over. -/
theorem forgotten_le (h : q.options.rescue = .fromLedger) {i : Nat}
    (hleft : ∀ m, i < m → m < q.tests.length → q.leftAfter m ≠ []) : q.forgotten ≤ i + 1 := by
  have hle := q.forgotten_le_length
  cases hj : q.forgotten with
  | zero => omega
  | succ m =>
    have hm : ¬ i < m := fun hm => hleft m hm (by omega) (q.leftAfter_eq_nil h hj)
    omega

/-- Starting over can bring back an entry that a filter of the message refuses. -/
theorem refused_entry_comes_back :
    ¬ ∀ q : Question, q.options.rescue = .fromLedger →
      ∀ f ∈ Filter.all, ∀ e ∈ q.narrowed, f.admits q.text q.now e = true := by
  intro hall
  let q := aboutRecurringIncome .fromLedger [rent]
  have hadmitted :
      (q.narrowed.all fun e => Filter.all.all fun f => f.admits q.text q.now e) = true := by
    simp only [List.all_eq_true]
    exact fun e he f hf => hall q rfl f hf e he
  exact absurd hadmitted (by decide +kernel)

/-- What is left passes every test unless some test from that one on, but not the last, leaves
nothing. So if only the base condition leaves nothing, no filter is lost. But where a test leaves
nothing, the next one brings back all that passes it and the tests behind it. -/
theorem standing_tests_hold (h : q.options.rescue = .fromLedger) :
    (∀ i (hi : i < q.tests.length),
      (∀ m, i < m → m < q.tests.length → q.leftAfter m ≠ []) →
        ∀ e ∈ q.narrowed, q.tests[i] e = true) ∧
    ((∀ m, 0 < m → m < q.tests.length → q.leftAfter m ≠ []) →
      ∀ f ∈ Filter.all, ∀ e ∈ q.narrowed, f.admits q.text q.now e = true) ∧
    ∀ m, m < q.tests.length → q.leftAfter m = [] →
      (∀ i, m < i → i < q.tests.length → q.leftAfter i ≠ []) →
        ∀ e ∈ q.ledger, ((q.tests.drop m).all fun test => test e) = true → e ∈ q.narrowed := by
  refine ⟨?_, ?_, ?_⟩
  · intro i hi hleft e he
    exact q.test_of_mem_narrowed hi (q.forgotten_le h hleft) he
  · intro hleft f hf e he
    have htests : (q.tests.all fun test => test e) = true := by
      rw [List.all_eq_true]
      intro test htest
      obtain ⟨i, hi, rfl⟩ := List.mem_iff_getElem.1 htest
      exact q.test_of_mem_narrowed hi (Nat.le_trans (q.forgotten_le h hleft) (by omega)) he
    rw [tests, Filter.tests, Filter.all_filterMap_test, List.all_eq_true] at htests
    exact htests f hf
  · intro m hm hnil hleft e he hpass
    have hle := q.forgotten_le h hleft
    -- everything up to the last stage that leaves nothing is forgotten, and nothing more
    have hge : ¬ q.forgotten ≤ m := fun hfm => q.leftAfter_ne_nil h hfm hm hnil
    have hforgotten : q.forgotten = m + 1 := by omega
    rw [q.mem_narrowed_of_forgotten (by omega), hforgotten]
    exact ⟨he, hpass⟩

/-- A question whose first test leaves nothing, so that the second one brings back an entry that the
first one refuses. -/
theorem rent_comes_back :
    (aboutRecurringIncome .fromLedger [rent]).options.rescue = .fromLedger ∧
      (aboutRecurringIncome .fromLedger [rent]).leftAfter 1 = [] ∧
      rent ∈ (aboutRecurringIncome .fromLedger [rent]).narrowed := by
  have hlen : (aboutRecurringIncome .fromLedger [rent]).tests.length = 2 := by decide +kernel
  have hnil : (aboutRecurringIncome .fromLedger [rent]).leftAfter 1 = [] := by decide +kernel
  refine ⟨rfl, hnil, ?_⟩
  refine (standing_tests_hold (aboutRecurringIncome .fromLedger [rent]) rfl).2.2 1 (by omega) hnil
    (fun i _ _ => by omega) rent (List.mem_singleton.2 rfl) (by decide +kernel)

end Question

end AskLedger
