import Mathlib.Data.List.Induction
import AskLedger.Proofs.StableOrder
import AskLedger.Store.Memory

/-!
# Ledgers in memory after any calls

A store in memory starts empty and is filled by calls that name a user and give one row or several.
What it holds after a run of calls depends, for each user, on the calls that name that user alone,
and it makes no difference whether rows are given together or one after another.

* `MemoryStore.rowsOf_run`: a user has the rows that were given for that user, in order.
* `MemoryStore.recent_after_calls`: what the newest rows are after any calls, and who the users are.
-/

namespace AskLedger.MemoryStore

/-- A call that fills a store. -/
inductive Call where
  /-- Gives one row of a user. -/
  | insert (user : String) (row : Entry)
  /-- Gives several rows of a user, possibly none. -/
  | add (user : String) (rows : List Entry)

namespace Call

/-- The user that a call names. -/
def user : Call → String
  | insert user _ => user
  | add user _ => user

/-- The rows that a call gives. -/
def rows : Call → List Entry
  | insert _ row => [row]
  | add _ rows => rows

/-- The store after a call. -/
def apply (s : MemoryStore) : Call → MemoryStore
  | insert user row => s.insert user row
  | add user rows => s.add user rows

/-- The calls that give the rows of a call one by one. -/
def oneByOne (c : Call) : List Call :=
  c.rows.map (insert c.user)

@[simp] theorem user_insert (user : String) (row : Entry) : (insert user row).user = user := rfl

@[simp] theorem rows_insert (user : String) (row : Entry) : (insert user row).rows = [row] := rfl

/-- A call adds its rows to the ledger of its user. -/
theorem apply_eq (s : MemoryStore) (c : Call) : c.apply s = s.add c.user c.rows := by
  cases c <;> rfl

end Call

/-- The store after a run of calls. -/
def run (calls : List Call) : MemoryStore :=
  calls.foldl Call.apply {}

/-- The rows that calls give for a user, in the order of the calls. -/
def given (user : String) (calls : List Call) : List Entry :=
  (calls.filter (·.user = user)).flatMap Call.rows

/-! ## One call -/

theorem users_addTo (user : String) (rows : List Entry) (ledgers : List (String × List Entry)) :
    (addTo user rows ledgers).map (·.1) =
      if user ∈ ledgers.map (·.1) then ledgers.map (·.1) else ledgers.map (·.1) ++ [user] := by
  induction ledgers with
  | nil => rfl
  | cons ledger rest ih =>
    obtain ⟨name, old⟩ := ledger
    rw [addTo]
    by_cases hname : name = user
    · simp [hname]
    · -- the ledger of the user, if there is one, is among the others
      have hiff : user ∈ name :: rest.map (·.1) ↔ user ∈ rest.map (·.1) := by
        simp [Ne.symm hname]
      simp only [hname, if_false, List.map_cons, ih, hiff]
      split <;> rfl

/-- A user that has not been named before becomes the last one. -/
theorem users_add (s : MemoryStore) (user : String) (rows : List Entry) :
    (s.add user rows).users = if user ∈ s.users then s.users else s.users ++ [user] :=
  users_addTo user rows s.ledgers

/-- A call adds its user to the users. -/
theorem mem_users_add {s : MemoryStore} {user name : String} {rows : List Entry} :
    name ∈ (s.add user rows).users ↔ name ∈ s.users ∨ name = user := by
  rw [users_add]
  split
  · next hmem =>
    refine ⟨.inl, fun h => ?_⟩
    rcases h with h | rfl
    · exact h
    · exact hmem
  · simp

/-- No user is listed twice. -/
theorem nodup_users_add {s : MemoryStore} (h : s.users.Nodup) (user : String) (rows : List Entry) :
    (s.add user rows).users.Nodup := by
  rw [users_add]
  split
  · exact h
  · next hmem =>
    refine List.nodup_append.2 ⟨h, List.pairwise_singleton _ user, fun name hname other hother => ?_⟩
    rw [List.mem_singleton.1 hother]
    rintro rfl
    exact hmem hname

/-! ## Runs of calls -/

theorem run_concat (calls : List Call) (c : Call) :
    run (calls ++ [c]) = (run calls).add c.user c.rows := by
  rw [run, List.foldl_append, List.foldl_cons, List.foldl_nil, Call.apply_eq]
  rfl

/-- What a user is given by calls and by further ones. -/
theorem given_append (user : String) (calls more : List Call) :
    given user (calls ++ more) = given user calls ++ given user more := by
  simp [given]

theorem given_singleton (user : String) (c : Call) :
    given user [c] = if user = c.user then c.rows else [] := by
  by_cases h : c.user = user
  · simp [given, h]
  · simp [given, h, Ne.symm h]

/-- A user has the rows that were given for that user, in the order of the calls. -/
theorem rowsOf_run (calls : List Call) (user : String) :
    (run calls).rowsOf user = given user calls := by
  induction calls using List.reverseRecOn with
  | nil => rfl
  | append_singleton calls c ih =>
    rw [run_concat, rowsOf_add, ih, given_append, given_singleton]

/-- After any calls the newest entries of a user are those of what the calls have given. -/
theorem recent_run (calls : List Call) (user : String) (limit : Nat) :
    (run calls).recent user limit = Entry.newest limit (given user calls) := by
  rw [recent, rowsOf_run]

/-- The users are those that some call names, and each of them is kept once. -/
theorem users_run (calls : List Call) :
    (run calls).users.Nodup ∧ ∀ user, user ∈ (run calls).users ↔ ∃ c ∈ calls, c.user = user := by
  induction calls using List.reverseRecOn with
  | nil => simp [run, users]
  | append_singleton calls c ih =>
    obtain ⟨hnodup, hmem⟩ := ih
    rw [run_concat]
    refine ⟨nodup_users_add hnodup _ _, fun user => ?_⟩
    rw [mem_users_add, hmem]
    simp [or_and_right, exists_or, eq_comm]

/-- Calls that name other users give nothing. -/
theorem given_filter_user (user : String) (calls : List Call) :
    given user (calls.filter (·.user = user)) = given user calls := by
  simp [given]

/-- It makes no difference whether the rows of a call are given one by one. -/
theorem given_oneByOne (user : String) (calls : List Call) :
    given user (calls.flatMap Call.oneByOne) = given user calls := by
  induction calls with
  | nil => rfl
  | cons c calls ih =>
    have hcall : given user c.oneByOne = given user [c] := by
      rw [given_singleton]
      by_cases h : c.user = user
      · simp [given, Call.oneByOne, List.filter_map, Function.comp_def, List.flatMap_map, h]
      · simp [given, Call.oneByOne, List.filter_map, Function.comp_def, h, Ne.symm h]
    rw [List.flatMap_cons, given_append, hcall, ih, ← given_append]
    rfl

/-- After any calls the newest rows of a user are the first ones of the only list that has the
rows given for that user in the order of their dates, and those of one moment in the order of
the calls. Calls that name other users do not matter, nor does it matter whether rows are
given together. Asking for fewer rows gives a part from the front, and the users are those
that were named, each once. -/
theorem recent_after_calls (calls : List Call) :
    (∀ user, ∃ ordered, (∀ l, Entry.IsNewestFirst (given user calls) l ↔ l = ordered) ∧
      ∀ limit, (run calls).recent user limit = ordered.take limit) ∧
    (∀ user limit, (run (calls.filter (·.user = user))).recent user limit =
      (run calls).recent user limit) ∧
    (∀ user limit, (run (calls.flatMap Call.oneByOne)).recent user limit =
      (run calls).recent user limit) ∧
    (∀ user k n, k ≤ n → (run calls).recent user k <+: (run calls).recent user n) ∧
    (run calls).users.Nodup ∧ ∀ user, user ∈ (run calls).users ↔ ∃ c ∈ calls, c.user = user := by
  refine ⟨fun user => ?_, fun user limit => ?_, fun user limit => ?_, fun user k n h => ?_,
    users_run calls⟩
  · exact ⟨_, fun l => Entry.isNewestFirst_iff, fun limit => recent_run calls user limit⟩
  · rw [recent_run, recent_run, given_filter_user]
  · rw [recent_run, recent_run, given_oneByOne]
  · rw [recent_run, recent_run]
    exact List.take_prefix_take_left h

/-- Three rows of one user, the last two of one day, with a row of another user in between. -/
def threeAndOne : List Call :=
  let row (id : String) (day : Date) : Entry :=
    { id, date := .startOf day, amount := 10.0, direction := .expense }
  [.add "asha" [row "chai" ⟨2025, 1, 3, by decide⟩, row "rent" ⟨2025, 1, 9, by decide⟩],
    .insert "ravi" (row "bus" ⟨2025, 1, 10, by decide⟩),
    .insert "asha" (row "fuel" ⟨2025, 1, 9, by decide⟩), .add "meera" []]

/-- Three entries of one user and one of another. -/
theorem newest_of_three_and_one :
    1 ≤ 2 ∧ (run threeAndOne).recent "asha" 1 <+: (run threeAndOne).recent "asha" 2 ∧
      ((run threeAndOne).recent "asha" 2).map (·.id) = ["rent", "fuel"] ∧
      (run threeAndOne).users = ["asha", "ravi", "meera"] :=
  ⟨by decide, (recent_after_calls threeAndOne).2.2.2.1 "asha" 1 2 (by decide), by decide, by decide⟩

end AskLedger.MemoryStore
