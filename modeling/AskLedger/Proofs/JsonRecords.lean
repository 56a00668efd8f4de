import AskLedger.Proofs.ScaledNumerals
import AskLedger.Proofs.SameLedgers

/-!
# What holds of every entry of a JSON file

A JSON file gives entries as objects or as lists, and each field is decoded on its own. So the
amount of an entry keeps the sign of its numeral, and a frequency stands although the entry does not
recur: that an amount is not below zero, and that only entries which recur have a frequency, holds
exactly where the file says so. An amount is finite in any case, since a numeral that is too large
is refused.

* `Json.at_eq_given?`: a field of a record is given by its name or by its place.
* `Entry.amount_of_ofJson`, `Entry.frequency_of_ofJson`: what a record says of its amount and of its
  frequency.
* `JsonLedger.mem_ofMembers_iff`: the lists of a file, of which the last one of a user counts.
* `JsonLedger.entries_as_given`: the entries of all users of a file.
-/

namespace AskLedger

/-- A list that is decoded item by item has one result for each item. -/
theorem forall₂_of_mapM {α β ε : Type} {f : α → Except ε β} {l : List α} {out : List β}
    (h : l.mapM f = .ok out) : List.Forall₂ (fun a b => f a = .ok b) l out := by
  induction l generalizing out with
  | nil =>
    cases h
    exact .nil
  | cons a l ih =>
    rw [List.mapM_cons] at h
    simp only [bind_eq_ok_iff] at h
    obtain ⟨b, ha, rest, hl, hout⟩ := h
    rw [← Except.ok.inj hout]
    exact .cons ha (ih hl)

/-! ## Fields of a record -/

namespace Json

/-- The value that a record gives for a field: an object by the name of the field, a list by the
place of that name among those of all fields. -/
def given? (names : List String) (name : String) : Json → Option Json
  | object members => (members.find? fun m => m.1 == name).map (·.2)
  | array items => items[names.idxOf name]?
  | _ => none

/-- A member that is looked for is the first of its name. -/
theorem slot_eq_ok {members : List (String × Json)} {name : String} {found : Option Json}
    (h : slot members name = .ok found) :
    found = (members.find? fun m => m.1 == name).map (·.2) := by
  rw [← List.head?_filter]
  unfold slot at h
  split at h
  · next hnone =>
    cases h
    rw [hnone]
    rfl
  · next hone =>
    cases h
    rw [hone]
    rfl
  · cases h

/-- A field of a record is given by its name or by its place. -/
theorem at_eq_given? {names : List String} {v : Json} {s : Slots} (h : v.slots names = .ok s)
    (hnodup : names.Nodup) {i : Nat} (hi : i < names.length) :
    s.at i = v.given? names names[i] := by
  cases v with
  | object members =>
    obtain ⟨values, hvalues, hs⟩ := bind_eq_ok_iff.1 h
    obtain rfl := Except.ok.inj hs
    obtain ⟨hlength, hslots⟩ := List.forall₂_iff_get.1 (forall₂_of_mapM hvalues)
    have hslot := slot_eq_ok (hslots i hi (hlength ▸ hi))
    rw [List.get_eq_getElem, List.get_eq_getElem] at hslot
    simp [Slots.at, given?, ← hslot, hlength ▸ hi]
  | array items =>
    simp only [slots] at h
    split at h
    · cases h
      rw [Slots.at, given?, hnodup.idxOf_getElem]
      by_cases hitem : i < items.length
      · have hmapped : i < (items.map some).length := by simpa using hitem
        simp [List.getElem?_append_left hmapped, hitem]
      · -- the places without an item are filled up
        have hmapped : (items.map some).length ≤ i := by simpa using hitem
        rw [List.getElem?_append_right hmapped, List.getElem?_eq_none (Nat.not_lt.1 hitem),
          List.getElem?_replicate]
        split <;> rfl
    · cases h
  | null | bool | number | text | broken => cases h

/-- What is read as a number is a numeral that has a value. -/
theorem asFloat_eq_ok {v : Json} {x : Float} (h : v.asFloat = .ok x) :
    ∃ n, v = .number n ∧ n.toFloat? = some x := by
  cases v with
  | number n =>
    refine ⟨n, rfl, ?_⟩
    simp only [asFloat] at h
    split at h
    · next heq => rw [heq, Except.ok.inj h]
    · cases h
  | null | bool | text | array | object | broken => cases h

theorem asBool_eq_ok {v : Json} {b : Bool} (h : v.asBool = .ok b) : v = .bool b := by
  cases v with
  | bool c => rw [Except.ok.inj h]
  | null | number | text | array | object | broken => cases h

/-- A value that may be `null` is, or it is decoded. -/
theorem of_orNull_eq_ok {α : Type} {decode : Json → Except DecodeError α} {v : Json} {a? : Option α}
    (h : v.orNull decode = .ok a?) :
    v = .null ∧ a? = none ∨ v ≠ .null ∧ ∃ a, decode v = .ok a ∧ a? = some a := by
  unfold orNull at h
  split at h
  · exact .inl ⟨rfl, (Except.ok.inj h).symm⟩
  · next hnull =>
    cases hv : decode v with
    | error e => simp [hv, Except.map] at h
    | ok a =>
      simp only [hv, Except.map, Except.ok.injEq] at h
      exact .inr ⟨hnull, a, rfl, h.symm⟩

/-- Only `null` stands for nothing. -/
theorem orNull_eq_ok {α : Type} {decode : Json → Except DecodeError α} {v : Json} {a? : Option α}
    (h : v.orNull decode = .ok a?) : a? ≠ none ↔ v ≠ .null := by
  rcases of_orNull_eq_ok h with ⟨rfl, rfl⟩ | ⟨hnull, a, -, rfl⟩
  · simp
  · simpa using hnull

end Json

/-! ## Records -/

namespace Entry

variable {v : Json} {e : Entry}

/-- Where the amount, the recurrence and the frequency of an entry come from. -/
theorem parts_of_ofJson (h : ofJson v = .ok e) : ∃ s, v.slots fieldNames = .ok s ∧
    s.required 4 Json.asFloat = .ok e.amount ∧ s.defaulted 6 false Json.asBool = .ok e.isRecurring ∧
    s.defaulted 7 none (Json.orNull (Json.asWord Frequency.ofCode?)) = .ok e.frequency? := by
  simp only [ofJson, bind_eq_ok_iff] at h
  obtain ⟨s, hs, id, -, date, -, description, -, category, -, amount, hamount, direction, -, recurs,
    hrecurs, frequency, hfrequency, account, -, hentry⟩ := h
  rw [← Except.ok.inj hentry]
  exact ⟨s, hs, hamount, hrecurs, hfrequency⟩

theorem nodup_fieldNames : fieldNames.Nodup := by decide

/-- The amount of a record is a numeral, whose sign it has. It is finite, and it is not below zero
unless it has a minus and is not zero. -/
theorem amount_of_ofJson (h : ofJson v = .ok e) : ∃ n,
    v.given? fieldNames "amount" = some (.number n) ∧ e.amount.isFinite = true ∧
      (0 ≤ e.amount ↔ n.negative = false ∨ (e.amount == 0) = true) := by
  obtain ⟨s, hs, hamount, -, -⟩ := parts_of_ofJson h
  have hgiven : s.at 4 = v.given? fieldNames "amount" :=
    Json.at_eq_given? hs nodup_fieldNames (by decide)
  unfold Json.Slots.required at hamount
  split at hamount
  · next found hfound =>
    obtain ⟨n, rfl, hfloat⟩ := Json.asFloat_eq_ok hamount
    obtain ⟨hfinite, hsign⟩ := Numeral.toFloat?_sound hfloat
    refine ⟨n, hgiven.symm.trans hfound, hfinite, ?_⟩
    rw [Amount.nonneg_iff hsign]
    cases n.negative <;> simp
  · cases hamount

/-- An entry has a frequency exactly if its record gives one that is not `null`, and it recurs
exactly if its record says so. -/
theorem frequency_of_ofJson (h : ofJson v = .ok e) :
    (e.frequency? ≠ none ↔ ∃ f, v.given? fieldNames "recurringInterval" = some f ∧ f ≠ .null) ∧
    (e.isRecurring = true ↔ v.given? fieldNames "isRecurring" = some (.bool true)) := by
  obtain ⟨s, hs, -, hrecurs, hfrequency⟩ := parts_of_ofJson h
  have hgiven : s.at 6 = v.given? fieldNames "isRecurring" :=
    Json.at_eq_given? hs nodup_fieldNames (by decide)
  have hgiven' : s.at 7 = v.given? fieldNames "recurringInterval" :=
    Json.at_eq_given? hs nodup_fieldNames (by decide)
  rw [← hgiven, ← hgiven']
  constructor
  · unfold Json.Slots.defaulted at hfrequency
    split at hfrequency
    · next found hfound =>
      rw [Json.orNull_eq_ok hfrequency, hfound]
      simp
    · next hnone =>
      rw [← Except.ok.inj hfrequency, hnone]
      simp
  · unfold Json.Slots.defaulted at hrecurs
    split at hrecurs
    · next found hfound =>
      rw [hfound, Json.asBool_eq_ok hrecurs]
      simp
    · next hnone =>
      rw [← Except.ok.inj hrecurs, hnone]
      simp

end Entry

/-! ## Files -/

namespace JsonLedger

variable {ledgers : List (String × List Entry)} {name user : String} {rows : List Entry}

/-- Ledgers keep the order in which their users first occur. -/
theorem map_put (name : String) (rows : List Entry) (ledgers : List (String × List Entry)) :
    (put name rows ledgers).map (·.1) =
      if name ∈ ledgers.map (·.1) then ledgers.map (·.1) else ledgers.map (·.1) ++ [name] := by
  induction ledgers with
  | nil => rfl
  | cons ledger ledgers ih =>
    obtain ⟨other, old⟩ := ledger
    rw [put]
    by_cases hother : other = name
    · subst hother
      simp
    · rw [if_neg hother, List.map_cons, ih]
      by_cases hmem : name ∈ ledgers.map (·.1)
      · simp [hmem]
      · simp [hmem, Ne.symm hother]

/-- Users stay named once each. -/
theorem nodup_put (h : (ledgers.map (·.1)).Nodup) (name : String) (rows : List Entry) :
    ((put name rows ledgers).map (·.1)).Nodup := by
  rw [map_put]
  split
  · exact h
  · next hnot => exact List.nodup_append.2 ⟨h, List.nodup_singleton name, by grind⟩

/-- The new rows of a user replace all older ones. -/
theorem mem_put_iff (h : (ledgers.map (·.1)).Nodup) {new : List Entry} :
    (user, rows) ∈ put name new ledgers ↔
      if name = user then rows = new else (user, rows) ∈ ledgers := by
  induction ledgers with
  | nil => by_cases huser : name = user <;> simp [put, huser, eq_comm]
  | cons ledger ledgers ih =>
    obtain ⟨other, old⟩ := ledger
    obtain ⟨hnot, hnodup⟩ := List.nodup_cons.1 h
    rw [put]
    by_cases hother : other = name
    · subst hother
      rw [if_pos rfl, List.mem_cons, List.mem_cons]
      by_cases huser : other = user
      · subst huser
        -- the name stands there once, so that no ledger behind it is of the same user
        have habsent : (other, rows) ∉ ledgers := fun hmem =>
          hnot (List.mem_map.2 ⟨_, hmem, rfl⟩)
        simp [habsent]
      · simp [huser, Ne.symm huser]
    · rw [if_neg hother, List.mem_cons, List.mem_cons, ih hnodup]
      by_cases huser : name = user
      · subst huser
        simp [Ne.symm hother]
      · simp [huser]

/-- The list that counts is the last one of a user. -/
theorem member?_cons (name : String) (v : Json) (members : List (String × Json)) (user : String) :
    (Json.object ((name, v) :: members)).member? user =
      ((Json.object members).member? user).or (if name = user then some v else none) := by
  simp only [Json.member?, List.reverse_cons, List.find?_append]
  cases members.reverse.find? fun m => m.1 == user with
  | some m => rfl
  | none => by_cases huser : name = user <;> simp [huser]

/-- The users that have rows are those that are named, each once, with the rows of the list that
counts, and those who had rows before. -/
theorem mem_ofMembers_iff {before : List (String × List Entry)} {members : List (String × Json)}
    (hnodup : (before.map (·.1)).Nodup) (h : ofMembers before members = .ok ledgers) :
    (ledgers.map (·.1)).Nodup ∧ ∀ user rows, (user, rows) ∈ ledgers ↔
      match (Json.object members).member? user with
      | some v => Entry.listOfJson v = .ok rows
      | none => (user, rows) ∈ before := by
  induction members generalizing before with
  | nil =>
    cases h
    exact ⟨hnodup, fun user rows => Iff.rfl⟩
  | cons m members ih =>
    -- the rows of the first list count unless there is a later one of the same user
    obtain ⟨name, v⟩ := m
    obtain ⟨new, hnew, hrest⟩ := bind_eq_ok_iff.1 h
    obtain ⟨hledgers, hmem⟩ := ih (nodup_put hnodup name new) hrest
    refine ⟨hledgers, fun user rows => ?_⟩
    rw [hmem, member?_cons]
    cases (Json.object members).member? user with
    | some last => rfl
    | none =>
      simp only [mem_put_iff hnodup, Option.none_or]
      by_cases huser : name = user
      · simp [huser, hnew, eq_comm]
      · simp [huser]

/-- A file that is read is an object, and each user in it is named once in the ledgers, with one
entry for each item of the list that counts. The amount of an entry is a finite number with the sign
of its numeral, so it is below zero exactly if the numeral has a minus and does not stand for zero.
That only an entry which recurs has a frequency holds exactly if it holds of the record. -/
theorem entries_as_given {bytes : ByteArray} (h : ledgersOf bytes = .ok ledgers) :
    ∃ text members, String.fromUTF8? bytes = some text ∧
      Json.read? text.toList = some (.object members) ∧ (ledgers.map (·.1)).Nodup ∧
      ∀ user rows, (user, rows) ∈ ledgers → ∃ items,
        (Json.object members).member? user = some (.array items) ∧
        List.Forall₂ (fun v e => Entry.ofJson v = .ok e ∧
            (∃ n, v.given? Entry.fieldNames "amount" = some (.number n) ∧
              e.amount.isFinite = true ∧
              (0 ≤ e.amount ↔ n.negative = false ∨ (e.amount == 0) = true)) ∧
            ((e.frequency? ≠ none → e.isRecurring = true) ↔
              ((∃ f, v.given? Entry.fieldNames "recurringInterval" = some f ∧ f ≠ .null) →
                v.given? Entry.fieldNames "isRecurring" = some (.bool true))))
          items rows := by
  -- the bytes have to be a text, the text a value, and the value an object of lists
  unfold ledgersOf at h
  split at h
  · cases h
  next text htext =>
  split at h
  · next read hread =>
    cases h
    unfold ofText at hread
    split at hread
    · next v hv =>
      cases v with
      | object members =>
        obtain ⟨hnodup, hmem⟩ := @mem_ofMembers_iff _ [] members List.nodup_nil hread
        refine ⟨text, members, htext, hv, hnodup, fun user rows hrows => ?_⟩
        rw [hmem] at hrows
        split at hrows
        · next list hlist =>
          cases list with
          | array items =>
            refine ⟨items, hlist, (forall₂_of_mapM hrows).imp fun v e he => ?_⟩
            obtain ⟨hfrequency, hrecurs⟩ := Entry.frequency_of_ofJson he
            exact ⟨he, Entry.amount_of_ofJson he, by rw [hfrequency, hrecurs]⟩
          | null | bool | number | text | object | broken => cases hrows
        · cases hrows
      | null | bool | number | text | array | broken => cases hread
    · cases hread
  · cases h

/-- A record with an amount below zero and a frequency, of an entry that does not recur. -/
def overdrawnRecord : Json :=
  .object [("id", .text "t1"), ("date", .text "2025-01-05"), ("amount", .number (.ofInt (-5))),
    ("type", .text "EXPENSE"), ("isRecurring", .bool false),
    ("recurringInterval", .text "MONTHLY")]

/-- A file with this record. -/
def overdrawnFile : ByteArray :=
  (Json.object [("asha", .array [overdrawnRecord])]).compact.toUTF8

/-- An entry with a negative amount and an interval that does not recur is kept as it is given. -/
theorem overdrawn_as_given :
    let overdrawn : Entry :=
      { id := "t1", date := .startOf ⟨2025, 1, 5, by decide⟩, amount := -5, direction := .expense
        frequency? := some .monthly }
    ledgersOf overdrawnFile = .ok [("asha", [overdrawn])] ∧
      Entry.ofJson overdrawnRecord = .ok overdrawn ∧
      ¬ 0 ≤ overdrawn.amount ∧ overdrawn.frequency? ≠ none ∧ overdrawn.isRecurring = false ∧
      ∃ text members items, String.fromUTF8? overdrawnFile = some text ∧
        Json.read? text.toList = some (.object members) ∧
        (Json.object members).member? "asha" = some (.array items) ∧
        List.Forall₂ (fun v e => Entry.ofJson v = .ok e ∧
          ∃ n, v.given? Entry.fieldNames "amount" = some (.number n) ∧ n.negative = true)
          items [overdrawn] := by
  intro overdrawn
  have hentry : Entry.ofJson overdrawnRecord = .ok overdrawn := rfl
  have hnumeral : (Numeral.ofInt (-5)).Sound :=
    ⟨by decide, Text.forall_of_all (by decide), by decide, by simp [Numeral.ofInt],
      by simp [Numeral.ofInt], by simp [Numeral.ofInt]⟩
  have hsound : (Json.object [("asha", .array [overdrawnRecord])]).Sound := by
    simp [overdrawnRecord, Json.Sound, Json.SoundMembers, Json.SoundItems, hnumeral]
  have h : ledgersOf overdrawnFile = .ok [("asha", [overdrawn])] := by
    rw [ledgersOf, overdrawnFile, Text.fromUTF8?_toUTF8]
    simp only [ofText, Json.read?_compact hsound]
    rfl
  have hbelow : ¬ 0 ≤ overdrawn.amount := by decide
  obtain ⟨text, members, htext, hread, -, hlists⟩ := entries_as_given h
  obtain ⟨items, hitems, hentries⟩ := hlists "asha" [overdrawn] (List.mem_singleton_self _)
  refine ⟨h, hentry, hbelow, by decide, rfl, text, members, items, htext, hread, hitems, ?_⟩
  simp only [List.forall₂_cons_right_iff, List.forall₂_nil_right_iff] at hentries ⊢
  obtain ⟨v, _, ⟨hv, ⟨n, hn, -, hsign⟩, -⟩, rfl, rfl⟩ := hentries
  refine ⟨v, [], ⟨hv, n, hn, ?_⟩, rfl, rfl⟩
  rw [← Bool.not_eq_false]
  exact fun hplus => hbelow (hsign.2 (.inl hplus))

end JsonLedger

end AskLedger
