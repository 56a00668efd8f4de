import AskLedger.Ledger.EntryJson
import AskLedger.Proofs.NamedValues
import AskLedger.Proofs.WrittenJson
import AskLedger.Proofs.WrittenMoments

/-!
# Written entries

An object gives an entry if each of its names stands once, the required members say what the entry
says, and so do the optional ones unless they are left out. The members may come in any order and
among others. What is written of an entry is such an object, apart from the fraction of a second of
its date. So an entry is read back whatever its texts, its year and its optional fields are; of its
amount it needs only that the reader of numbers finds it in its shortest digits.

* `Entry.ofJson_of_isGivenBy`: an object that gives an entry is decoded as that entry.
* `Entry.isGivenBy_toJson`: what is written of an entry gives it, to the second.
* `Entry.read_written`: an entry is read back from its text.
-/

namespace AskLedger

open NamedValues (Says Found)

/-! ## Members of an object -/

namespace Json

variable {members : List (String × Json)} {name : String} {v : Json}

/-- A member that is there once is found. -/
theorem slot_of_mem (hnodup : (members.map (·.1)).Nodup) (h : (name, v) ∈ members) :
    slot members name = .ok (some v) := by
  rw [slot, NamedValues.filter_of_mem hnodup h]

theorem slot_of_not_mem (h : name ∉ members.map (·.1)) : slot members name = .ok none := by
  rw [slot, NamedValues.filter_of_not_mem h]

/-- What an object says under a name is found there, or the standard value is meant. -/
theorem slot_of_says {standard : Json} (hnodup : (members.map (·.1)).Nodup)
    (h : Says members standard name v) :
    ∃ found, slot members name = .ok found ∧ Found found standard v := by
  rcases h with h | ⟨h, hv⟩
  · exact ⟨_, slot_of_mem hnodup h, .inl rfl⟩
  · exact ⟨_, slot_of_not_mem h, .inr ⟨rfl, hv⟩⟩

/-- A value that has to be there is decoded. -/
theorem Slots.required_eq {α : Type} {s : Slots} {i : Nat} {decode : Json → Except DecodeError α}
    {a : α} (h : s.at i = some v) (hv : decode v = .ok a) : s.required i decode = .ok a := by
  rw [Slots.required, h]
  exact hv

/-- A value that may be missing is decoded, or the standard value is. -/
theorem Slots.defaulted_eq {α : Type} {s : Slots} {i : Nat} {decode : Json → Except DecodeError α}
    {standard : Json} {a b : α} (h : Found (s.at i) standard v) (hv : decode v = .ok a)
    (hstandard : decode standard = .ok b) : s.defaulted i b decode = .ok a := by
  rcases h with h | ⟨h, rfl⟩
  · rw [Slots.defaulted, h]
    exact hv
  · rw [Slots.defaulted, h]
    exact hstandard.symm.trans hv

end Json

/-! ## Objects that give an entry -/

/-- Members that give an account. -/
structure Account.IsGivenBy (members : List (String × Json)) (a : Account) : Prop where
  /-- Each name stands once. -/
  nodup : (members.map (·.1)).Nodup
  /-- What the account is called. -/
  name : ("name", .text a.name) ∈ members
  /-- What sort of account it is. -/
  kind : ("type", .text a.kind) ∈ members

/-- A value that gives an account or says that there is none. -/
inductive Account.OfValue : Json → Option Account → Prop where
  /-- There is no account. -/
  | none : OfValue .null none
  /-- There is an account. -/
  | some {members : List (String × Json)} {a : Account} (h : a.IsGivenBy members) :
      OfValue (.object members) (some a)

/-- Members that give an entry. -/
structure Entry.IsGivenBy (members : List (String × Json)) (e : Entry) : Prop where
  /-- Each name stands once. -/
  nodup : (members.map (·.1)).Nodup
  /-- What identifies the entry. -/
  id : ("id", .text e.id) ∈ members
  /-- When it happened, in any layout that is read. -/
  date : ∃ s, ("date", .text s) ∈ members ∧ Moment.read? s.toList = some e.date
  /-- What it was for. -/
  description : Says members .null "description" (.ofText? e.description?)
  /-- The label it is filed under. -/
  category : Says members .null "category" (.ofText? e.category?)
  /-- How much money moved. -/
  amount : ∃ v, ("amount", v) ∈ members ∧ v.asFloat = .ok e.amount
  /-- Whether it came in or went out. -/
  direction : ("type", .text e.direction.code) ∈ members
  /-- Whether it comes back. -/
  isRecurring : Says members (.bool false) "isRecurring" (.bool e.isRecurring)
  /-- How often it comes back. -/
  frequency : Says members .null "recurringInterval"
    (.ofText? (e.frequency?.map Frequency.code))
  /-- The account it is booked on. -/
  account : ∃ v, Says members .null "account" v ∧ Account.OfValue v e.account?

/-- An account is decoded from an object that gives it. -/
theorem Account.ofJson_of_isGivenBy {members : List (String × Json)} {a : Account}
    (h : a.IsGivenBy members) : Account.ofJson (.object members) = .ok a := by
  have hname := Json.slot_of_mem h.nodup h.name
  have hkind := Json.slot_of_mem h.nodup h.kind
  simp [Account.ofJson, Json.slots, fieldNames, hname, hkind, bind, Except.bind, pure, Except.pure,
    Json.Slots.required, Json.Slots.at, Json.asText]

/-- An account that may be missing is decoded. -/
theorem Account.orNull_of_ofValue {v : Json} {a? : Option Account} (h : OfValue v a?) :
    Json.orNull Account.ofJson v = .ok a? := by
  cases h with
  | none => rfl
  | some h =>
    rw [Json.orNull, Account.ofJson_of_isGivenBy h]
    · rfl
    · simp

/-- A moment is decoded from its text. -/
theorem Moment.ofJson_text {s : String} {m : Moment} (h : Moment.read? s.toList = some m) :
    Moment.ofJson (.text s) = .ok m := by
  simp [Moment.ofJson, Json.asText, bind, Except.bind, h]
  rfl

/-- An object that gives an entry is decoded as that entry. -/
theorem Entry.ofJson_of_isGivenBy {members : List (String × Json)} {e : Entry}
    (h : e.IsGivenBy members) : Entry.ofJson (.object members) = .ok e := by
  obtain ⟨date, hdate, hmoment⟩ := h.date
  obtain ⟨amount, hamount, hfloat⟩ := h.amount
  obtain ⟨account, haccount, hbooked⟩ := h.account
  have hid := Json.slot_of_mem h.nodup h.id
  have hdate := Json.slot_of_mem h.nodup hdate
  obtain ⟨description, hdescription, hfor⟩ := Json.slot_of_says h.nodup h.description
  obtain ⟨category, hcategory, hlabel⟩ := Json.slot_of_says h.nodup h.category
  have hamount := Json.slot_of_mem h.nodup hamount
  have hdirection := Json.slot_of_mem h.nodup h.direction
  obtain ⟨isRecurring, hrecurring, hcomes⟩ := Json.slot_of_says h.nodup h.isRecurring
  obtain ⟨frequency, hfrequency, hoften⟩ := Json.slot_of_says h.nodup h.frequency
  obtain ⟨account, haccount, hon⟩ := Json.slot_of_says h.nodup haccount
  -- the slots in the order of the fields, whatever order the members have
  let s : Json.Slots := ⟨false, [some (.text e.id), some (.text date), description, category,
    some amount, some (.text e.direction.code), isRecurring, frequency, account]⟩
  have hslots : (Json.object members).slots fieldNames = .ok s := by
    simp [Json.slots, fieldNames, hid, hdate, hdescription, hcategory, hamount, hdirection,
      hrecurring, hfrequency, haccount, bind, Except.bind, pure, Except.pure, s]
  have htext : ∀ s? : Option String, Json.orNull Json.asText (.ofText? s?) = .ok s? := by
    rintro (- | text) <;> rfl
  have hword : Json.orNull (Json.asWord Frequency.ofCode?)
      (.ofText? (e.frequency?.map Frequency.code)) = .ok e.frequency? := by
    rcases e.frequency? with - | (- | - | - | -) <;> rfl
  -- each field is then read from its own slot
  have h0 : s.required 0 Json.asText = .ok e.id := Json.Slots.required_eq rfl rfl
  have h1 : s.required 1 Moment.ofJson = .ok e.date :=
    Json.Slots.required_eq rfl (Moment.ofJson_text hmoment)
  have h2 : s.defaulted 2 none (Json.orNull Json.asText) = .ok e.description? :=
    Json.Slots.defaulted_eq hfor (htext _) rfl
  have h3 : s.defaulted 3 none (Json.orNull Json.asText) = .ok e.category? :=
    Json.Slots.defaulted_eq hlabel (htext _) rfl
  have h4 : s.required 4 Json.asFloat = .ok e.amount := Json.Slots.required_eq rfl hfloat
  have h5 : s.required 5 (Json.asWord Direction.ofCode?) = .ok e.direction := by
    refine Json.Slots.required_eq rfl ?_
    cases e.direction <;> rfl
  have h6 : s.defaulted 6 false Json.asBool = .ok e.isRecurring :=
    Json.Slots.defaulted_eq hcomes rfl rfl
  have h7 : s.defaulted 7 none (Json.orNull (Json.asWord Frequency.ofCode?)) = .ok e.frequency? :=
    Json.Slots.defaulted_eq hoften hword rfl
  have h8 : s.defaulted 8 none (Json.orNull Account.ofJson) = .ok e.account? :=
    Json.Slots.defaulted_eq hon (Account.orNull_of_ofValue hbooked) rfl
  simp only [ofJson, bind, Except.bind, hslots, h0, h1, h2, h3, h4, h5, h6, h7, h8]
  rfl

/-! ## What is written of an entry -/

namespace Entry

/-- The entry with its date cut to the second. -/
def atSecond (e : Entry) : Entry := { e with date := e.date.wholeSecond }

/-- What is written of an entry gives it, to the second. -/
theorem isGivenBy_toJson {e : Entry} (hamount : (Json.ofFloat e.amount).asFloat = .ok e.amount) :
    ∃ members, e.toJson = .object members ∧ e.atSecond.IsGivenBy members := by
  have hnodup : fieldNames.Nodup := by decide
  refine ⟨_, rfl, hnodup, ?_, ⟨e.date.written, ?_, Moment.read?_written e.date⟩, .inl ?_, .inl ?_,
    ⟨.ofFloat e.amount, ?_, hamount⟩, ?_, .inl ?_, .inl ?_, ?_⟩
  iterate 8 simp [atSecond]
  cases haccount : e.account? with
  | none => exact ⟨.null, .inl (by simp), by rw [atSecond, haccount]; exact .none⟩
  | some a =>
    refine ⟨a.toJson, .inl (by simp), ?_⟩
    have hgiven : a.IsGivenBy [("name", .text a.name), ("type", .text a.kind)] :=
      ⟨by simp, by simp, by simp⟩
    rw [atSecond, haccount]
    exact .some hgiven

theorem sound_ofText? (s? : Option String) : (Json.ofText? s?).Sound := by
  cases s? <;> exact trivial

theorem sound_ofFloat (x : Float) : (Json.ofFloat x).Sound := by
  unfold Json.ofFloat
  split
  · next h => exact Numeral.sound_ofBinary? h
  · exact trivial

/-- The JSON form of an entry is sound. -/
theorem sound_toJson (e : Entry) : e.toJson.Sound := by
  refine ⟨trivial, trivial, sound_ofText? _, sound_ofText? _, sound_ofFloat _, trivial, trivial,
    sound_ofText? _, ?_, trivial⟩
  cases e.account? with
  | none => exact trivial
  | some a => exact ⟨trivial, trivial, trivial⟩

/-- A leap second is shown as one, whatever its fraction. -/
theorem shownSecond_atSecond (e : Entry) : e.atSecond.date.shownSecond = e.date.shownSecond := by
  simp only [atSecond, Moment.wholeSecond, Moment.shownSecond]
  omega

/-- The fraction of a second is not written. -/
theorem toJson_atSecond (e : Entry) : e.atSecond.toJson = e.toJson := by
  have hwritten : e.atSecond.date.written = e.date.written := by
    rw [Moment.written, Moment.clock, shownSecond_atSecond]
    rfl
  rw [toJson, hwritten]
  rfl

/-- An entry is read back from its text, in either notation, with its date cut to the second, where
a leap second stays one; and the same is written of it again. -/
theorem read_written (e : Entry) (hamount : (Json.ofFloat e.amount).asFloat = .ok e.amount) :
    (∀ text ∈ [e.toJson.compact, e.toJson.pretty],
      (Json.read? text.toList).map ofJson = some (.ok e.atSecond)) ∧
    e.atSecond.date.shownSecond = e.date.shownSecond ∧ e.atSecond.toJson = e.toJson := by
  have hread : ∀ text ∈ [e.toJson.compact, e.toJson.pretty],
      Json.read? text.toList = some e.toJson := by
    simp [Json.read?_compact (sound_toJson e), Json.read?_pretty (sound_toJson e)]
  obtain ⟨members, hmembers, hgiven⟩ := isGivenBy_toJson hamount
  refine ⟨fun text htext => ?_, shownSecond_atSecond e, toJson_atSecond e⟩
  rw [hread text htext, Option.map_some, hmembers, ofJson_of_isGivenBy hgiven]

/-- An entry half a second into a leap second, in a year before the common era. -/
def leapRent : Entry where
  id := "t\"1\""
  date := ⟨⟨-12345, 12, 31, by decide⟩, 86399, 1500000000, by decide⟩
  description? := some "two\nlines"
  amount := 649.5
  direction := .expense
  account? := some ⟨"", "बचत"⟩

/-- An entry of the year -12345, in a leap second, is read back from either layout. -/
theorem leapRent_read_back :
    leapRent.date.written = "-12345-12-31T23:59:60" ∧
    (Json.ofFloat leapRent.amount).asFloat = .ok leapRent.amount ∧
    (∀ text ∈ [leapRent.toJson.compact, leapRent.toJson.pretty],
      (Json.read? text.toList).map ofJson = some (.ok leapRent.atSecond)) ∧
    leapRent.atSecond.date.shownSecond = 60 ∧ leapRent.atSecond.toJson = leapRent.toJson := by
  have hamount : (Json.ofFloat leapRent.amount).asFloat = .ok leapRent.amount := rfl
  obtain ⟨hread, hsecond, hagain⟩ := read_written leapRent hamount
  exact ⟨by decide, hamount, hread, hsecond, hagain⟩

end Entry

end AskLedger
