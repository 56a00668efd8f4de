import Mathlib.Data.List.ReduceOption
import AskLedger.Model.Client
import AskLedger.Proofs.JsonRecords
import AskLedger.Proofs.WrittenJson

/-!
# The texts that providers send

The answer of a model comes in pieces: the parts of the first candidate, the content of the first
choice, or the blocks of text. A piece may have no text. The content of a choice and the texts of
all blocks are taken, one behind the other. Of the parts of a candidate only the first one is taken,
whether it has a text or not, so the texts of the others are lost.

* `Json.listed`, `Json.said?`: what a record has under a name.
* `Provider.piecesIn`: the pieces of the answer in a body, all of them.
* `Provider.taken`: the pieces that are taken.
* `ModelReply.text_of_ofJson`: what is taken of a body that can be decoded.
* `ModelClient.textOf_pieces`: what a completion says, and when that is all that was sent.
-/

namespace AskLedger

/-! ## What a record has under a name -/

namespace Json

/-- The items of the list that a record has under a name; none if it has no list there. -/
def listed (names : List String) (name : String) (v : Json) : List Json :=
  match v.given? names name with
  | some (array items) => items
  | _ => []

/-- The text that a record has under a name, if it has one there. -/
def said? (names : List String) (name : String) (v : Json) : Option String :=
  match v.given? names name with
  | some (text s) => some s
  | _ => none

theorem asText_eq_ok {v : Json} {s : String} (h : v.asText = .ok s) : v = .text s := by
  cases v with
  | text t => rw [Except.ok.inj h]
  | null | bool | number | array | object | broken => cases h

/-- A list is decoded item by item, so what an item means can be seen in what it is decoded to. -/
theorem asList_eq_ok {α β : Type} {decode : Json → Except DecodeError α} {meaning : Json → β}
    {view : α → β} (hdecode : ∀ {v a}, decode v = .ok a → meaning v = view a) {v : Json}
    {l : List α} (h : v.asList decode = .ok l) :
    ∃ items, v = .array items ∧ items.map meaning = l.map view := by
  cases v with
  | array items =>
    have hitems : List.Forall₂ (fun v a => meaning v = view a) items l :=
      (forall₂_of_mapM h).imp fun _ _ hitem => hdecode hitem
    refine ⟨items, rfl, ?_⟩
    rwa [← List.forall₂_eq_eq_eq, List.forall₂_map_left_iff, List.forall₂_map_right_iff]
  | null | bool | number | text | object | broken => cases h

section
variable {names : List String} {v : Json} {s : Slots} (hs : v.slots names = .ok s)
  (hnodup : names.Nodup) {i : Nat} (hi : i < names.length) {α : Type}
  {decode : Json → Except DecodeError α}
include hs hnodup

/-- A member that has to be there is there. -/
theorem given?_of_required {a : α} (h : s.required i decode = .ok a) :
    ∃ w, v.given? names names[i] = some w ∧ decode w = .ok a := by
  unfold Slots.required at h
  rw [at_eq_given? hs hnodup hi] at h
  split at h
  · next w hw => exact ⟨w, hw, h⟩
  · cases h

/-- A field that may be missing or `null` is, or it is decoded. -/
theorem given?_of_nullable {a? : Option α} (h : s.nullable i (orNull decode) = .ok a?) :
    (∀ w, v.given? names names[i] = some w → w = .null) ∧ a? = none ∨
      ∃ w a, v.given? names names[i] = some w ∧ decode w = .ok a ∧ a? = some a := by
  unfold Slots.nullable at h
  rw [at_eq_given? hs hnodup hi] at h
  split at h
  · next w hw =>
    rcases of_orNull_eq_ok h with ⟨rfl, ha⟩ | ⟨-, a, hdecode, ha⟩
    · exact .inl ⟨fun w' hw' => Option.some.inj (hw'.symm.trans hw), ha⟩
    · exact .inr ⟨w, a, hw, hdecode, ha⟩
  · next hnone =>
    -- a list has to give the field, an object may leave it out
    split at h
    · cases h
    · exact .inl ⟨fun w hw => by simp [hnone] at hw, (Except.ok.inj h).symm⟩

/-- A text that has to be there is said. -/
theorem said?_of_required {t : String} (h : s.required i asText = .ok t) :
    v.said? names names[i] = some t := by
  obtain ⟨w, hw, htext⟩ := given?_of_required hs hnodup hi h
  rw [said?, hw, asText_eq_ok htext]

/-- A text that may be missing is said if it is there. -/
theorem said?_of_nullable {t? : Option String} (h : s.nullable i (orNull asText) = .ok t?) :
    v.said? names names[i] = t? := by
  rcases given?_of_nullable hs hnodup hi h with ⟨hnull, rfl⟩ | ⟨w, t, hw, htext, rfl⟩
  · -- nothing or `null`, neither of which is a text
    unfold said?
    split
    · next t ht => exact absurd (hnull _ ht) (by simp)
    · rfl
  · rw [said?, hw, asText_eq_ok htext]

variable {β : Type} {meaning : Json → β} (view : α → β)
  (hdecode : ∀ {v a}, decode v = .ok a → meaning v = view a) {l : List α}
include hdecode

/-- A list that has to be there is read item by item. -/
theorem listed_of_required (h : s.required i (asList decode) = .ok l) :
    (v.listed names names[i]).map meaning = l.map view := by
  obtain ⟨w, hw, hlist⟩ := given?_of_required hs hnodup hi h
  obtain ⟨items, rfl, hitems⟩ := asList_eq_ok hdecode hlist
  rw [listed, hw, hitems]

/-- A list that may be missing is read item by item, or is empty. -/
theorem listed_of_defaulted (h : s.defaulted i [] (asList decode) = .ok l) :
    (v.listed names names[i]).map meaning = l.map view := by
  unfold Slots.defaulted at h
  rw [at_eq_given? hs hnodup hi] at h
  split at h
  · next w hw =>
    obtain ⟨items, rfl, hitems⟩ := asList_eq_ok hdecode h
    rw [listed, hw, hitems]
  · next hnone => rw [listed, hnone, ← Except.ok.inj h, List.map_nil, List.map_nil]

end

end Json

/-! ## The pieces of an answer -/

namespace Pieces

variable {pieces : List (Option String)}

/-- Nothing is said exactly if every text is empty. -/
theorem join_eq_empty_iff :
    String.join pieces.reduceOption = "" ↔ ∀ s, some s ∈ pieces → s = "" := by
  induction pieces with
  | nil => simp [List.reduceOption]
  | cons piece pieces ih =>
    cases piece with
    | none => simp [List.reduceOption_cons_of_none, ih]
    | some s =>
      simp [List.reduceOption_cons_of_some, String.join_cons, String.append_eq_empty_iff, ih]

/-- The first piece alone says nothing if it has no text. -/
theorem join_take_one : String.join (pieces.take 1).reduceOption = pieces.head?.join.getD "" := by
  cases pieces with
  | nil => rfl
  | cons piece pieces => cases piece <;> simp [List.reduceOption]

end Pieces

namespace ModelReply

open Json

/-- The text of a part of a candidate, if it has one. -/
def partText? (part : Json) : Option String := part.said? ["text"] "text"

/-- The parts of a candidate, each with its text if it has one; without content there are none. -/
def partTexts (candidate : Json) : List (Option String) :=
  match candidate.given? ["content"] "content" with
  | some content => (content.listed ["parts"] "parts").map partText?
  | none => []

/-- The content of the message of a choice, if it has one. -/
def choiceText? (choice : Json) : Option String :=
  (choice.given? ["message"] "message").bind (Json.said? ["content"] "content")

/-- The text of a block of text, if it is one and has a text. -/
def blockText? (block : Json) : Option String :=
  if block.said? ["type", "text"] "type" = some "text" then block.said? ["type", "text"] "text"
  else none

/-- The text of a part. -/
theorem partText?_of_partOf {v : Json} {t? : Option String} (h : partOf v = .ok t?) :
    partText? v = t? := by
  obtain ⟨s, hs, h⟩ := bind_eq_ok_iff.1 h
  exact said?_of_nullable hs (by decide) (by decide) h

/-- The texts of the parts of a candidate. -/
theorem partTexts_of_candidateOf {v : Json} {c : Candidate} (h : candidateOf v = .ok c) :
    partTexts v = c.parts := by
  simp only [candidateOf, bind_eq_ok_iff] at h
  obtain ⟨s, hs, parts?, hparts, hc⟩ := h
  rw [← Except.ok.inj hc]
  unfold partTexts
  rcases given?_of_nullable hs (by decide) (by decide) hparts with
    ⟨hnull, rfl⟩ | ⟨content, parts, hcontent, hdecoded, rfl⟩
  · -- `null` has no parts either
    split
    · next content hcontent => rw [hnull content hcontent]; rfl
    · rfl
  · obtain ⟨t, ht, hdecoded⟩ := bind_eq_ok_iff.1 hdecoded
    have hlisted := listed_of_defaulted ht (by decide) (by decide) id partText?_of_partOf hdecoded
    simp only [List.getElem_cons_zero, List.map_id] at hcontent hlisted
    simp only [hcontent, hlisted, Option.getD_some]

theorem choiceText?_of_choiceOf {v : Json} {c : Choice} (h : choiceOf v = .ok c) :
    choiceText? v = c.content? := by
  simp only [choiceOf, bind_eq_ok_iff] at h
  obtain ⟨s, hs, content?, hcontent, hc⟩ := h
  obtain ⟨message, hmessage, hcontent⟩ := given?_of_required hs (by decide) (by decide) hcontent
  obtain ⟨t, ht, hcontent⟩ := bind_eq_ok_iff.1 hcontent
  have hsaid := said?_of_nullable ht (by decide) (by decide) hcontent
  simp only [List.getElem_cons_zero] at hmessage hsaid
  rw [← Except.ok.inj hc, choiceText?, hmessage, Option.bind_some, hsaid]

theorem blockText?_of_blockOf {v : Json} {b : Block} (h : blockOf v = .ok b) :
    blockText? v = b.shown? := by
  simp only [blockOf, bind_eq_ok_iff] at h
  obtain ⟨s, hs, kind, hkind, text?, htext, hb⟩ := h
  have hkind := said?_of_required hs (by decide) (by decide) hkind
  have htext := said?_of_nullable hs (by decide) (by decide) htext
  simp only [List.getElem_cons_zero, List.getElem_cons_succ] at hkind htext
  rw [← Except.ok.inj hb, blockText?, hkind, htext, Block.shown?]
  simp

end ModelReply

namespace Provider

/-- The pieces of the answer in a body, each with its text if it has one: the parts of the first
candidate, the first choice, or all blocks. -/
def piecesIn (p : Provider) (v : Json) : List (Option String) :=
  match p with
  | gemini => ((v.listed ["candidates"] "candidates").head?.map ModelReply.partTexts).getD []
  | openai => [((v.listed ["choices"] "choices").head?.map ModelReply.choiceText?).join]
  | anthropic => (v.listed ["content"] "content").map ModelReply.blockText?

/-- The pieces that are taken of an answer: of a candidate only the first part. -/
def taken (p : Provider) (pieces : List (Option String)) : List (Option String) :=
  if p = gemini then pieces.take 1 else pieces

variable {p : Provider} {pieces : List (Option String)}

/-- Every provider but one gives all its pieces. -/
theorem taken_of_ne (h : p ≠ gemini) : p.taken pieces = pieces := if_neg h

/-- What is taken is all of the texts exactly if the texts that are left out are empty. -/
theorem join_taken_eq_iff : String.join (p.taken pieces).reduceOption =
      String.join pieces.reduceOption ↔
    p ≠ gemini ∨ ∀ s, some s ∈ pieces.drop 1 → s = "" := by
  by_cases hp : p = gemini
  · -- the texts are those of the first piece and then those of the others, which are lost
    have hsplit : String.join pieces.reduceOption =
        String.join (pieces.take 1).reduceOption ++ String.join (pieces.drop 1).reduceOption := by
      rw [← String.join_append, ← List.reduceOption_append, List.take_append_drop]
    rw [taken, if_pos hp, hsplit, eq_comm, String.append_eq_left_iff,
      Pieces.join_eq_empty_iff]
    simp [hp]
  · simp [taken_of_ne hp, hp]

end Provider

/-! ## What is taken -/

namespace ModelReply

variable {p : Provider} {v : Json} {reply : ModelReply}

/-- Of a body that can be decoded the texts of the pieces that count are taken, one behind the
other. -/
theorem text_of_ofJson (h : ofJson p v = .ok reply) :
    reply.text = String.join (p.taken (p.piecesIn v)).reduceOption := by
  cases p with
  | gemini =>
    simp only [ofJson, bind_eq_ok_iff] at h
    obtain ⟨s, hs, cs, hcs, hreply⟩ := h
    have hlisted := Json.listed_of_defaulted hs (by decide) (by decide) Candidate.parts
      partTexts_of_candidateOf hcs
    -- the first of what is listed is decoded to the first candidate
    have hhead := congrArg List.head? hlisted
    rw [List.getElem_cons_zero, List.head?_map, List.head?_map] at hhead
    rw [← Except.ok.inj hreply, text, Provider.taken, if_pos rfl, Pieces.join_take_one,
      Provider.piecesIn, hhead]
    cases cs.head? <;> rfl
  | openai =>
    simp only [ofJson, bind_eq_ok_iff] at h
    obtain ⟨s, hs, cs, hcs, hreply⟩ := h
    have hlisted := Json.listed_of_required hs (by decide) (by decide) Choice.content?
      choiceText?_of_choiceOf hcs
    have hhead := congrArg List.head? hlisted
    rw [List.getElem_cons_zero, List.head?_map, List.head?_map] at hhead
    rw [← Except.ok.inj hreply, text, Provider.taken_of_ne (by decide), Provider.piecesIn, hhead]
    cases cs.head? with
    | none => rfl
    | some c => cases hcontent : c.content? <;> simp [hcontent, List.reduceOption]
  | anthropic =>
    simp only [ofJson, bind_eq_ok_iff] at h
    obtain ⟨s, hs, bs, hbs, hreply⟩ := h
    -- blocks that are no text have no text to show, so all blocks may be listed
    have hlisted := Json.listed_of_required hs (by decide) (by decide) _ blockText?_of_blockOf hbs
    simp only [List.getElem_cons_zero] at hlisted
    rw [← Except.ok.inj hreply, text, Provider.taken_of_ne (by decide), Provider.piecesIn, hlisted,
      List.reduceOption, List.filterMap_map]
    rfl

end ModelReply

/-! ## Completions -/

namespace ModelClient

/-- A response that is a success and can be decoded gives a text: the texts of the pieces that
count, one behind the other, and nothing only where none of them says anything. This is all that was
sent in the answer exactly if it does not come from Gemini or if only its first part says
anything. -/
theorem textOf_pieces {c : ModelClient} {r : Web.Response} {reply : ModelReply}
    (hsuccess : r.isSuccess = true)
    (hread : ModelReply.read? c.settings.provider r.body = some reply) :
    ∃ v text, Json.read? r.body.toList = some v ∧ c.textOf (some r) = .ok text ∧
      let p := c.settings.provider
      text = String.join (p.taken (p.piecesIn v)).reduceOption ∧
      (text = "" ↔ ∀ s, some s ∈ p.taken (p.piecesIn v) → s = "") ∧
      (text = String.join (p.piecesIn v).reduceOption ↔
        p ≠ .gemini ∨ ∀ s, some s ∈ (p.piecesIn v).drop 1 → s = "") := by
  obtain ⟨v, hv, hreply⟩ := Option.bind_eq_some_iff.1 hread
  -- the body that was read is a value, and the reply is what that value says
  have hjson : ModelReply.ofJson c.settings.provider v = .ok reply := by
    cases hdecoded : ModelReply.ofJson c.settings.provider v with
    | error e => simp [hdecoded, Except.toOption] at hreply
    | ok other =>
      rw [hdecoded] at hreply
      exact congrArg Except.ok (Option.some.inj hreply)
  have htext := ModelReply.text_of_ofJson hjson
  refine ⟨v, reply.text, hv, ?_, htext, ?_, ?_⟩
  · simp [textOf, hsuccess, hread]
  · rw [htext, Pieces.join_eq_empty_iff]
  · rw [htext, Provider.join_taken_eq_iff]

/-- A client of Gemini. -/
def geminiClient : ModelClient := ⟨{}, "k"⟩

/-- A reply of Gemini in two parts. -/
def twoParts : Json :=
  .object [("candidates", .array [.object [("content", .object [("parts",
    .array [.object [("text", .text "Save ")], .object [("text", .text "more.")]])])]])]

/-- Of two parts the second one is lost. -/
theorem second_part_is_lost :
    let r : Web.Response := ⟨200, twoParts.compact⟩
    r.isSuccess = true ∧
      ModelReply.read? .gemini r.body = some (.candidates [⟨[some "Save ", some "more."]⟩]) ∧
      String.join (Provider.piecesIn .gemini twoParts).reduceOption = "Save more." ∧
      geminiClient.textOf (some r) = .ok "Save " := by
  intro r
  have hsound : twoParts.Sound := by
    simp [twoParts, Json.Sound, Json.SoundMembers, Json.SoundItems]
  have hv : Json.read? r.body.toList = some twoParts := Json.read?_compact hsound
  have hsuccess : r.isSuccess = true := by decide
  have hsent : String.join (Provider.piecesIn .gemini twoParts).reduceOption = "Save more." := rfl
  have hread : ModelReply.read? .gemini r.body =
      some (.candidates [⟨[some "Save ", some "more."]⟩]) := by
    rw [ModelReply.read?, hv]
    rfl
  obtain ⟨v, text, hjson, htext, hjoin, -, -⟩ := @textOf_pieces geminiClient r _ hsuccess hread
  obtain rfl : twoParts = v := Option.some.inj (hv.symm.trans hjson)
  refine ⟨hsuccess, hread, hsent, ?_⟩
  rw [htext, hjoin]
  rfl

end ModelClient

end AskLedger
