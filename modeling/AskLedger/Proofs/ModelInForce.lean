import Mathlib.Data.List.DropRight
import Mathlib.Data.Option.Basic
import AskLedger.Proofs.OuterBlanks
import AskLedger.Proofs.WrittenRecords
import AskLedger.Settings.Document

/-!
# Which model is in force

A file may set the provider of the language model, the name of the model, the address of the
provider and the environment variable with the key, and it may leave out any of them. An address and
a variable that are left out or blank are those that the provider usually has, whichever provider it
is. The name of the model is not looked up like that: where it is left out, it is the usual one of
Gemini, also where the file names another provider.

* `Text.trim_eq_iff`: what a text is without its outer blanks.
* `ModelSettings.Given`: what a file sets about the model.
* `ModelSettings.isAddressIn_iff`: the address that remains of the one that is set.
* `Settings.exists_given`: what a file that can be read sets about the model.
* `Settings.model_in_force`: what is in force then, whatever else the file sets.
-/

namespace AskLedger

/-! ## Texts without their ends -/

section
variable {α : Type} {p : α → Bool} {s t : List α}

/-- What is left behind a front of one kind. -/
theorem dropWhile_eq_iff : s.dropWhile p = t ↔
    (∀ c ∈ t.head?, p c = false) ∧ ∃ front, (∀ c ∈ front, p c = true) ∧ s = front ++ t := by
  constructor
  · rintro rfl
    refine ⟨fun c hc => ?_, s.takeWhile p, fun c hc => List.all_eq_true.1 List.all_takeWhile c hc,
      List.takeWhile_append_dropWhile.symm⟩
    have hhead := List.head?_dropWhile_not p s
    rw [Option.mem_def.1 hc] at hhead
    simpa using hhead
  · rintro ⟨hhead, front, hfront, rfl⟩
    rw [List.dropWhile_append_of_pos hfront]
    cases t with
    | nil => rfl
    | cons c t => exact List.dropWhile_cons_of_neg (by simp [hhead c rfl])

theorem rdropWhile_eq_iff : s.rdropWhile p = t ↔
    (∀ c ∈ t.getLast?, p c = false) ∧ ∃ back, (∀ c ∈ back, p c = true) ∧ s = t ++ back := by
  -- the same from the other end
  rw [List.rdropWhile, List.reverse_eq_iff, dropWhile_eq_iff, List.head?_reverse]
  refine and_congr_right fun _ => ⟨?_, ?_⟩
  · rintro ⟨front, hfront, hs⟩
    exact ⟨front.reverse, by simpa using hfront, by rw [← List.reverse_inj, hs]; simp⟩
  · rintro ⟨back, hback, rfl⟩
    exact ⟨back.reverse, by simpa using hback, by simp⟩

end

namespace Text

/-- Neither the first nor the last character of a text is a blank. -/
structure HasNoOuterBlanks (s : List Char) : Prop where
  /-- The first character, if there is one. -/
  front : ∀ c ∈ s.head?, isBlank c = false
  /-- The last character, if there is one. -/
  back : ∀ c ∈ s.getLast?, isBlank c = false

/-- What a text is without its outer blanks. -/
theorem trim_eq_iff {s t : List Char} : trim s = t ↔ HasNoOuterBlanks t ∧
    ∃ front back, (∀ c ∈ front, isBlank c = true) ∧ (∀ c ∈ back, isBlank c = true) ∧
      s = front ++ t ++ back := by
  have hdrop (s : List Char) : trim s = (s.dropWhile isBlank).rdropWhile isBlank := rfl
  constructor
  · intro h
    rw [hdrop, rdropWhile_eq_iff] at h
    obtain ⟨hlast, back, hback, hs⟩ := h
    obtain ⟨hfirst, front, hfront, hs⟩ := dropWhile_eq_iff.1 hs
    refine ⟨⟨fun c hc => hfirst c ?_, hlast⟩, front, back, hfront, hback, by simp [hs]⟩
    -- what `t` begins with was also in front before the end was cut off
    rw [List.head?_append, Option.mem_def.1 hc]
    rfl
  · rintro ⟨⟨hfirst, hlast⟩, front, back, hfront, hback, rfl⟩
    have hstart : t.dropWhile isBlank = t := dropWhile_eq_iff.2 ⟨hfirst, [], by simp, rfl⟩
    have hend : t.rdropWhile isBlank = t := rdropWhile_eq_iff.2 ⟨hlast, [], by simp, by simp⟩
    rw [trim_blanks hfront hback, hdrop, hstart, hend]

end Text

/-! ## What a file sets -/

namespace Toml

/-- The value that a record gives for a field: a table by the name of the field, a list by the place
of that name among those of all fields. -/
def given? (names : List String) (name : String) : Toml → Option Toml
  | table members => (members.find? fun m => m.1 == name).map (·.2)
  | array items => items[names.idxOf name]?
  | _ => none

variable {names : List String} {v : Toml} {fields : List (Option Toml)}

theorem getElem?_join_fields? (h : v.fields? names = some fields) (hnodup : names.Nodup) {i : Nat}
    (hi : i < names.length) : fields[i]?.join = v.given? names names[i] := by
  cases v with
  | table members =>
    rw [← Option.some.inj h]
    simp [given?, hi]
  | array items =>
    rw [← Option.some.inj h, given?, hnodup.idxOf_getElem]
    simp [hi]
  | dateTime =>
    rw [← Option.some.inj h]
    simp [given?, hi]
  | text | integer | float | bool => cases h

/-- Where no value is set nothing is meant, and a value that is set stands for what is meant. -/
def Means {α : Type} (decode : Toml → Option α) (set? : Option Toml) (a? : Option α) : Prop :=
  Option.Rel (fun v a => decode v = some a) set? a?

/-- What is set means only one thing. -/
theorem Means.unique {α : Type} {decode : Toml → Option α} {set? : Option Toml} {a? b? : Option α}
    (ha : Means decode set? a?) (hb : Means decode set? b?) : a? = b? := by
  cases ha with
  | none =>
    cases hb with
    | none => rfl
  | some ha =>
    cases hb with
    | some hb => rw [← ha, hb]

/-- What is not given means nothing. -/
theorem Means.eq_none {α : Type} {decode : Toml → Option α} {a? : Option α}
    (h : Means decode none a?) : a? = none :=
  h.unique .none

/-- A field has what is meant by the value that is set, or its standard value. -/
theorem fieldOr_eq_some {α : Type} {decode : Toml → Option α} {standard a : α}
    (h : v.fields? names = some fields) (hnodup : names.Nodup) {i : Nat} (hi : i < names.length)
    (hfield : fieldOr fields i standard decode = some a) :
    ∃ a?, Means decode (v.given? names names[i]) a? ∧ a = a?.getD standard := by
  unfold fieldOr at hfield
  rw [getElem?_join_fields? h hnodup hi] at hfield
  split at hfield
  · next w hw => exact ⟨some a, hw ▸ .some hfield, rfl⟩
  · next hnone => exact ⟨none, hnone ▸ .none, (Option.some.inj hfield).symm⟩

end Toml

namespace ModelSettings

/-- What a file sets about the model; none where it leaves something out. -/
structure Given where
  /-- The provider. -/
  provider? : Option Provider
  /-- The name of the model. -/
  model? : Option String
  /-- The address of the provider. -/
  url? : Option String
  /-- The environment variable with the key. -/
  keyVariable? : Option String
  deriving DecidableEq, Repr

/-- The value under a name in the section about the model, if there is such a section and it has
such a value. -/
def valueIn (llm? : Option Toml) (name : String) : Option Toml :=
  llm?.bind (Toml.given? names name)

/-- The section sets this about the model, and nothing else. -/
structure Given.IsIn (g : Given) (llm? : Option Toml) : Prop where
  /-- The provider is named by its word. -/
  provider : Toml.Means (Toml.asWord? Provider.ofWord?) (valueIn llm? "provider") g.provider?
  /-- All else is given by texts. -/
  model : Toml.Means Toml.asText? (valueIn llm? "model") g.model?
  url : Toml.Means Toml.asText? (valueIn llm? "base_url") g.url?
  keyVariable : Toml.Means Toml.asText? (valueIn llm? "api_key_env") g.keyVariable?

/-- A document gives one thing only. -/
theorem Given.IsIn.unique {g g' : Given} {llm? : Option Toml} (h : g.IsIn llm?)
    (h' : g'.IsIn llm?) : g = g' := by
  obtain ⟨provider?, model?, url?, keyVariable?⟩ := g
  obtain ⟨provider?', model?', url?', keyVariable?'⟩ := g'
  obtain rfl : provider? = provider?' := h.provider.unique h'.provider
  obtain rfl : model? = model?' := h.model.unique h'.model
  obtain rfl : url? = url?' := h.url.unique h'.url
  obtain rfl : keyVariable? = keyVariable?' := h.keyVariable.unique h'.keyVariable
  rfl

/-- Settings in which this is set about the model. What is left out has a standard value, which for
the name of the model does not depend on the provider. -/
structure IsSetBy (s : ModelSettings) (g : Given) : Prop where
  /-- The provider is Gemini if none is named. -/
  provider : s.provider = g.provider?.getD .gemini
  /-- The model is the usual one of Gemini if none is named, whoever the provider is. -/
  model : s.model = g.model?.getD Provider.gemini.standardModel
  /-- An address that is left out is blank, as is a variable. -/
  baseUrl : s.baseUrl = g.url?.getD ""
  keyVariable : s.keyVariable = g.keyVariable?.getD ""

/-- Settings are set by what the document gives. -/
theorem exists_given_of_ofToml? {v : Toml} {s : ModelSettings} (h : ofToml? v = some s) :
    ∃ g : Given, g.IsIn (some v) ∧ s.IsSetBy g := by
  simp only [ofToml?, Option.bind_eq_bind, Option.bind_eq_some_iff] at h
  obtain ⟨fields, hfields, provider, hprovider, model, hmodel, baseUrl, hurl, temperature, -,
    keyVariable, hkey, hs⟩ := h
  have hnodup : names.Nodup := by decide
  obtain ⟨provider?, hprovider?, rfl⟩ := Toml.fieldOr_eq_some hfields hnodup (by decide) hprovider
  obtain ⟨model?, hmodel?, rfl⟩ := Toml.fieldOr_eq_some hfields hnodup (by decide) hmodel
  obtain ⟨url?, hurl?, rfl⟩ := Toml.fieldOr_eq_some hfields hnodup (by decide) hurl
  obtain ⟨keyVariable?, hkey?, rfl⟩ := Toml.fieldOr_eq_some hfields hnodup (by decide) hkey
  obtain rfl := Option.some.inj hs
  exact ⟨⟨provider?, model?, url?, keyVariable?⟩, ⟨hprovider?, hmodel?, hurl?, hkey?⟩,
    ⟨rfl, rfl, rfl, rfl⟩⟩

/-- A file without a section about the model sets nothing, and standard settings hold. -/
theorem exists_given_of_no_section : ∃ g : Given, g.IsIn none ∧ ({} : ModelSettings).IsSetBy g :=
  ⟨⟨none, none, none, none⟩, ⟨.none, .none, .none, .none⟩, ⟨rfl, rfl, rfl, rfl⟩⟩

end ModelSettings

namespace Settings

/-- The section about the model in a file, if there is a file and it has such a section. -/
def modelSection? (content? : Option ByteArray) : Option Toml := do
  let text ← String.fromUTF8? (← content?)
  let document ← Toml.read? text.toList
  document.given? names "llm"

/-- Settings are set by what the document gives. -/
theorem exists_given_of_ofToml? {document : Toml} {s : Settings} (h : ofToml? document = some s) :
    ∃ g : ModelSettings.Given, g.IsIn (document.given? names "llm") ∧ s.model.IsSetBy g := by
  simp only [ofToml?, Option.bind_eq_bind, Option.bind_eq_some_iff] at h
  obtain ⟨fields, hfields, model, hmodel, chat, -, answers, -, path, -, hs⟩ := h
  obtain ⟨model?, hmodel?, rfl⟩ := Toml.fieldOr_eq_some hfields (by decide) (by decide) hmodel
  obtain rfl := Option.some.inj hs
  have hsection : document.given? names names[0] = document.given? names "llm" := rfl
  rw [hsection] at hmodel?
  -- a section that is left out, or one that is decoded on its own
  generalize document.given? names "llm" = llm? at hmodel? ⊢
  cases hmodel? with
  | none => exact ModelSettings.exists_given_of_no_section
  | some hmodel? => exact ModelSettings.exists_given_of_ofToml? hmodel?

/-- A file that can be read sets something about the model, and what it leaves out is standard. -/
theorem exists_given {content? : Option ByteArray} {s : Settings} (h : read content? = .ok s) :
    ∃ g : ModelSettings.Given, g.IsIn (modelSection? content?) ∧ s.model.IsSetBy g := by
  cases content? with
  | none =>
    rw [← Except.ok.inj h]
    exact ModelSettings.exists_given_of_no_section
  | some content =>
    simp only [read] at h
    split at h
    · cases h
    · next text htext =>
      split at h
      · next s' hs' =>
        obtain ⟨document, hdocument, hs'⟩ := Option.bind_eq_some_iff.1 hs'
        have hsection : modelSection? (some content) = document.given? names "llm" := by
          simp [modelSection?, htext, hdocument]
        rw [hsection, ← Except.ok.inj h]
        exact exists_given_of_ofToml? hs'
      · cases h

end Settings

/-! ## What is in force -/

namespace ModelSettings

/-- What remains of an address without its outer blanks and then without the slashes at its end. -/
def IsAddressIn (given rest : List Char) : Prop :=
  ∃ front slashes back, (∀ c ∈ front, Text.isBlank c = true) ∧ (∀ c ∈ back, Text.isBlank c = true) ∧
    given = front ++ (rest ++ slashes) ++ back ∧ Text.HasNoOuterBlanks (rest ++ slashes) ∧
    (∀ c ∈ slashes, c = '/') ∧ rest.getLast? ≠ some '/'

/-- What remains of a name without its outer blanks. -/
def IsNameIn (given rest : List Char) : Prop :=
  ∃ front back, (∀ c ∈ front, Text.isBlank c = true) ∧ (∀ c ∈ back, Text.isBlank c = true) ∧
    given = front ++ rest ++ back ∧ Text.HasNoOuterBlanks rest

variable {given rest : List Char}

/-- An address without the slashes it ends with. -/
theorem withoutLastSlashes_eq_iff {s : List Char} : withoutLastSlashes s = rest ↔
    rest.getLast? ≠ some '/' ∧ ∃ slashes, (∀ c ∈ slashes, c = '/') ∧ s = rest ++ slashes := by
  have hdrop : withoutLastSlashes s = s.rdropWhile (· == '/') := rfl
  have hlast : (∀ c ∈ rest.getLast?, (c == '/') = false) ↔ rest.getLast? ≠ some '/' := by
    simp only [beq_eq_false_iff_ne]
    exact ⟨fun h heq => h '/' heq rfl, fun h c hc hslash => h (hslash ▸ hc)⟩
  rw [hdrop, rdropWhile_eq_iff, hlast]
  simp only [beq_iff_eq]

/-- An address is read without outer blanks and last slashes. -/
theorem isAddressIn_iff : IsAddressIn given rest ↔ withoutLastSlashes (Text.trim given) = rest := by
  rw [withoutLastSlashes_eq_iff]
  constructor
  · rintro ⟨front, slashes, back, hfront, hback, hgiven, hbare, hslashes, hlast⟩
    exact ⟨hlast, slashes, hslashes,
      Text.trim_eq_iff.2 ⟨hbare, front, back, hfront, hback, hgiven⟩⟩
  · rintro ⟨hlast, slashes, hslashes, htrim⟩
    obtain ⟨hbare, front, back, hfront, hback, hgiven⟩ := Text.trim_eq_iff.1 htrim
    exact ⟨front, slashes, back, hfront, hback, hgiven, hbare, hslashes, hlast⟩

theorem isNameIn_iff : IsNameIn given rest ↔ Text.trim given = rest := by
  rw [Text.trim_eq_iff]
  constructor
  · rintro ⟨front, back, hfront, hback, hgiven, hbare⟩
    exact ⟨hbare, front, back, hfront, hback, hgiven⟩
  · rintro ⟨hbare, front, back, hfront, hback, hgiven⟩
    exact ⟨front, back, hfront, hback, hgiven, hbare⟩

/-- Which text is in force, where `remains` says what remains of a given one: the standard text if
none is given or if nothing remains, and otherwise what remains. -/
inductive InForce (standard : String) (remains : List Char → List Char → Prop) :
    Option String → String → Prop where
  /-- None is given. -/
  | unset : InForce standard remains none standard
  /-- Nothing remains. -/
  | blank {given : String} (h : remains given.toList []) :
    InForce standard remains (some given) standard
  /-- Something remains. -/
  | used {given : String} {rest : List Char} (h : remains given.toList rest) (hne : rest ≠ []) :
    InForce standard remains (some given) (String.ofList rest)

/-- A text that is left out is as good as an empty one. -/
theorem inForce_of_remains {standard : String} {remains : List Char → List Char → Prop}
    {strip : List Char → List Char} (h : ∀ s, remains s (strip s)) (hnil : strip [] = [])
    (given? : Option String) : InForce standard remains given?
      (if (strip (given?.getD "").toList).isEmpty then standard
        else String.ofList (strip (given?.getD "").toList)) := by
  cases given? with
  | none =>
    have hempty : (strip "".toList).isEmpty = true := by rw [String.toList_empty, hnil]; rfl
    rw [Option.getD_none, if_pos hempty]
    exact .unset
  | some given =>
    have hremains := h given.toList
    rw [Option.getD_some]
    split
    · next hempty =>
      rw [List.isEmpty_iff.1 hempty] at hremains
      exact .blank hremains
    · next hne => exact .used hremains fun hnil => hne (List.isEmpty_iff.2 hnil)

/-- The model that is in force where a file sets this about it. -/
structure Follows (s : ModelSettings) (g : Given) : Prop where
  /-- The provider is the one that is named, or Gemini. -/
  provider : s.provider = g.provider?.getD .gemini
  /-- The model is the one that is named, or the usual one of Gemini. -/
  model : s.model = g.model?.getD Provider.gemini.standardModel
  /-- So it is the usual one of the provider where none is named, if the provider is Gemini, and
  never otherwise. -/
  model_iff : s.model = g.model?.getD s.provider.standardModel ↔
    g.model? ≠ none ∨ s.provider = .gemini
  /-- The address is what remains of the one that is set, or the usual one of the provider. -/
  url : InForce s.provider.standardUrl IsAddressIn g.url? s.url
  /-- The variable is what remains of the one that is set, or the usual one of the provider. -/
  keyHolder : InForce s.provider.standardKeyVariable IsNameIn g.keyVariable? s.keyHolder

/-- Every provider has a usual model of its own. -/
theorem standardModel_eq_gemini_iff {p : Provider} :
    Provider.gemini.standardModel = p.standardModel ↔ p = .gemini := by
  cases p <;> decide

/-- Settings follow what is given. -/
theorem IsSetBy.follows {s : ModelSettings} {g : Given} (h : s.IsSetBy g) : s.Follows g where
  provider := h.provider
  model := h.model
  model_iff := by
    rw [h.model]
    cases g.model? with
    | none => simpa using standardModel_eq_gemini_iff
    | some model => simp
  url := by
    rw [url, h.baseUrl]
    exact inForce_of_remains (fun _ => isAddressIn_iff.2 rfl) rfl g.url?
  keyHolder := by
    rw [keyHolder, h.keyVariable]
    exact inForce_of_remains (fun _ => isNameIn_iff.2 rfl) rfl g.keyVariable?

end ModelSettings

namespace Settings

/-- A file that can be read sets something about the model, by the section that it may have about
it. The provider, the address and the variable that are in force are those that it sets or, where it
leaves them out or blank, those that are usual for the provider; the model is the one that it sets
or, whoever the provider is, the usual one of Gemini. Another file that sets the same about the
model has the same effect, whatever else either of them sets. -/
theorem model_in_force {content? : Option ByteArray} {s : Settings} (h : read content? = .ok s) :
    ∃ g : ModelSettings.Given, g.IsIn (modelSection? content?) ∧ s.model.Follows g ∧
      ∀ (other? : Option ByteArray) (s' : Settings), read other? = .ok s' →
        g.IsIn (modelSection? other?) →
        s'.model.provider = s.model.provider ∧ s'.model.model = s.model.model ∧
          s'.model.url = s.model.url ∧ s'.model.keyHolder = s.model.keyHolder := by
  obtain ⟨g, hg, hset⟩ := exists_given h
  refine ⟨g, hg, hset.follows, fun other? s' h' hg' => ?_⟩
  obtain ⟨g', hother, hset'⟩ := exists_given h'
  -- a section sets only one thing, so both files set the same
  obtain rfl : g = g' := hg'.unique hother
  have hprovider : s'.model.provider = s.model.provider := by rw [hset.provider, hset'.provider]
  refine ⟨hprovider, by rw [hset.model, hset'.model], ?_, ?_⟩
  · rw [ModelSettings.url, ModelSettings.url, hprovider, hset.baseUrl, hset'.baseUrl]
  · rw [ModelSettings.keyHolder, ModelSettings.keyHolder, hprovider, hset.keyVariable,
      hset'.keyVariable]

/-- A document that names a provider and its address, but no model. -/
def openAiText : String :=
  "[llm]\nprovider = \"openai\"\nbase_url = \" http://localhost// \"\n[chat]\nuser = \"asha\"\n"

/-- OpenAI is asked for the usual model of Gemini. -/
theorem model_of_other_provider : ∃ s, read (some openAiText.toUTF8) = .ok s ∧
    s.model.provider = .openai ∧ s.model.url = "http://localhost" ∧
    s.model.keyHolder = Provider.openai.standardKeyVariable ∧
    s.model.model = Provider.gemini.standardModel ∧
    s.model.model ≠ s.model.provider.standardModel := by
  have hparts : ((Toml.read? openAiText.toList).bind ofToml?).map
      (fun s => (s.model.provider, s.model.url, s.model.keyHolder)) =
        some (.openai, "http://localhost", "OPENAI_API_KEY") := by
    decide +kernel
  obtain ⟨s, hs, hparts⟩ := Option.map_eq_some_iff.1 hparts
  simp only [Prod.mk.injEq] at hparts
  have hread : read (some openAiText.toUTF8) = .ok s := by
    simp only [read, Text.fromUTF8?_toUTF8, hs]
  obtain ⟨g, hg, hfollows, -⟩ := model_in_force hread
  -- the section names no model
  have hvalue : (((Toml.read? openAiText.toList).bind (Toml.given? names "llm")).bind
      (Toml.given? ModelSettings.names "model")).isNone = true := by
    decide +kernel
  have hnone : g.model? = none := by
    have hmeans := hg.model
    simp only [ModelSettings.valueIn, modelSection?, Text.fromUTF8?_toUTF8, Option.bind_eq_bind,
      Option.bind_some, Option.isNone_iff_eq_none.1 hvalue] at hmeans
    exact hmeans.eq_none
  refine ⟨s, hread, hparts.1, hparts.2.1, hparts.2.2, ?_, fun h => ?_⟩
  · rw [hfollows.model, hnone]
    rfl
  · rcases hfollows.model_iff.1 (by rw [hnone]; exact h) with hne | hgemini
    · exact hne hnone
    · rw [hparts.1] at hgemini
      cases hgemini

end Settings

end AskLedger
