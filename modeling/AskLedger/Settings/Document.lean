import AskLedger.Calendar.Zone
import AskLedger.Chat.Memory
import AskLedger.Question.Answer
import AskLedger.Settings.Model
import AskLedger.Toml.Reader
import AskLedger.Toml.Writer

/-!
# Settings

All that can be set, and the document that sets it. What a document does not mention keeps its
standard value; what it mentions beyond the settings is ignored. Writing settings mentions all of
them, but for a ledger that is not set.
-/

namespace AskLedger

/-- What is set about conversations. -/
structure ChatSettings where
  /-- How many messages are remembered. -/
  capacity : Nat := Memory.standardCapacity
  /-- Whose ledger is asked. -/
  user : String := "default"
  /-- The time zone of the clock. -/
  zone : String := Zone.standard
  deriving DecidableEq, Repr

/-- What is set about answers. -/
structure AnswerSettings where
  /-- How many of the newest entries of a ledger are looked at. -/
  fetchedRows : Nat := 100
  /-- How answers are cut. -/
  options : AnswerOptions := {}
  deriving DecidableEq, Repr

/-- All settings. -/
structure Settings where
  /-- The language model. -/
  model : ModelSettings := {}
  /-- Conversations. -/
  chat : ChatSettings := {}
  /-- Answers. -/
  answers : AnswerSettings := {}
  /-- The path of the ledger. -/
  ledgerPath? : Option String := none

/-- Why settings cannot be read. -/
inductive SettingsError where
  /-- The document is no text. -/
  | unreadable
  /-- The document is not well formed or sets something to a value that it cannot have. -/
  | malformed
  deriving DecidableEq, Repr

/-- The wording of an error, for a document at a path. -/
def SettingsError.message (path : String) : SettingsError → String
  | unreadable => "read " ++ path
  | malformed => "parse " ++ path

namespace ChatSettings

/-- The names of the settings in a document. -/
def names : List String := ["history_capacity", "user", "timezone"]

/-- The settings that a section of a document gives. -/
def ofToml? (given : Toml) : Option ChatSettings := do
  let fields ← given.fields? names
  let standard : ChatSettings := {}
  return {
    capacity := ← Toml.fieldOr fields 0 standard.capacity Toml.asCount?
    user := ← Toml.fieldOr fields 1 standard.user Toml.asText?
    zone := ← Toml.fieldOr fields 2 standard.zone Toml.asText? }

end ChatSettings

namespace AnswerSettings

/-- The names of the settings in a document. -/
def names : List String :=
  ["fetch_limit", "display_rows", "fallback_rows", "default_rank_limit", "restart_from_history"]

/-- Where filters start when no entries are left, as a choice between yes and no. -/
def rescueOf (restart : Bool) : Rescue := if restart then .fromLedger else .none

/-- The settings that a section of a document gives. -/
def ofToml? (given : Toml) : Option AnswerSettings := do
  let fields ← given.fields? names
  let standard : AnswerSettings := {}
  return {
    fetchedRows := ← Toml.fieldOr fields 0 standard.fetchedRows Toml.asCount?
    options := {
      shownRows := ← Toml.fieldOr fields 1 standard.options.shownRows Toml.asCount?
      newestRows := ← Toml.fieldOr fields 2 standard.options.newestRows Toml.asCount?
      rankedRows := ← Toml.fieldOr fields 3 standard.options.rankedRows Toml.asCount?
      rescue := ← Toml.fieldOr fields 4 standard.options.rescue fun v =>
        v.asBool?.map rescueOf } }

end AnswerSettings

namespace Settings

/-- The names of the sections of a document. -/
def names : List String := ["llm", "chat", "engine", "store"]

/-- The path of the ledger that a section of a document gives. -/
def ledgerPathOfToml? (given : Toml) : Option (Option String) := do
  let fields ← given.fields? ["path"]
  Toml.fieldOr fields 0 none fun v => v.asText?.map some

/-- The settings that a document gives. -/
def ofToml? (document : Toml) : Option Settings := do
  let fields ← document.fields? names
  let standard : Settings := {}
  return {
    model := ← Toml.fieldOr fields 0 standard.model ModelSettings.ofToml?
    chat := ← Toml.fieldOr fields 1 standard.chat ChatSettings.ofToml?
    answers := ← Toml.fieldOr fields 2 standard.answers AnswerSettings.ofToml?
    ledgerPath? := ← Toml.fieldOr fields 3 standard.ledgerPath? ledgerPathOfToml? }

/-- The settings in a file; there may be no such file. -/
def read : Option ByteArray → Except SettingsError Settings
  | none => .ok {}
  | some content =>
    match String.fromUTF8? content with
    | none => .error .unreadable
    | some text =>
      match (Toml.read? text.toList).bind ofToml? with
      | some s => .ok s
      | none => .error .malformed

/-- The sections of the document that gives these settings. -/
def sections (s : Settings) : List Toml.WrittenSection :=
  [⟨"llm",
      [("provider", Toml.writtenText s.model.provider.word),
        ("model", Toml.writtenText s.model.model),
        ("base_url", Toml.writtenText s.model.baseUrl),
        ("temperature", Toml.writtenFloat s.model.temperature.toFloat),
        ("api_key_env", Toml.writtenText s.model.keyVariable)]⟩,
    ⟨"chat",
      [("history_capacity", Toml.writtenCount s.chat.capacity),
        ("user", Toml.writtenText s.chat.user),
        ("timezone", Toml.writtenText s.chat.zone)]⟩,
    ⟨"engine",
      [("fetch_limit", Toml.writtenCount s.answers.fetchedRows),
        ("display_rows", Toml.writtenCount s.answers.options.shownRows),
        ("fallback_rows", Toml.writtenCount s.answers.options.newestRows),
        ("default_rank_limit", Toml.writtenCount s.answers.options.rankedRows),
        ("restart_from_history",
          Toml.writtenBool (s.answers.options.rescue == Rescue.fromLedger))]⟩,
    ⟨"store", (s.ledgerPath?.map fun path => ("path", Toml.writtenText path)).toList⟩]

/-- The document that gives these settings. -/
def text (s : Settings) : String := Toml.writtenDocument s.sections

end Settings

end AskLedger
