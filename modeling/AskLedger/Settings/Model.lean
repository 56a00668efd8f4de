import AskLedger.Text.Blank
import AskLedger.Toml.Value

/-!
# Which language model answers

The provider of a model, and what is set about it: the name of the model, where the provider is
reached, the temperature, and the environment variable that holds the key. An address or a variable
that is left blank is the provider's own.

* `Provider.ofWord?_word`: every provider is known by its word.
* `ModelSettings.key_error_iff`: there is no key exactly if the variable is not set or is blank.
-/

namespace AskLedger

/-- Who runs a language model. -/
inductive Provider where
  /-- The Gemini models. -/
  | gemini
  /-- The GPT models. -/
  | openai
  /-- The Claude models. -/
  | anthropic
  deriving DecidableEq, Repr

namespace Provider

/-- The word for a provider in settings and in messages. -/
def word : Provider → String
  | gemini => "gemini"
  | openai => "openai"
  | anthropic => "anthropic"

/-- The provider that a word stands for. -/
def ofWord? (s : String) : Option Provider :=
  [gemini, openai, anthropic].find? fun p => p.word == s

/-- The model that is asked where nothing else is said. -/
def standardModel : Provider → String
  | gemini => "gemini-1.5-flash"
  | openai => "gpt-4o-mini"
  | anthropic => "claude-3-5-sonnet-latest"

/-- The public address. -/
def standardUrl : Provider → String
  | gemini => "https://generativelanguage.googleapis.com"
  | openai => "https://api.openai.com"
  | anthropic => "https://api.anthropic.com"

/-- The environment variable that usually holds the key. -/
def standardKeyVariable : Provider → String
  | gemini => "GEMINI_API_KEY"
  | openai => "OPENAI_API_KEY"
  | anthropic => "ANTHROPIC_API_KEY"

/-- Every provider is known by its word. -/
@[simp] theorem ofWord?_word (p : Provider) : ofWord? p.word = some p := by
  cases p <;> decide

end Provider

/-- What is set about the language model. -/
structure ModelSettings where
  /-- Who runs it. -/
  provider : Provider := .gemini
  /-- Its name. -/
  model : String := Provider.gemini.standardModel
  /-- Where the provider is reached; blank for the public address. -/
  baseUrl : String := ""
  /-- How much the answers vary. -/
  temperature : Float32 := 0.7
  /-- The environment variable that holds the key; blank for the usual one. -/
  keyVariable : String := ""

namespace ModelSettings

/-- A text without the slashes it ends with. -/
def withoutLastSlashes (s : List Char) : List Char :=
  (s.reverse.dropWhile (· == '/')).reverse

/-- Where the provider is reached. -/
def url (s : ModelSettings) : String :=
  let given := withoutLastSlashes (Text.trim s.baseUrl.toList)
  if given.isEmpty then s.provider.standardUrl else String.ofList given

/-- The environment variable that holds the key. -/
def keyHolder (s : ModelSettings) : String :=
  let given := Text.trim s.keyVariable.toList
  if given.isEmpty then s.provider.standardKeyVariable else String.ofList given

/-- The key, which is the value of the variable that holds it. If that is not set or blank, the name
of the variable. -/
def key (s : ModelSettings) : Option String → Except String String
  | some k => if Text.isAllBlank k.toList then .error s.keyHolder else .ok k
  | none => .error s.keyHolder

/-- What is said when a variable holds no key. -/
def missingKeyMessage (variableName : String) : String :=
  variableName ++ " is not set (or use `creatzion chat --dry-run`)"

/-- The names of the settings in a document. -/
def names : List String := ["provider", "model", "base_url", "temperature", "api_key_env"]

/-- The settings that a section of a document gives. -/
def ofToml? (given : Toml) : Option ModelSettings := do
  let fields ← given.fields? names
  let standard : ModelSettings := {}
  return {
    provider := ← Toml.fieldOr fields 0 standard.provider (Toml.asWord? Provider.ofWord?)
    model := ← Toml.fieldOr fields 1 standard.model Toml.asText?
    baseUrl := ← Toml.fieldOr fields 2 standard.baseUrl Toml.asText?
    temperature := ← Toml.fieldOr fields 3 standard.temperature Toml.asFloat32?
    keyVariable := ← Toml.fieldOr fields 4 standard.keyVariable Toml.asText? }

/-- There is no key exactly if the variable is not set or is blank. -/
theorem key_error_iff {s : ModelSettings} {value? : Option String} :
    s.key value? = .error s.keyHolder ↔ ∀ k ∈ value?, Text.isAllBlank k.toList = true := by
  cases value? with
  | none => simp [key]
  | some k => by_cases hk : Text.isAllBlank k.toList = true <;> simp [key, hk]

end ModelSettings

end AskLedger
