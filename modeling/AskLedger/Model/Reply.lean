import AskLedger.Json.Decode
import AskLedger.Json.Reader
import AskLedger.Settings.Model

/-!
# Replies of language models

Each provider has its own shape of reply. Gemini sends candidates whose content has parts, of which
the first part of the first candidate is taken. OpenAI sends choices, of which the first is taken.
Anthropic sends blocks, of which those that are text are taken together.
-/

namespace AskLedger

/-- An answer that Gemini has thought of: the texts of its parts, where they have one. -/
structure Candidate where
  /-- The parts. -/
  parts : List (Option String)
  deriving DecidableEq, Repr

/-- An answer that OpenAI has thought of. -/
structure Choice where
  /-- What it says, if anything. -/
  content? : Option String
  deriving DecidableEq, Repr

/-- A piece of the answer of Anthropic. -/
structure Block where
  /-- What kind of piece it is. -/
  kind : String
  /-- Its text, if it has one. -/
  text? : Option String
  deriving DecidableEq, Repr

/-- The reply of a language model. -/
inductive ModelReply where
  /-- A reply of Gemini. -/
  | candidates (cs : List Candidate)
  /-- A reply of OpenAI. -/
  | choices (cs : List Choice)
  /-- A reply of Anthropic. -/
  | blocks (bs : List Block)
  deriving DecidableEq, Repr

/-- The text of a block of text. -/
def Block.shown? (b : Block) : Option String := if b.kind = "text" then b.text? else none

namespace ModelReply

/-- What the model says; the empty text if it says nothing. -/
def text : ModelReply → String
  | candidates cs => (cs.head?.bind fun c => c.parts.head?.join).getD ""
  | choices cs => (cs.head?.bind Choice.content?).getD ""
  | blocks bs => String.join (bs.filterMap Block.shown?)

/-! ## Decoding -/

/-- A part of a candidate. -/
def partOf (v : Json) : Except DecodeError (Option String) := do
  (← v.slots ["text"]).nullable 0 (Json.orNull Json.asText)

/-- The parts of the content of a candidate. -/
def partsOf (v : Json) : Except DecodeError (List (Option String)) := do
  (← v.slots ["parts"]).defaulted 0 [] (Json.asList partOf)

/-- A candidate; without content it has no parts. -/
def candidateOf (v : Json) : Except DecodeError Candidate := do
  let parts? ← (← v.slots ["content"]).nullable 0 (Json.orNull partsOf)
  return ⟨parts?.getD []⟩

/-- What a choice says. -/
def contentOf (v : Json) : Except DecodeError (Option String) := do
  (← v.slots ["content"]).nullable 0 (Json.orNull Json.asText)

/-- A choice. -/
def choiceOf (v : Json) : Except DecodeError Choice := do
  return ⟨← (← v.slots ["message"]).required 0 contentOf⟩

/-- A block. -/
def blockOf (v : Json) : Except DecodeError Block := do
  let fields ← v.slots ["type", "text"]
  return ⟨← fields.required 0 Json.asText, ← fields.nullable 1 (Json.orNull Json.asText)⟩

/-- The reply of a provider. -/
def ofJson (p : Provider) (v : Json) : Except DecodeError ModelReply := do
  match p with
  | .gemini =>
    return .candidates (← (← v.slots ["candidates"]).defaulted 0 [] (Json.asList candidateOf))
  | .openai => return .choices (← (← v.slots ["choices"]).required 0 (Json.asList choiceOf))
  | .anthropic => return .blocks (← (← v.slots ["content"]).required 0 (Json.asList blockOf))

/-- The reply of a provider in a text. -/
def read? (p : Provider) (s : String) : Option ModelReply :=
  (Json.read? s.toList).bind fun v => (ofJson p v).toOption

end ModelReply

end AskLedger
