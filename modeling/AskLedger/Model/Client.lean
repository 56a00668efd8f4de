import AskLedger.Json.Writer
import AskLedger.Model.Reply
import AskLedger.Web.Message

/-!
# Asking a language model

A client knows its settings and a key. It turns a prompt into a request, which somebody else sends,
and takes the text out of the response. How the key is given depends on the provider: in the query,
as a bearer token or in a header of its own.
-/

namespace AskLedger

/-- Why a model gives no text. -/
inductive ModelError where
  /-- The key cannot be the value of a header. -/
  | badKey
  /-- The request could not be sent, or nothing came back. -/
  | unreachable (provider : Provider)
  /-- The provider says that something is wrong. -/
  | refused (provider : Provider) (response : Web.Response)
  /-- The body is not a reply. -/
  | badReply (provider : Provider)
  deriving DecidableEq, Repr

/-- The wording of an error. -/
def ModelError.message : ModelError → String
  | badKey => "failed to parse header value"
  | unreachable p => p.word ++ " request"
  | refused p r => p.word ++ " error: " ++ Web.statusLine r.status ++ " " ++ r.body
  | badReply p => "parse " ++ p.word ++ " response"

/-- What asks a language model. -/
structure ModelClient where
  /-- What is set about the model. -/
  settings : ModelSettings
  /-- The key. -/
  key : String

namespace ModelClient

/-- A client with the key in an environment variable; if there is none, the name of the variable. -/
def ofVariable (settings : ModelSettings) (value? : Option String) : Except String ModelClient :=
  (settings.key value?).map fun key => ⟨settings, key⟩

/-- The longest text that Anthropic is asked for. -/
def mostTokens : Nat := 1024

/-- The prompt as the only message of a conversation. -/
def messages (prompt : String) : Json :=
  .array [.object [("role", .text "user"), ("content", .text prompt)]]

/-- The body of a request. -/
def body (c : ModelClient) (prompt : String) : Json :=
  let temperature := Json.ofFloat32 c.settings.temperature
  match c.settings.provider with
  | .gemini =>
    .object
      [("contents", .array [.object
          [("role", .text "user"), ("parts", .array [.object [("text", .text prompt)]])]]),
        ("generationConfig", .object [("temperature", temperature)])]
  | .openai =>
    .object
      [("model", .text c.settings.model), ("messages", messages prompt),
        ("temperature", temperature)]
  | .anthropic =>
    .object
      [("model", .text c.settings.model), ("max_tokens", .ofNat mostTokens),
        ("temperature", temperature), ("messages", messages prompt)]

/-- Where requests go; there is no such place if the address that is set is none. -/
def url? (c : ModelClient) : Option Url :=
  let base := c.settings.url
  match c.settings.provider with
  | .gemini =>
    (Url.read? (base ++ "/v1beta/models/" ++ c.settings.model ++ ":generateContent")).map fun u =>
      u.withValue "key" c.key
  | .openai => Url.read? (base ++ "/v1/chat/completions")
  | .anthropic => Url.read? (base ++ "/v1/messages")

/-- The headers of a request. -/
def headers (c : ModelClient) : List (String × String) :=
  let contentType := ("content-type", "application/json")
  match c.settings.provider with
  | .gemini => [contentType]
  | .openai => [("authorization", "Bearer " ++ c.key), contentType]
  | .anthropic => [("x-api-key", c.key), ("anthropic-version", "2023-06-01"), contentType]

/-- The request for a prompt. A key that cannot be the value of a header is told as such only by
Anthropic. -/
def request (c : ModelClient) (prompt : String) : Except ModelError Web.Request :=
  let p := c.settings.provider
  -- headers come first: a bad key is told before a bad address
  if c.headers.all fun h => Web.isHeaderValue h.2 then
    match c.url? with
    | some url => .ok ⟨url, c.headers, (c.body prompt).compact⟩
    | none => .error (.unreachable p)
  else if p = .anthropic then .error .badKey
  else .error (.unreachable p)

/-- The text in a response, if one came back. -/
def textOf (c : ModelClient) : Option Web.Response → Except ModelError String
  | none => .error (.unreachable c.settings.provider)
  | some r =>
    if r.isSuccess then
      match ModelReply.read? c.settings.provider r.body with
      | some reply => .ok reply.text
      | none => .error (.badReply c.settings.provider)
    else .error (.refused c.settings.provider r)

/-- The text for a prompt, with requests sent by the caller. -/
def complete {m : Type → Type} [Monad m] (c : ModelClient)
    (send : Web.Request → m (Option Web.Response)) (prompt : String) :
    m (Except ModelError String) :=
  match c.request prompt with
  | .ok request => do return c.textOf (← send request)
  | .error e => return .error e

end ModelClient

end AskLedger
