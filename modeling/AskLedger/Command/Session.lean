import AskLedger.Chat.Turn
import AskLedger.Command.Host

/-!
# Conversations line by line

A session of a conversation reads a line after each mark that invites one. Lines that start with a
slash may end the session or clear its memory; all others are messages. With a language model its
replies are shown, without one the prompts.
-/

namespace AskLedger

/-- A conversation in a place. -/
structure Session where
  /-- The settings. -/
  settings : Settings
  /-- Whose ledger is asked. -/
  user : String
  /-- The path of the ledger and how it is read, if there is one. -/
  ledger? : Option (String × StoreFormat)
  /-- What asks the language model; without it prompts are shown. -/
  client? : Option ModelClient
  /-- The conversation so far. -/
  chat : Chat

/-- What a line asks for. -/
inductive SessionLine where
  /-- To end the session. -/
  | leave
  /-- To clear the memory. -/
  | clear
  /-- To answer a message. -/
  | message (text : String)
  deriving DecidableEq, Repr

/-- Takes a line without its outer blanks. -/
def SessionLine.of (line : String) : SessionLine :=
  match Text.trimmed line with
  | "/quit" => leave
  | "/exit" => leave
  | "/reset" => clear
  | text => message text

namespace Session

variable {m : Type → Type} [Monad m] (h : Host m)

/-- Invites a line. -/
def invite : m Unit := h.print "you> "

/-- Ends a session whose input has ended. -/
def hangUp : m Unit := h.print "\n"

/-- The newest entries of the ledger, if it can be read. -/
def fetch (s : Session) : m (Option (List Entry)) := do
  match s.ledger? with
  | some (path, format) =>
    let content? ← h.content? path
    return (format.recent s.user s.settings.answers.fetchedRows content?).toOption
  | none => return none

/-- What is shown of a prompt or a fixed reply. -/
def shownPrepared : Prepared → String
  | .fixed text => "creatzion> " ++ text ++ "\n\n"
  | .prompt text _ => "--- prompt ---\n" ++ text ++ "\n--------------\n\n"

/-- What is shown of a reply. -/
def shownReply (r : Reply) : String := "creatzion> " ++ r.text ++ "\n\n"

/-- A turn with a message; one that has no answer ends everything. -/
def hear (s : Session) (text : String) : ExceptT CommandError m Session := do
  let now ← h.present s.settings none
  match s.client? with
  | some client =>
    let complete (prompt : String) : m (Option String) := do
      return (← client.complete h.send prompt).toOption
    match ← ExceptT.lift (s.chat.respond text now (s.fetch h) complete) with
    | (some reply, chat) =>
      h.print (shownReply reply)
      return { s with chat }
    | (none, _) => throw .noOrder
  | none =>
    match ← ExceptT.lift (s.chat.prepare text now (s.fetch h)) with
    | (some prepared, chat) =>
      h.print (shownPrepared prepared)
      return { s with chat }
    | (none, _) => throw .noOrder

/-- A turn with a line; no session is left if the line ends it. -/
def turn (s : Session) (line : String) : ExceptT CommandError m (Option Session) :=
  match SessionLine.of line with
  | .leave => return none
  | .clear => do
    h.print "(history cleared)\n"
    return some { s with chat := s.chat.reset }
  | .message text => do return some (← s.hear h text)

/-- The turns with all lines of an input. -/
def run (s : Session) : List String → ExceptT CommandError m Unit
  | [] => do
    ExceptT.lift (invite h)
    ExceptT.lift (hangUp h)
  | line :: rest => do
    ExceptT.lift (invite h)
    match ← s.turn h line with
    | some s => s.run rest
    | none => return ()

end Session

end AskLedger
