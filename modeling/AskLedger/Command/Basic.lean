import AskLedger.Command.Arguments

/-!
# Commands

What can be asked of the program: an answer to a question, a conversation, and to write or to show
the settings.
-/

namespace AskLedger

/-- A question to a ledger. -/
structure QueryCommand where
  /-- Whose ledger, if not that of the settings. -/
  user? : Option String
  /-- The path of the ledger, if not that of the settings. -/
  ledgerPath? : Option String
  /-- The present, if not that of the clock. -/
  now? : Option String
  /-- Whether the answer is written as JSON. -/
  asJson : Bool
  /-- The words of the question. -/
  words : List String
  deriving DecidableEq, Repr

/-- The text of the question. -/
def QueryCommand.message (q : QueryCommand) : String := Text.joinWith " " q.words

/-- A conversation. -/
structure ChatCommand where
  /-- Whose ledger, if not that of the settings. -/
  user? : Option String
  /-- The path of the ledger, if not that of the settings. -/
  ledgerPath? : Option String
  /-- Whether prompts are shown instead of sent. -/
  showsPrompts : Bool
  deriving DecidableEq, Repr

/-- What the program is asked to do. -/
inductive Command where
  /-- Answer a question. -/
  | query (q : QueryCommand)
  /-- Hold a conversation. -/
  | chat (c : ChatCommand)
  /-- Write the standard settings to a file. -/
  | writeSettings
  /-- Show the settings in force. -/
  | showSettings
  deriving DecidableEq, Repr

namespace Command

/-- The switches that all commands know. -/
def commonSwitches : List String := ["verbose"]

/-- The path of a ledger, which must not be empty. -/
def ledgerPath? (a : Arguments) : Option (Option String) :=
  match a.options.lookup "data" with
  | some "" => none
  | path? => some path?

/-- The command for a question. -/
def ofQueryArguments? (arguments : List String) : Option Command := do
  let a ← Arguments.read?
    ⟨"json" :: commonSwitches, ["user", "data", "now"], true⟩ arguments
  if a.words.isEmpty then none
  else
    return .query {
      user? := a.options.lookup "user"
      ledgerPath? := ← ledgerPath? a
      now? := a.options.lookup "now"
      asJson := a.switches.contains "json"
      words := a.words }

/-- The command for a conversation. -/
def ofChatArguments? (arguments : List String) : Option Command := do
  let a ← Arguments.read? ⟨"dry-run" :: commonSwitches, ["user", "data"], false⟩ arguments
  return .chat {
    user? := a.options.lookup "user"
    ledgerPath? := ← ledgerPath? a
    showsPrompts := a.switches.contains "dry-run" }

/-- The command about settings. -/
def ofSettingsArguments? (arguments : List String) : Option Command := do
  let (name, rest) ← Arguments.splitCommand? commonSwitches [] arguments
  let _ ← Arguments.read? ⟨commonSwitches, [], false⟩ rest
  match name with
  | "init" => some writeSettings
  | "show" => some showSettings
  | _ => none

/-- The command that a command line asks for. -/
def ofArguments? (arguments : List String) : Option Command := do
  let (name, rest) ← Arguments.splitCommand? commonSwitches [] arguments
  match name with
  | "query" => ofQueryArguments? rest
  | "chat" => ofChatArguments? rest
  | "config" => ofSettingsArguments? rest
  | _ => none

end Command

end AskLedger
