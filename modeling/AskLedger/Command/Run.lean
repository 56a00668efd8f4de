import AskLedger.Command.Basic
import AskLedger.Command.Session
import AskLedger.Json.Writer
import AskLedger.Report.Answer

/-!
# Running commands

A question is answered by a fixed reply, before anything is asked of the ledger, or from the newest
entries of the ledger. A conversation starts with a session, even where there is no ledger. Settings
are written only where there are none. A question without an answer is no failure that is told: the
program stops at once, with an exit status of its own.
-/

namespace AskLedger.Command

variable {m : Type → Type} [Monad m] (h : Host m)

/-- The present, and the newest entries of the ledger that a question is asked of. -/
def presentAndLedger (settings : Settings) (q : QueryCommand) :
    ExceptT CommandError m (Moment × List Entry) := do
  let path ← h.ledgerPath settings q.ledgerPath?
  if !(← h.isPresent path) then throw (.noLedger path)
  let now ← h.present settings q.now?
  let format ← Host.formatAt path
  let user := q.user?.getD settings.chat.user
  match format.recent user settings.answers.fetchedRows (← h.content? path) with
  | .error _ => throw (.badLedger path)
  | .ok ledger => return (now, ledger)

/-- The text that shows an answer. -/
def textOf (q : QueryCommand) (answer : Answer) : String :=
  if q.asJson then answer.toJson.pretty else answer.shown

/-- The text that answers a question. -/
def answerText (q : QueryCommand) : ExceptT CommandError m String := do
  let settings ← h.settings
  match FixedReplies.standard.reply? q.message with
  | some text => return text
  | none =>
    let (now, ledger) ← presentAndLedger h settings q
    let question : Question :=
      { text := q.message.toList, ledger, now, options := settings.answers.options }
    match question.answer? with
    | some answer => return textOf q answer
    | none => throw .noOrder

/-- What asks the language model, with the key in the environment. -/
def client (settings : ModelSettings) : ExceptT CommandError m ModelClient := do
  let value? ← h.environment settings.keyHolder
  match ModelClient.ofVariable settings value? with
  | .ok c => return c
  | .error variableName => throw (.noKey variableName)

/-- The session of a conversation. -/
def session (c : ChatCommand) : ExceptT CommandError m Session := do
  let settings ← h.settings
  let path ← h.ledgerPath settings c.ledgerPath?
  let ledger? ← if ← h.isPresent path then pure (some (path, ← Host.formatAt path)) else pure none
  let client? ← if c.showsPrompts then pure none else some <$> client h settings.model
  return {
    settings, ledger?, client?
    user := c.user?.getD settings.chat.user
    chat := {
      options := settings.answers.options
      memory := Memory.ofCapacity settings.chat.capacity } }

/-- Writes the standard settings where there are none, and tells what has been done. -/
def settingsWritten : ExceptT CommandError m String := do
  let path ← h.settingsPath
  if ← h.isPresent path then return "Config already exists: " ++ path
  else if ← h.write path ({} : Settings).text then return "Wrote " ++ path
  else throw (.unwritten path)

/-- The settings in force, under a line that says where they come from. -/
def settingsText : ExceptT CommandError m String := do
  let path ← h.settingsPath
  let settings ← h.settingsAt path
  let source := if ← h.isPresent path then path else "defaults"
  return "# " ++ source ++ "\n" ++ settings.text

/-- Runs a command; a conversation leaves a session that goes on with the lines of the input. -/
def start : Command → ExceptT CommandError m (Option Session)
  | query q => do
    h.print ((← answerText h q) ++ "\n")
    return none
  | chat c => do return some (← session h c)
  | writeSettings => do
    h.print ((← settingsWritten h) ++ "\n")
    return none
  | showSettings => do
    h.print (← settingsText h)
    return none

/-- Runs a command to its end, with all lines of the input. -/
def run (c : Command) (lines : List String) : ExceptT CommandError m Unit := do
  match ← start h c with
  | some s => s.run h lines
  | none => return ()

/-- How the program ends. -/
inductive Outcome where
  /-- The command line asks for no command. -/
  | misused
  /-- The command has failed. -/
  | failed (e : CommandError)
  /-- The command has stopped in the middle. -/
  | stopped
  /-- The command has been run. -/
  | done
  deriving DecidableEq, Repr

/-- The exit status. -/
def Outcome.status : Outcome → Nat
  | misused => 2
  | failed _ => 1
  | stopped => 101
  | done => 0

/-- What is said about a failure. -/
def Outcome.message? : Outcome → Option String
  | failed e => some ("Error: " ++ e.message)
  | _ => none

/-- The outcome of a run. -/
def Outcome.of : Except CommandError Unit → Outcome
  | .ok () => done
  | .error .noOrder => stopped
  | .error e => failed e

/-- Runs what a command line asks for, with all lines of the input. -/
def runArguments (arguments lines : List String) : m Outcome :=
  match ofArguments? arguments with
  | some c => do return Outcome.of (← (c.run h lines).run)
  | none => return .misused

end AskLedger.Command
