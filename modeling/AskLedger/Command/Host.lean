import AskLedger.Calendar.Zone
import AskLedger.Model.Client
import AskLedger.Settings.Document
import AskLedger.Store.File

/-!
# What commands need around them

A command runs in a place that has an environment, files, an output, a clock and hosts to send
requests to. They are steps of any monad, so that a run in an abstract place shows what is done in
which order. What goes wrong is told apart by its cause.
-/

namespace AskLedger

/-- The place in which commands run. -/
structure Host (m : Type → Type) where
  /-- The value of an environment variable. -/
  environment : String → m (Option String)
  /-- Writes to the output. -/
  print : String → m Unit
  /-- Whether there is a file or a folder at a path. -/
  isPresent : String → m Bool
  /-- What is in the file at a path, if it can be read. -/
  content? : String → m (Option ByteArray)
  /-- Writes a file; whether it could be written. -/
  write : String → String → m Bool
  /-- Makes a folder and those around it; whether it is there now. -/
  makeFolder : String → m Bool
  /-- The local time in a time zone. -/
  localTime : String → m Moment
  /-- Sends a request; the response, if there is one. -/
  send : Web.Request → m (Option Web.Response)

/-- Why a command fails. -/
inductive CommandError where
  /-- It is not known where the folder of the program belongs. -/
  | noHome
  /-- The folder of the program cannot be made. -/
  | noFolder (path : String)
  /-- The settings cannot be read. -/
  | settings (path : String) (e : SettingsError)
  /-- The settings cannot be written. -/
  | unwritten (path : String)
  /-- There is no ledger at a path. -/
  | noLedger (path : String)
  /-- It is not known how a ledger is to be read. -/
  | store (e : StoreError)
  /-- The ledger cannot be read. -/
  | badLedger (path : String)
  /-- It is not known what the present is. -/
  | time (e : ReferenceError)
  /-- There is no key for the language model. -/
  | noKey (variableName : String)
  /-- Nothing comes of putting the entries in the order that is asked for. -/
  | noOrder
  deriving DecidableEq, Repr

/-- The wording of an error. -/
def CommandError.message : CommandError → String
  | noHome => "HOME is not set"
  | noFolder path => "create " ++ path
  | settings path e => e.message path
  | unwritten path => "write " ++ path
  | noLedger path => "Transaction file not found: " ++ path ++ " (pass --data <file>)"
  | store e => e.message?.getD ""
  | badLedger path => "reading " ++ path
  | time e => e.message
  | noKey variableName => ModelSettings.missingKeyMessage variableName
  | noOrder => "user-provided comparison function does not correctly implement a total order"

/-- The path of something in a folder. -/
def pathIn (folder name : String) : String :=
  if folder.isEmpty || folder.toList.getLast? == some '/' then folder ++ name
  else folder ++ "/" ++ name

namespace Host

variable {m : Type → Type} [Monad m] (h : Host m)

/-- The folder of the program. -/
def folder : ExceptT CommandError m String := do
  match ← h.environment "HOME" with
  | some home => return pathIn home ".creatzion"
  | none => throw .noHome

/-- The path of the settings, in a folder that is made if it is not there. -/
def settingsPath : ExceptT CommandError m String := do
  let folder ← h.folder
  if ← h.makeFolder folder then return pathIn folder "config.toml"
  else throw (.noFolder folder)

/-- The settings in a file; the standard ones if it is not there. -/
def settingsAt (path : String) : ExceptT CommandError m Settings := do
  if ← h.isPresent path then
    match (← h.content? path).elim (.error .unreadable) fun content =>
        Settings.read (some content) with
    | .ok s => return s
    | .error e => throw (.settings path e)
  else return {}

/-- The settings in force. -/
def settings : ExceptT CommandError m Settings := do
  h.settingsAt (← h.settingsPath)

/-- The path of the ledger: one that is given, that of the settings, or one in the folder of the
program. -/
def ledgerPath (s : Settings) (given? : Option String) : ExceptT CommandError m String :=
  match given?.or s.ledgerPath? with
  | some path => return path
  | none => do return pathIn (← h.folder) "transactions.csv"

/-- The present in the time zone of the settings: a given one, or that of the clock. -/
def present (s : Settings) (given? : Option String) : ExceptT CommandError m Moment :=
  match given? with
  | some text =>
    match referenceTime text s.chat.zone with
    | .ok t => return t
    | .error e => throw (.time e)
  | none =>
    if Zone.isName s.chat.zone then h.localTime s.chat.zone
    else throw (.time (.unknownZone s.chat.zone))

/-- How the ledger at a path is to be read. -/
def formatAt (path : String) : ExceptT CommandError m StoreFormat :=
  match StoreFormat.ofPath path with
  | .ok f => return f
  | .error e => throw (.store e)

end Host

end AskLedger
