import AskLedger.Command.Run
import Std.Time.Zoned

/-!
# The program

The outer layer: the place that commands run in is the machine. Files, the environment, the clock
and the standard streams are those of the system. There is no connection to other hosts here, so
that a request has no response; prompts can be shown instead of sent.
-/

namespace AskLedger.Terminal

/-- Does something that may fail; whether it has worked. -/
def works (action : IO Unit) : IO Bool := do
  try
    action
    return true
  catch _ => return false

/-- The bytes of a file, if it can be read. -/
def bytesAt (path : String) : IO (Option ByteArray) := do
  try
    return some (← IO.FS.readBinFile path)
  catch _ => return none

/-- Whether there is a file or a folder at a path. -/
def canOpen (path : String) : IO Bool :=
  works do
    let _ ← IO.FS.Handle.mk path .read

/-- The local time of the clock in a time zone. -/
def clock (zone : String) : IO Moment := do
  let now ← Std.Time.DateTime.nowAt zone
  let date := now.toPlainDate
  let time := now.toPlainTime
  match Date.ofCivil? date.year.toInt date.month.toNat date.day.toNat with
  | some day =>
    return (Moment.at? day time.hour.val.toNat time.minute.val.toNat time.second.val.toNat
      time.nanosecond.val.toNat).getD (Moment.startOf day)
  | none => throw (IO.userError "the clock is out of range")

/-- Writes to the standard output at once. -/
def say (text : String) : IO Unit := do
  let output ← IO.getStdout
  output.putStr text
  output.flush

/-- The machine as the place that commands run in. -/
def machine : Host IO where
  environment name := IO.getEnv name
  print := say
  isPresent := canOpen
  content? := bytesAt
  write path text := works (IO.FS.writeFile path text)
  makeFolder path := works (IO.FS.createDirAll path)
  localTime := clock
  send _ := return none

/-- Goes on with a session, line by line, until it ends or the input does. -/
partial def converse (input : IO.FS.Stream) (s : Session) : ExceptT CommandError IO Unit := do
  ExceptT.lift (Session.invite machine)
  let line ← ExceptT.lift input.getLine
  if line.isEmpty then ExceptT.lift (Session.hangUp machine)
  else
    match ← s.turn machine line with
    | some s => converse input s
    | none => return ()

/-- Runs a command with the lines of the standard input. -/
def perform (c : Command) : ExceptT CommandError IO Unit := do
  match ← Command.start machine c with
  | some s => converse (← ExceptT.lift IO.getStdin) s
  | none => return ()

/-- How the program is called. -/
def usage : String :=
  "usage: query [--user U] [--data FILE] [--now TIME] [--json] WORDS...\n"
    ++ "       chat [--user U] [--data FILE] [--dry-run]\n"
    ++ "       config init | config show"

end AskLedger.Terminal

open AskLedger in
/-- Runs the command that the command line asks for. -/
def main (arguments : List String) : IO UInt32 := do
  let outcome ← match Command.ofArguments? arguments with
    | some c => do pure (Command.Outcome.of (← (Terminal.perform c).run))
    | none => do
      IO.eprintln Terminal.usage
      pure .misused
  match outcome with
  | .failed e => IO.eprintln ("Error: " ++ e.message)
  | .stopped => IO.eprintln CommandError.noOrder.message
  | .misused | .done => pure ()
  return outcome.status.toUInt32
