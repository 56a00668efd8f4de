import AskLedger.Text.Find

/-!
# Arguments of the command line

Arguments that start with a hyphen are switches or options, all others are words. A switch stands
alone, an option has a value behind an equals sign or in the next argument. Each of them is given
once at most. Behind two hyphens all arguments are words.
-/

namespace AskLedger

/-- What one argument is by its form. -/
inductive Argument where
  /-- A word. -/
  | word (s : String)
  /-- A switch or an option, with the value behind its equals sign. -/
  | named (name : String) (value? : Option String)
  /-- Two hyphens, behind which only words follow. -/
  | separator
  deriving DecidableEq, Repr

/-- Takes an argument by its form. A single hyphen is a word. -/
def Argument.of (s : String) : Argument :=
  match s.toList with
  | ['-', '-'] => .separator
  | ['-', 'v'] => .named "verbose" none
  | '-' :: '-' :: rest =>
    .named (String.ofList (rest.takeWhile (· != '='))) <|
      match rest.dropWhile (· != '=') with
      | _ :: value => some (String.ofList value)
      | [] => none
  | '-' :: _ :: _ => .named s none
  | _ => .word s

/-- What may be given on a command line. -/
structure Accepted where
  /-- The names of the switches. -/
  switches : List String
  /-- The names of the options. -/
  options : List String
  /-- Whether words may be given. -/
  takesWords : Bool

/-- What is given on a command line. -/
structure Arguments where
  /-- The switches. -/
  switches : List String := []
  /-- The options with their values. -/
  options : List (String × String) := []
  /-- The words, in order. -/
  words : List String := []
  deriving DecidableEq, Repr

namespace Arguments

/-- Adds a switch that has not been given yet. -/
def addSwitch? (a : Arguments) (name : String) : Option Arguments :=
  if a.switches.contains name then none else some { a with switches := name :: a.switches }

/-- Adds an option that has not been given yet. -/
def addOption? (a : Arguments) (name value : String) : Option Arguments :=
  match a.options.lookup name with
  | some _ => none
  | none => some { a with options := (name, value) :: a.options }

/-- Adds words behind the others. -/
def addWords (a : Arguments) (words : List String) : Arguments :=
  { a with words := a.words ++ words }

/-- Whether an argument can be the value of the option in front of it. -/
def isValue (s : String) : Bool :=
  match Argument.of s with
  | .word _ => true
  | _ => false

/-- Reads arguments behind others that have been read. -/
def readAfter? (accepted : Accepted) (a : Arguments) : List String → Option Arguments
  | [] => some a
  | s :: rest =>
    match Argument.of s with
    | .separator =>
      if accepted.takesWords || rest.isEmpty then some (a.addWords rest) else none
    | .word w => if accepted.takesWords then readAfter? accepted (a.addWords [w]) rest else none
    | .named name (some value) =>
      if accepted.options.contains name then
        match a.addOption? name value with
        | some a => readAfter? accepted a rest
        | none => none
      else none
    | .named name none =>
      if accepted.switches.contains name then
        match a.addSwitch? name with
        | some a => readAfter? accepted a rest
        | none => none
      else if accepted.options.contains name then
        match rest with
        | value :: rest =>
          -- the next argument is the value only if it is a word
          if isValue value then
            match a.addOption? name value with
            | some a => readAfter? accepted a rest
            | none => none
          else none
        | [] => none
      else none

/-- Reads arguments. -/
def read? (accepted : Accepted) (arguments : List String) : Option Arguments :=
  readAfter? accepted {} arguments

/-- The first word, which names a command, and the arguments behind it; only switches may stand in
front of it, `given` being those that have been read. -/
def splitCommand? (switches given : List String) : List String → Option (String × List String)
  | [] => none
  | s :: rest =>
    match Argument.of s with
    | .word w => some (w, rest)
    | .named name none =>
      if switches.contains name && !given.contains name then
        splitCommand? switches (name :: given) rest
      else none
    | _ => none

end Arguments

end AskLedger
