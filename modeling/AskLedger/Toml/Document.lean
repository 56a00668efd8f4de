import AskLedger.Toml.Value

/-!
# Building TOML documents

A document is built up from headers and from values under dotted keys. While it is built, every
table knows how it came to be, since that decides what may still be added to it: a table stated by a
header is stated once, values under dotted keys go only into tables that dotted keys have made, and
a table passed on the way to another header may still be stated.

* `Toml.lookup?_add?`: a value that is added is found under its name.
-/

namespace AskLedger.Toml

/-- How a table came to be. -/
inductive Origin where
  /-- By a header of its own; also the document itself and an item of a list of tables. -/
  | stated
  /-- As one on the way to a table with a header. -/
  | passed
  /-- As one on the way of a dotted key. -/
  | dotted
  deriving DecidableEq, Repr

/-- A part of a document that is being built. -/
inductive Node where
  /-- A value, which is finished. -/
  | value (v : Toml)
  /-- A table. -/
  | table (origin : Origin) (members : List (String × Node))
  /-- A list of tables: the finished ones, last first, and the members of the one being built. -/
  | tables (finished : List Toml) (members : List (String × Node))

/-- The members of a table that is being built. -/
abbrev Members := List (String × Node)

mutual

/-- A part of a document, finished. -/
def Node.finish : Node → Toml
  | .value v => v
  | .table _ members => .table (finishMembers members)
  | .tables finished members => .array (finished.reverse ++ [.table (finishMembers members)])

/-- The members of a table, finished. -/
def finishMembers : List (String × Node) → List (String × Toml)
  | [] => []
  | (name, n) :: rest => (name, n.finish) :: finishMembers rest

end

namespace Members

/-- The member with a name. -/
def lookup? (members : Members) (name : String) : Option Node :=
  (members.find? fun m => m.1 == name).map (·.2)

/-- Puts another part in the place of the member with a name. -/
def replace (members : Members) (name : String) (n : Node) : Members :=
  members.map fun m => if m.1 == name then (name, n) else m

/-- Changes the table at the end of a path. Tables on the path are made where there are none; of a
list of tables the last one is taken. If the path is part of a dotted key, it leads through no table
that a header has stated. -/
def within (inKey : Bool) (change : Origin → Members → Option Members) :
    List String → Origin → Members → Option Members
  | [], origin, members => change origin members
  | name :: path, _, members =>
    match members.lookup? name with
    | none =>
      -- nothing has this name yet: the rest of the path is made anew
      let origin := if inKey then .dotted else .passed
      (within inKey change path origin []).map fun inner => members ++ [(name, .table origin inner)]
    | some (.value _) => none
    | some (.tables finished last) =>
      (within inKey change path .stated last).map fun last =>
        members.replace name (.tables finished last)
    | some (.table origin inner) =>
      -- a dotted key may not reach into a table that has its own header
      if inKey && origin == .stated then none
      else
        (within inKey change path origin inner).map fun inner =>
          members.replace name (.table origin inner)

/-- Adds a value under a name that is not taken. -/
def add? (name : String) (v : Toml) (members : Members) : Option Members :=
  match members.lookup? name with
  | none => some (members ++ [(name, .value v)])
  | some _ => none

/-- Adds a value under a dotted key, given as a path and a name. A path has to end in a table that
dotted keys have made. -/
def put? (path : List String) (name : String) (v : Toml) (members : Members) : Option Members :=
  within true (fun origin inner =>
    -- without a path the value goes where it stands, whatever kind of table that is
    if path.isEmpty || origin == .dotted then inner.add? name v else none) path .stated members

/-- States the table with a name: there is none yet, or one that was only passed. -/
def stateTable? (name : String) (members : Members) : Option Members :=
  match members.lookup? name with
  | none => some (members ++ [(name, .table .stated [])])
  | some (.table .passed inner) => some (members.replace name (.table .stated inner))
  | some _ => none

/-- Starts another table in the list of tables with a name. -/
def startItem? (name : String) (members : Members) : Option Members :=
  match members.lookup? name with
  | none => some (members ++ [(name, .tables [] [])])
  | some (.tables finished last) =>
    some (members.replace name (.tables (.table (finishMembers last) :: finished) []))
  | some _ => none

end Members

/-- A document that is being built: its members, and the path to the table that values go into. -/
structure Document where
  /-- The members of the document. -/
  members : Members := []
  /-- The path to the table of the last header. -/
  current : List String := []

namespace Document

/-- Adds a value to the table of the last header. -/
def put? (d : Document) (path : List String) (name : String) (v : Toml) : Option Document :=
  (Members.within false (fun _ inner => inner.put? path name v) d.current .stated d.members).map
    fun members => { d with members }

/-- Goes on with the table of a header. -/
def startTable? (d : Document) (path : List String) (name : String) : Option Document :=
  (Members.within false (fun _ inner => inner.stateTable? name) path .stated d.members).map
    fun members => ⟨members, path ++ [name]⟩

/-- Goes on with another item of a list of tables. -/
def startItem? (d : Document) (path : List String) (name : String) : Option Document :=
  (Members.within false (fun _ inner => inner.startItem? name) path .stated d.members).map
    fun members => ⟨members, path ++ [name]⟩

/-- The document as a value. -/
def finish (d : Document) : Toml := .table (finishMembers d.members)

end Document

/-- A value that is added is found under its name. -/
theorem lookup?_add? {name : String} {v : Toml} {members more : Members}
    (h : members.add? name v = some more) : more.lookup? name = some (.value v) := by
  unfold Members.add? at h
  split at h
  · rename_i hn
    cases h
    simp only [Members.lookup?, Option.map_eq_none_iff] at hn
    simp [Members.lookup?, List.find?_append, hn]
  · cases h

end AskLedger.Toml
