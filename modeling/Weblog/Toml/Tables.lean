import Weblog.Entries
import Weblog.Toml.Value
/-!
# Building tables

A TOML document names its tables bit by bit: a header opens a table, possibly far below the ones
that are known, and a key with dots leads through tables that nobody has opened. What has been named
in one of these ways cannot be named in another one, so a table under construction remembers how it
has come about.

* `Origin`, `Node`: tables under construction.
* `changeAt`: the table that a path leads to, changed.
* `assign`: one more value.
* `openTable`, `openItem`: a header of a table, and of one more table in an array of tables.
* `Node.toToml`: **the finished value**.
-/

namespace Weblog.Toml

inductive Origin
  /-- It has a header of its own, or stands in an array of tables. -/
  | header
  /-- The header of a table below it. -/
  | implied
  /-- A key with dots. -/
  | dotted
  deriving DecidableEq

/-- A part of a document under construction. An array of tables has its last table apart, which is
the one that paths lead into. -/
inductive Node
  | value (v : Toml)
  | table (origin : Origin) (entries : List (String × Node))
  | sequence (before : List (List (String × Node))) (last : List (String × Node))

/-- The entries of a table that is being read. -/
abbrev Entries := List (String × Node)

/-- A name with the names of the tables that lead to it. -/
structure Key where
  path : List String
  name : String
  deriving DecidableEq

def Key.names (k : Key) : List String :=
  k.path ++ [k.name]

def knows (entries : Entries) (name : String) : Bool :=
  (entries.lookup name).isSome

/-! ## Paths -/

/-- Changes the table that a path leads to. Missing tables of the path are made, by a key with dots
or else by a header; a key with dots does not lead into tables that have headers. -/
def changeAt (dotted : Bool) (change : Origin → Entries → Option Entries) :
    List String → Origin → Entries → Option Entries
  | [], origin, entries => change origin entries
  | name :: path, _, entries =>
    match entries.lookup name with
    | none => do
      let origin := if dotted then Origin.dotted else .implied
      let below ← changeAt dotted change path origin []
      return setEntry name (.table origin below) entries
    | some (.value _) => none
    | some (.table origin below) =>
      if dotted && origin == .header then none
      else do
        let below ← changeAt dotted change path origin below
        return setEntry name (.table origin below) entries
    | some (.sequence before last) => do
      let last ← changeAt dotted change path .header last
      return setEntry name (.sequence before last) entries

/-- Gives a new name in a table its value. A key with dots does so only in tables made by such
keys. -/
def assign (key : Key) (value : Toml) (origin : Origin) (entries : Entries) : Option Entries :=
  changeAt true
    (fun origin entries =>
      if key.path ≠ [] ∧ origin ≠ .dotted then none
      else if knows entries key.name then none
      else some (setEntry key.name (.value value) entries))
    key.path origin entries

/-! ## Headers -/

/-- Opens a table, one that no key or header has named, or one above a table with a header. -/
def openTable (key : Key) (root : Entries) : Option Entries :=
  changeAt false
    (fun _ entries =>
      match entries.lookup key.name with
      | none => some (setEntry key.name (.table .header []) entries)
      | some (.table .implied below) => some (setEntry key.name (.table .header below) entries)
      | some _ => none)
    key.path .header root

/-- Opens one more table in an array of tables. -/
def openItem (key : Key) (root : Entries) : Option Entries :=
  changeAt false
    (fun _ entries =>
      match entries.lookup key.name with
      | none => some (setEntry key.name (.sequence [] []) entries)
      | some (.sequence before last) =>
        some (setEntry key.name (.sequence (before ++ [last]) []) entries)
      | some _ => none)
    key.path .header root

/-- Gives a name in the table with the given header its value. -/
def assignIn (header : List String) (key : Key) (value : Toml) (root : Entries) :
    Option Entries :=
  changeAt false (assign key value) header .header root

/-! ## Finished values -/

mutual

/-- The value of a node. -/
def Node.toToml : Node → Toml
  | .value v => v
  | .table _ entries => .table (finishEntries entries)
  | .sequence before last => .array (finishTables before ++ [.table (finishEntries last)])

def finishEntries : List (String × Node) → List (String × Toml)
  | [] => []
  | (name, node) :: entries => (name, node.toToml) :: finishEntries entries

def finishTables : List (List (String × Node)) → List Toml
  | [] => []
  | entries :: tables => .table (finishEntries entries) :: finishTables tables

end

/-- The table with the given keys and values, in the notation on one line. -/
def ofAssignments (assignments : List (Key × Toml)) : Option Toml := do
  let entries ← assignments.foldlM
    (fun entries (key, value) => assign key value .header entries) []
  return .table (finishEntries entries)

end Weblog.Toml
