import MergeTrain.Toml.Basic

/-!
# Tables under construction

A document names its tables in several ways, and each way allows other additions: a table opened by
a header is complete, one that a header only passed through may still get a header of its own, and
one made by dotted keys may get more dotted keys. Values are complete from the start.

## Main definitions

* `Origin`, `Node` — a table or value under construction.
* `editAt` — change the table at the end of a path, making the tables on the way.
* `assign`, `openTable`, `openItem` — the three changes that statements make.
* `Node.toToml` — the finished value.
-/

namespace MergeTrain.Toml

/-- How a table came to be. -/
inductive Origin where
  /-- It has a header. -/
  | header
  /-- Headers of other tables pass through it. -/
  | passed
  /-- Dotted keys lead through it. -/
  | dotted
  deriving DecidableEq

/-- A table or value under construction. -/
inductive Node where
  | value (v : Toml)
  | table (origin : Origin) (entries : List (String × Node))
  /-- A list of tables under one header. All but the last are complete. -/
  | tables (earlier : List (List (String × Node))) (last : List (String × Node))

/-- The entries of a table under construction. -/
abbrev Entries := List (String × Node)

/-- Replace the node of a key that is there. -/
def replace (key : String) (node : Node) (entries : Entries) : Entries :=
  entries.map fun e => if e.1 = key then (key, node) else e

/-- Change the table at the end of a path. Tables on the way that are missing are made; `dotted`
says whether dotted keys lead to them, or a header. Dotted keys do not lead into a table that has a
header, and nothing leads into a value. -/
def editAt (dotted : Bool) (change : Origin → Entries → Option Entries) :
    List String → Origin → Entries → Option Entries
  | [], origin, entries => change origin entries
  | key :: path, _, entries =>
    match entries.lookup key with
    | none => do
      let origin : Origin := if dotted then .dotted else .passed
      let inner ← editAt dotted change path origin []
      return entries ++ [(key, .table origin inner)]
    | some (.value _) => none
    | some (.table origin inner) =>
      if dotted && origin == .header then none
      else do
        let inner ← editAt dotted change path origin inner
        return replace key (.table origin inner) entries
    | some (.tables earlier last) => do
      let last ← editAt dotted change path .header last
      return replace key (.tables earlier last) entries

/-- Give a new key a value. The table must be one of dotted keys exactly if such keys led to it. -/
def assign (dotted : Bool) (key : String) (v : Toml) (origin : Origin) (entries : Entries) :
    Option Entries :=
  if dotted != (origin == .dotted) then none
  else if (entries.lookup key).isSome then none
  else some (entries ++ [(key, .value v)])

/-- Give a table its header. -/
def openTable (key : String) (_ : Origin) (entries : Entries) : Option Entries :=
  match entries.lookup key with
  | none => some (entries ++ [(key, .table .header [])])
  | some (.table .passed inner) => some (replace key (.table .header inner) entries)
  | some _ => none

/-- Begin another table of a list of tables. -/
def openItem (key : String) (_ : Origin) (entries : Entries) : Option Entries :=
  match entries.lookup key with
  | none => some (entries ++ [(key, .tables [] [])])
  | some (.tables earlier last) => some (replace key (.tables (earlier ++ [last]) []) entries)
  | some _ => none

/-- Give the key at the end of a dotted path a value. -/
def assignAt (path : List String) (key : String) (v : Toml) (origin : Origin) (entries : Entries) :
    Option Entries :=
  editAt true (assign (!path.isEmpty) key v) path origin entries

mutual

/-- The finished value. -/
def Node.toToml : Node → Toml
  | .value v => v
  | .table _ entries => .table (finished entries)
  | .tables earlier last => .array (finishedTables earlier ++ [.table (finished last)])

/-- The finished entries of a table. -/
def finished : List (String × Node) → List (String × Toml)
  | [] => []
  | (key, node) :: rest => (key, node.toToml) :: finished rest

/-- The finished tables of a list. -/
def finishedTables : List (List (String × Node)) → List Toml
  | [] => []
  | entries :: rest => .table (finished entries) :: finishedTables rest

end

end MergeTrain.Toml
