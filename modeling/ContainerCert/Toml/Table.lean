import ContainerCert.Data.Tree

/-!
# Tables

Keys and headers of a TOML document put together the tree of its tables. A header defines a
table, and defines it once; the tables on the way to it come into being by it and may still be
defined later. The tables on the way of a key with points belong to the place where the key
stands and cannot be defined by a header. A header in double brackets adds a table to a list. A
table that comes to be defined after those below it moves to the end of its place.
-/

namespace ContainerCert.Toml

open Data (Tree)

/-- How a table came into being. -/
inductive Origin where
  /-- By a header of its own. -/
  | header
  /-- On the way to another table. -/
  | path
  /-- On the way of a key with points. -/
  | key
  deriving DecidableEq, Repr

/-- What stands at a key: a value, which nothing can be added to, a table, or a list of tables. -/
inductive Node where
  | value (tree : Tree)
  | table (origin : Origin) (entries : List (String × Node))
  | list (tables : List (List (String × Node)))

/-- What stands in a table, in the order in which the keys came up. -/
abbrev Entries := List (String × Node)

namespace Node

mutual

/-- The tree for a node. -/
def tree : Node → Tree
  | .value tree => tree
  | .table _ entries => .map (entryTrees entries) none
  | .list tables => .sequence (tableTrees tables)

/-- The trees for the entries of a table. -/
def entryTrees : List (String × Node) → List (String × Tree)
  | [] => []
  | (key, node) :: entries => (key, tree node) :: entryTrees entries

/-- The trees for the tables of a list. -/
def tableTrees : List (List (String × Node)) → List Tree
  | [] => []
  | entries :: tables => .map (entryTrees entries) none :: tableTrees tables

end

end Node

namespace Entries

/-- What stands at a key. -/
def get? (entries : Entries) (key : String) : Option Node :=
  (entries.find? (·.1 == key)).map (·.2)

/-- The entries with something else at a key; a new key comes last. -/
def put (entries : Entries) (key : String) (node : Node) : Entries :=
  if entries.any (·.1 == key) then
    entries.map fun (other, old) => if other = key then (other, node) else (other, old)
  else entries ++ [(key, node)]

/-- The entries without a key. -/
def erase (entries : Entries) (key : String) : Entries :=
  entries.filter (·.1 != key)

/-- Change the table at the end of a path, which starts in a table of the given origin. Tables
that are missing on the way come into being; for a key with points, tables that a header defined
are closed. Of a list the way goes through the last table. -/
def change (byKey : Bool) (alter : Origin → Entries → Option Entries) :
    List String → Origin → Entries → Option Entries
  | [], origin, entries => alter origin entries
  | key :: path, _, entries =>
    match entries.get? key with
    | none => do
      let origin := if byKey then Origin.key else .path
      let inner ← change byKey alter path origin []
      return entries.put key (.table origin inner)
    | some (.value _) => none
    | some (.table origin inner) =>
      if byKey ∧ origin = .header then none
      else do
        let inner ← change byKey alter path origin inner
        return entries.put key (.table origin inner)
    | some (.list tables) => do
      let last ← tables.getLast?
      let inner ← change byKey alter path .header last
      return entries.put key (.list (tables.dropLast ++ [inner]))

/-- The table at the end of a path; of a list the way goes through the last table. -/
def follow? : List String → Entries → Option Entries
  | [], entries => some entries
  | key :: path, entries =>
    match entries.get? key with
    | some (.table _ inner) => follow? path inner
    | some (.list tables) => tables.getLast?.bind (follow? path)
    | _ => none

/-- Add a value at a new key of a table. A key with points may only add to tables that such keys
made. -/
def addNew (withPoints : Bool) (key : String) (tree : Tree) (origin : Origin) (entries : Entries) :
    Option Entries :=
  if decide (origin = .key) != withPoints then none
  else if (entries.get? key).isSome then none
  else some (entries ++ [(key, .value tree)])

/-- Add a value by its key to a table that is no part of a key's way. -/
def addValue (entries : Entries) (path : List String) (key : String) (tree : Tree) :
    Option Entries :=
  change true (addNew (!path.isEmpty) key tree) path .header entries

/-- The table that pairs of keys and values make. -/
def ofPairs : List ((List String × String) × Tree) → Entries → Option Entries
  | [], entries => some entries
  | ((path, key), tree) :: pairs, entries => do
    let entries ← entries.addValue path key tree
    ofPairs pairs entries

end Entries

/-- The header that is in force. -/
structure Header where
  path : List String
  key : String
  /-- Whether it adds a table to a list. -/
  listed : Bool
  deriving DecidableEq, Repr

/-- The tables put together so far: those that are finished, and the one that keys are now added
to, which belongs to a header or is the root itself. -/
structure Tables where
  root : Entries
  current : Entries
  header : Option Header

namespace Tables

/-- No tables but an empty root. -/
def empty : Tables := ⟨[], [], none⟩

/-- Put the present table to its place. -/
def finish (tables : Tables) : Option Entries :=
  match tables.header with
  | none => some tables.current
  | some header =>
    Entries.change false (fun _ entries =>
      if header.listed then
        match entries.get? header.key with
        | none => some (entries.put header.key (.list [tables.current]))
        | some (.list others) => some (entries.put header.key (.list (others ++ [tables.current])))
        | _ => none
      else
        match entries.get? header.key with
        | none => some (entries.put header.key (.table .header tables.current))
        | _ => none) header.path .header tables.root

/-- Start a list's next table. -/
def startListed (root : Entries) (header : Header) : Option Tables := do
  let root ← Entries.change false (fun _ entries =>
    match entries.get? header.key with
    | none => some (entries.put header.key (.list []))
    | some (.list _) => some entries
    | _ => none) header.path .header root
  return ⟨root, [], some header⟩

/-- Start a table of its own. One that came into being on the way to others is taken out of its
place, with all it holds. -/
def startSingle (root : Entries) (header : Header) : Option Tables := do
  let root ← Entries.change false (fun _ entries => some entries) header.path .header root
  let place ← Entries.follow? header.path root
  match place.get? header.key with
  | none => return ⟨root, [], some header⟩
  | some (.table .path inner) => do
    let root ← Entries.change false (fun _ entries => some (entries.erase header.key))
      header.path .header root
    return ⟨root, inner, some header⟩
  | _ => none

/-- Put the present table to its place and start the table of a header. -/
def start (tables : Tables) (header : Header) : Option Tables := do
  let root ← tables.finish
  if header.listed then startListed root header else startSingle root header

/-- Add a value to the present table. -/
def add (tables : Tables) (path : List String) (key : String) (tree : Tree) : Option Tables := do
  let current ← tables.current.addValue path key tree
  return { tables with current }

end Tables
end ContainerCert.Toml
