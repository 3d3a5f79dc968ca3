import Catalogue.Settings.Tree

/-!
# The tables of a settings file

A settings file names what it sets by paths, and the same table may be met on several of them. What
is allowed then depends on where the table comes from, its `Catalogue.Toml.Origin`: a header opens a
table once, a dotted name adds only to tables that dotted names made, and a table on the way to
another can still be opened. `Catalogue.Toml.assign` sets a value under a dotted name and
`Catalogue.Toml.within` acts on the table at the end of a header.
-/

namespace Catalogue

namespace Toml

open Settings (Tree)

/-- Where a table **comes from**. -/
inductive Origin where
  /-- It has a header of its own. -/
  | header
  /-- It stands on the way to a table with a header. -/
  | passed
  /-- It stands on the way to a value with a dotted name. -/
  | dotted

/-- What a name of a settings file **stands for**. -/
inductive Entry where
  /-- A value. -/
  | value (t : Tree)
  /-- A table. -/
  | table (origin : Origin) (members : List (String × Entry))
  /-- The tables of a header that may be repeated, the newest one apart. -/
  | tables (newest : List (String × Entry)) (older : List (List (String × Entry)))

/-- The named entries of a table, in the order of their names. -/
abbrev Entries := List (String × Entry)

/-! ### Values -/

/-- **Set a value** under the names of a path and a last one. Along the path, tables are made where
there are none; a table with a header of its own and a value are in the way. The table of the last
name has to be made by dotted names as well, unless there is no path: `fit` says whether it is. No
name is set twice. -/
def assign (name : String) (t : Tree) : Bool → List String → Entries → Option Entries
  | fit, [], entries =>
    if fit && (entries.lookup name).isNone then some (Tree.insert name (.value t) entries) else none
  | _, key :: path, entries =>
    match entries.lookup key with
    | none => (assign name t true path []).map fun inner =>
        Tree.insert key (.table .dotted inner) entries
    | some (.table .dotted inner) => (assign name t true path inner).map fun inner =>
        Tree.insert key (.table .dotted inner) entries
    | some (.table .passed inner) => (assign name t false path inner).map fun inner =>
        Tree.insert key (.table .passed inner) entries
    | some (.tables newest older) => (assign name t false path newest).map fun newest =>
        Tree.insert key (.tables newest older) entries
    | some (.table .header _) => none
    | some (.value _) => none

/-- Set a value under a path, whose last name stands apart from the others. -/
def assignPath (t : Tree) (path : List String) (entries : Entries) : Option Entries :=
  match path.getLast? with
  | none => none
  | some name => assign name t true path.dropLast entries

/-! ### Headers -/

/-- **Act on the table** at the end of a path. Tables are made where there are none, of repeated
ones the newest is meant, and a value is in the way. -/
def within (act : Entries → Option Entries) : List String → Entries → Option Entries
  | [], entries => act entries
  | key :: path, entries =>
    match entries.lookup key with
    | none => (within act path []).map fun inner =>
        Tree.insert key (.table .passed inner) entries
    | some (.table origin inner) => (within act path inner).map fun inner =>
        Tree.insert key (.table origin inner) entries
    | some (.tables newest older) => (within act path newest).map fun newest =>
        Tree.insert key (.tables newest older) entries
    | some (.value _) => none

/-- Open the table of a name by its header, which it has not had before. -/
def openTable (name : String) (entries : Entries) : Option Entries :=
  match entries.lookup name with
  | none => some (Tree.insert name (.table .header []) entries)
  | some (.table .passed inner) => some (Tree.insert name (.table .header inner) entries)
  | some _ => none

/-- Open one more table of a name by its header, all of whose tables were opened so. -/
def openAnother (name : String) (entries : Entries) : Option Entries :=
  match entries.lookup name with
  | none => some (Tree.insert name (.tables [] []) entries)
  | some (.tables newest older) => some (Tree.insert name (.tables [] (newest :: older)) entries)
  | some _ => none

/-! ### What the tables say -/

mutual

/-- The tree that an entry says. -/
def Entry.tree : Entry → Tree
  | .value t => t
  | .table _ entries => .table (trees entries)
  | .tables newest older => .list ((.table (trees newest) :: tables older).reverse)

/-- The trees of a table. -/
def trees : List (String × Entry) → List (String × Tree)
  | [] => []
  | (name, e) :: rest => (name, e.tree) :: trees rest

/-- The trees of repeated tables. -/
def tables : List (List (String × Entry)) → List Tree
  | [] => []
  | entries :: rest => .table (trees entries) :: tables rest

end

end Toml

end Catalogue
