import Catalogue.Decimal.Layout
import Catalogue.Json.Printer

/-!
# Trees of settings

What a file or the environment says is a `Catalogue.Settings.Tree`: single values, lists, and tables
of named trees. `Catalogue.Settings.Tree.merge` lays one tree over another. Tables are laid over one
another name by name; anything else hides what is below it.
-/

namespace Catalogue

namespace Settings

/-- A **tree of settings**. -/
inductive Tree where
  /-- A text. -/
  | text (s : String)
  /-- A truth value. -/
  | boolean (b : Bool)
  /-- A whole number that was written where it may be negative. -/
  | signed (n : Int)
  /-- A whole number that cannot be negative. -/
  | unsigned (n : Nat)
  /-- A floating-point number. -/
  | real (x : Float)
  /-- A list. -/
  | list (items : List Tree)
  /-- A table of named trees, in the order of their names. -/
  | table (members : List (String × Tree))

namespace Tree

/-! ### Tables -/

/-- Put a member in its place in the order of the names; one of the same name is replaced. -/
def insert {α : Type} (name : String) (t : α) : List (String × α) → List (String × α)
  | [] => [(name, t)]
  | (k, u) :: rest =>
    if name < k then (name, t) :: (k, u) :: rest
    else if name = k then (name, t) :: rest
    else (k, u) :: insert name t rest

/-- The first member of a name is what the name stands for. -/
theorem lookup_member {α : Type} (key name : String) (t : α) (members : List (String × α)) :
    ((name, t) :: members).lookup key = if key = name then some t else members.lookup key := by
  by_cases h : key = name
  · simp [h]
  · rw [List.lookup_cons, beq_false_of_ne h, if_neg h]

/-- Putting in a member changes what one name stands for, and nothing else. -/
theorem lookup_insert {α : Type} (key name : String) (t : α) (members : List (String × α)) :
    (insert name t members).lookup key = if key = name then some t else members.lookup key := by
  induction members with
  | nil => simp [insert, lookup_member]
  | cons m rest ih => grind [insert, lookup_member]

/-- Members in the order of their names; the last of several with one name counts. -/
def ofPairs {α : Type} (pairs : List (String × α)) : List (String × α) :=
  pairs.foldl (fun members (name, t) => insert name t members) []

/-- The table with a single tree at the end of a path. -/
def atPath (t : Tree) : List String → Tree
  | [] => t
  | name :: path => .table [(name, atPath t path)]

/-! ### Laying trees over one another -/

mutual

/-- A tree **laid over** another. -/
def merge (below : Tree) : Tree → Tree
  | .table members =>
    match below with
    | .table old => .table (mergeMembers old members)
    | _ => .table members
  | t => t

/-- The members of a table laid over those of another. -/
def mergeMembers (below : List (String × Tree)) : List (String × Tree) → List (String × Tree)
  | [] => below
  | (name, t) :: rest =>
    mergeMembers
      (insert name (match below.lookup name with
        | some u => merge u t
        | none => t) below)
      rest

end

/-! ### What a tree is -/

/-- What a tree is, in a message. -/
def describe : Tree → String
  | .text s => "string " ++ Text.quote s
  | .boolean b => "bool " ++ (if b then "true" else "false")
  | .signed n => "signed int `" ++ String.ofList (Json.integerChars n) ++ "`"
  | .unsigned n => "unsigned int `" ++ String.ofList (Json.integerChars n) ++ "`"
  | .real x => "float `" ++ Decimal.plain x ++ "`"
  | .list _ => "sequence"
  | .table _ => "map"

end Tree

end Settings

end Catalogue
