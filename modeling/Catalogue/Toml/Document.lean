import Catalogue.Toml.Value

/-!
# Settings files

`Catalogue.Toml.ofText?` reads a whole settings file, line by line: headers open tables, and below a
header values are set in its table. A file with anything wrong in it says nothing at all.
-/

namespace Catalogue

namespace Toml

open Settings (Tree)

/-- A file **in the middle of being read**. -/
structure Draft where
  /-- The path of the table that is open. -/
  current : List String
  /-- What was said so far. -/
  root : Entries

namespace Draft

/-- A header: a path in single brackets, or in double ones for one more table of the same name. -/
def header? (d : Draft) (cs : List Char) : Option (Draft × List Char) :=
  let opened (act : String → Entries → Option Entries) (path : List String) : Option Draft :=
    match path.getLast? with
    | none => none
    | some name => (within (act name) path.dropLast d.root).map (⟨path, ·⟩)
  match cs with
  | '[' :: rest =>
    match path? limit [] rest with
    | some (path, ']' :: ']' :: rest) =>
      (opened openAnother path).bind fun d => (finishLine? rest).map (d, ·)
    | _ => none
  | _ =>
    match path? limit [] cs with
    | some (path, ']' :: rest) =>
      (opened openTable path).bind fun d => (finishLine? rest).map (d, ·)
    | _ => none

/-- A line that sets a value in the table that is open. -/
def setting? (d : Draft) (cs : List Char) : Option (Draft × List Char) :=
  match pair? (value? limit) cs with
  | none => none
  | some ((path, t), rest) =>
    (within (assignPath t path) d.current d.root).bind fun root =>
      (finishLine? rest).map fun rest => (⟨d.current, root⟩, rest)

/-- The **lines** of a file. Every turn reads one. -/
def lines? : Nat → Draft → List Char → Option Draft
  | 0, _, _ => none
  | fuel + 1, d, cs =>
    match skipSpace cs with
    | [] => some d
    | '[' :: rest =>
      match d.header? rest with
      | some (d, rest) => lines? fuel d rest
      | none => none
    | c :: rest =>
      if c = '#' ∨ c = '\n' ∨ c = '\r' then
        match finishLine? (c :: rest) with
        | some rest => lines? fuel d rest
        | none => none
      else
        match d.setting? (c :: rest) with
        | some (d, rest) => lines? fuel d rest
        | none => none

end Draft

/-- The mark that may stand at the beginning of a file. -/
def mark : Char := Char.ofNat 0xFEFF

/-- The tables of a **settings file**. -/
def ofText? (s : String) : Option Tree :=
  let cs := (Text.past? [mark] s.toList).getD s.toList
  (Draft.lines? (cs.length + 1) ⟨[], []⟩ cs).map fun d => .table (trees d.root)

end Toml

end Catalogue
