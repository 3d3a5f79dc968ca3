import Catalogue.Toml.Number
import Catalogue.Toml.Table

/-!
# Values of a settings file

`Catalogue.Toml.value?` scans a value: a string, a number, a date, a truth value, a list, which may
run over several lines, or a table on one line.
-/

namespace Catalogue

namespace Toml

open Settings (Tree)

/-- How many names a path may have, and how deep lists and tables may lie in one another. -/
def limit : Nat := 79

/-- The items of a list behind its opening bracket; there may be a comma behind the last. -/
def items? (value : Scanner Tree) : Nat → List Tree → Scanner (List Tree)
  | 0, _, _ => none
  | fuel + 1, out, cs =>
    match skipLines cs.length cs with
    | ']' :: rest => some (out.reverse, rest)
    | cs =>
      match value cs with
      | none => none
      | some (t, rest) =>
        match skipLines rest.length rest with
        | ',' :: rest => items? value fuel (t :: out) rest
        | ']' :: rest => some ((t :: out).reverse, rest)
        | _ => none

/-- A path, an equals sign and a value, with spaces around each. -/
def pair? (value : Scanner Tree) (cs : List Char) : Option ((List String × Tree) × List Char) :=
  match path? limit [] cs with
  | some (path, '=' :: rest) =>
    (value (skipSpace rest)).map fun (t, rest) => ((path, t), skipSpace rest)
  | _ => none

/-- The members of a table on one line, of which there is at least one. -/
def pairs? (value : Scanner Tree) : Nat → Entries → Scanner Entries
  | 0, _, _ => none
  | fuel + 1, out, cs =>
    match pair? value cs with
    | none => none
    | some ((path, t), rest) =>
      match assignPath t path out, rest with
      | some out, ',' :: rest => pairs? value fuel out rest
      | some out, '\x7d' :: rest => some (out, rest)
      | _, _ => none

/-- A **value**; `room` says how deep it may be. -/
def value? : Nat → Scanner Tree
  | _, [] => none
  | room, c :: rest =>
    if c = '"' ∨ c = apostrophe then (string? (c :: rest)).map fun (s, rest) => (.text s, rest)
    else if c = '[' then
      match room with
      | 0 => none
      | room + 1 =>
        (items? (value? room) (rest.length + 1) [] rest).map fun (ts, rest) => (.list ts, rest)
    else if c = '\x7b' then
      match room with
      | 0 => none
      | room + 1 =>
        match skipSpace rest with
        | '\x7d' :: rest => some (.table [], rest)
        | rest =>
          (pairs? (value? room) (rest.length + 1) [] rest).map fun (entries, rest) =>
            (.table (trees entries), rest)
    else
      match Text.past? ['t', 'r', 'u', 'e'] (c :: rest) with
      | some rest => some (.boolean true, rest)
      | none =>
        match Text.past? ['f', 'a', 'l', 's', 'e'] (c :: rest) with
        | some rest => some (.boolean false, rest)
        | none => (date? (c :: rest)).or (number? (c :: rest))

end Toml

end Catalogue
