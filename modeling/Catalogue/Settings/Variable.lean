import Catalogue.Decimal.Numeral
import Catalogue.Settings.Tree
import Catalogue.Text.Blank
import Catalogue.Toml.Scanner
import Catalogue.Word

/-!
# Settings in the environment

A variable whose name begins with `BOOKS_` sets what the rest of its name is the path of, and its
value is a tree in a notation of its own (`Catalogue.Settings.Variable.tree`): truth values, numbers
and quoted texts as usual, lists in brackets and tables in braces. A word without quotes is a text
without the space around it, and a value that is not in this notation is a text as it stands.
-/

namespace Catalogue

namespace Settings

namespace Variable

/-! ### Names -/

/-- What the names of variables for the service **begin with**. -/
def lead : String := "BOOKS_"

/-- Points in place of two underscores. -/
def pointed : List Char → List Char
  | [] => []
  | [c] => [c]
  | c :: d :: rest =>
    if c = '_' ∧ d = '_' then '.' :: pointed rest else c :: pointed (d :: rest)

/-- The **path** that a variable sets. Letter case does not matter, and no name on it is empty. -/
def path? (name : String) : Option (List String) :=
  let lower (cs : List Char) : List Char := cs.map Char.toLower
  match Text.past? (lower lead.toList) (lower (Text.trimBlank name.toList)) with
  | none => none
  | some rest =>
    let parts := Text.split '.' (pointed rest)
    if parts.any List.isEmpty then none else some (parts.map String.ofList)

/-! ### Values -/

open Toml (Scanner)

/-- A character that may stand **around values and names**: ASCII space, tab, line feed, form feed
and carriage return. -/
def isSpace (c : Char) : Bool :=
  c = ' ' || c = '\t' || c = '\n' || c = '\x0c' || c = '\r'

/-- Pass over what may stand around values and names. -/
def skipSpace (cs : List Char) : List Char := cs.dropWhile isSpace

/-- The rest of a quoted text. It holds no control characters but tabs. -/
def quoted? : Nat → List Char → Scanner String
  | 0, _, _ => none
  | _, _, [] => none
  | fuel + 1, out, c :: rest =>
    if c = '"' then some (String.ofList out.reverse, rest)
    else if c = '\\' then
      match Toml.escape? rest with
      | none => none
      | some (d, rest) => quoted? fuel (d :: out) rest
    else if Toml.isPrintable c then quoted? fuel (c :: out) rest
    else none

/-- A character between apostrophes, behind the first of them. -/
def single? : Scanner String
  | c :: d :: rest => if d = Toml.apostrophe then some (String.singleton c, rest) else none
  | _ => none

/-- Things with commas between them, and perhaps one behind the last, up to a closing bracket. -/
def series? {α : Type} (item : Scanner α) (close : Char) : Nat → List α → Scanner (List α)
  | 0, _, _ => none
  | fuel + 1, out, cs =>
    match Text.past? [close] cs with
    | some rest => some (out.reverse, rest)
    | none =>
      match item cs with
      | some (a, c :: rest) =>
        if c = ',' then series? item close fuel (a :: out) rest
        else if c = close then some ((a :: out).reverse, rest)
        else none
      | _ => none

/-- A name of a table, an equals sign and a value. -/
def pair? (value : Scanner Tree) (cs : List Char) : Option ((String × Tree) × List Char) :=
  let name? : Option (String × List Char) :=
    match skipSpace cs with
    | '"' :: rest => quoted? (rest.length + 1) [] rest
    | cs => Toml.bareName? cs
  match name? with
  | none => none
  | some (name, rest) =>
    match skipSpace rest with
    | '=' :: rest => (value rest).map fun (t, rest) => ((name, t), rest)
    | _ => none

/-- A character that ends a word. -/
def isSeparator (c : Char) : Bool :=
  c = ',' || c = '\x7b' || c = '\x7d' || c = '[' || c = ']'

/-- A word without quotes: a number, if it reads as one, or a text. -/
def word (cs : List Char) : Tree :=
  let s := String.ofList cs
  match if '.' ∈ cs then Numeral.real? s else none with
  | some x => .real x
  | none =>
    match (Numeral.nat? s).filter (· < UInt64.size) with
    | some n => .unsigned n
    | none =>
      match (Numeral.int? s).filter (Word.IsSigned ·) with
      | some n => .signed n
      | none => .text s

/-- A **value** with spaces around it. -/
def value? : Nat → Scanner Tree
  | 0, _ => none
  | fuel + 1, cs =>
    let spaced (t : Tree) (rest : List Char) : Tree × List Char := (t, skipSpace rest)
    let cs := skipSpace cs
    match Text.past? ['t', 'r', 'u', 'e'] cs, Text.past? ['f', 'a', 'l', 's', 'e'] cs, cs with
    | some rest, _, _ => some (spaced (.boolean true) rest)
    | none, some rest, _ => some (spaced (.boolean false) rest)
    | none, none, c :: rest =>
      if c = '\x7b' then
        (series? (pair? (value? fuel)) '\x7d' (rest.length + 1) [] rest).map fun (members, rest) =>
          spaced (.table (Tree.ofPairs members)) rest
      else if c = '[' then
        (series? (value? fuel) ']' (rest.length + 1) [] rest).map fun (items, rest) =>
          spaced (.list items) rest
      else if c = '"' then
        (quoted? (rest.length + 1) [] rest).map fun (s, rest) => spaced (.text s) rest
      else if c = Toml.apostrophe then
        (single? rest).map fun (s, rest) => spaced (.text s) rest
      else
        some (spaced (word (Text.trimBlank (cs.takeWhile fun c => !isSeparator c)))
          (cs.dropWhile fun c => !isSeparator c))
    | none, none, [] => some (.text "", [])

/-- The **tree** that a variable has as its value. -/
def tree (value : String) : Tree :=
  match value? (value.length + 1) value.toList with
  | some (t, []) => t
  | _ => .text value

end Variable

/-- What **the environment** says: the trees of its variables, each laid over those of the variables
before it. -/
def ofEnvironment (environment : List (String × String)) : Tree :=
  environment.foldl
    (fun t (name, value) =>
      match Variable.path? name with
      | none => t
      | some path => Tree.merge t (Tree.atPath (Variable.tree value) path))
    (.table [])

end Settings

end Catalogue
