import Catalogue.Settings.Tree

/-!
# Sections of settings

A section of the settings is a record of single settings, each a text, a truth value or a whole
number of bounded size (`Catalogue.Settings.Kind`). `Catalogue.Settings.Section.read` finds the
settings of a section in a tree: by name in a table, by position in a list. What is not said there
is left open, and the first setting that does not fit is reported with its place.
-/

namespace Catalogue

namespace Settings

/-- A **single setting**. -/
inductive Plain where
  /-- A text. -/
  | text (s : String)
  /-- A truth value. -/
  | boolean (b : Bool)
  /-- A whole number. -/
  | number (n : Nat)
  deriving DecidableEq

namespace Plain

/-- A single setting as a tree. -/
def tree : Plain → Tree
  | .text s => .text s
  | .boolean b => .boolean b
  | .number n => .unsigned n

/-- A single setting in JSON. -/
def toJson : Plain → Json
  | .text s => .text s
  | .boolean b => .bool b
  | .number n => .integer n

end Plain

/-! ### What may be wrong -/

/-- What is **wrong** with settings. -/
inductive Problem where
  /-- A file cannot be read. -/
  | unreadable
  /-- A tree is something else than what is expected. -/
  | wrongKind (found : Tree) (expected : String)
  /-- A number is too small or too large for what is expected. -/
  | outOfRange (found : Tree) (expected : String)

/-- What is wrong, in words. -/
def Problem.message : Problem → String
  | .unreadable => "message"
  | .wrongKind found expected =>
    "invalid type: found " ++ found.describe ++ ", expected " ++ expected
  | .outOfRange found expected => "invalid value " ++ found.describe ++ ", expected " ++ expected

/-- Something wrong, and the path to it. -/
structure Fault where
  /-- The names on the way, and the positions in lists. -/
  path : List String
  /-- What is wrong there. -/
  problem : Problem

/-- The place of a fault, in words. -/
def Fault.place (f : Fault) : String := ".".intercalate f.path

/-- A fault seen from the table above. -/
def Fault.under (name : String) (f : Fault) : Fault := { f with path := name :: f.path }

/-! ### Kinds -/

/-- What a setting **has to be**. -/
inductive Kind where
  /-- A text. -/
  | text
  /-- A truth value. -/
  | boolean
  /-- A whole number below a size, under the name of its kind of word in messages. -/
  | word (size : Nat) (name : String)

namespace Kind

/-- A kind, in words. -/
def expected : Kind → String
  | .text => "a string"
  | .boolean => "a boolean"
  | .word _ name => name

/-- A whole number below a size. -/
def bounded (k : Kind) (size : Nat) (n : Int) (found : Tree) : Except Problem Plain :=
  if 0 ≤ n ∧ n < (size : Int) then .ok (.number n.toNat) else .error (.outOfRange found k.expected)

/-- Read a single setting of a kind. -/
def read (k : Kind) (t : Tree) : Except Problem Plain :=
  match k, t with
  | .text, .text s => .ok (.text s)
  | .boolean, .boolean b => .ok (.boolean b)
  | .word size _, .signed n => k.bounded size n t
  | .word size _, .unsigned n => k.bounded size n t
  | _, _ => .error (.wrongKind t k.expected)

end Kind

/-! ### Sections -/

/-- What a **section** holds: its title, and its settings in their order. -/
structure Section where
  /-- The title, as in messages. -/
  title : String
  /-- The names of the settings and what they have to be. -/
  fields : List (String × Kind)

namespace Section

/-- The settings in the members of a table; a name that means nothing is passed over. -/
def readMembers (s : Section) : List (String × Tree) → Except Fault (List (String × Plain))
  | [] => .ok []
  | (name, t) :: rest =>
    match s.fields.lookup name with
    | none => s.readMembers rest
    | some k =>
      match k.read t with
      | .error p => .error ⟨[name], p⟩
      | .ok v => (s.readMembers rest).map ((name, v) :: ·)

/-- The settings in the items of a list, counted from a number on; items beyond the last setting are
passed over. -/
def readItems (i : Nat) :
    List (String × Kind) → List Tree → Except Fault (List (String × Plain))
  | (name, k) :: fields, t :: rest =>
    match k.read t with
    | .error p => .error ⟨[toString i], p⟩
    | .ok v => (readItems (i + 1) fields rest).map ((name, v) :: ·)
  | _, _ => .ok []

/-- The settings that a tree says for a section. -/
def read (s : Section) : Tree → Except Fault (List (String × Plain))
  | .table members => s.readMembers members
  | .list items => readItems 0 s.fields items
  | t => .error ⟨[], .wrongKind t ("struct " ++ s.title)⟩

end Section

/-! ### Looking settings up -/

/-- The text of a name, if one was said. -/
def textOr (said : List (String × Plain)) (name : String) (otherwise : String) : String :=
  match said.lookup name with
  | some (.text s) => s
  | _ => otherwise

/-- The truth value of a name, if one was said. -/
def booleanOr (said : List (String × Plain)) (name : String) (otherwise : Bool) : Bool :=
  match said.lookup name with
  | some (.boolean b) => b
  | _ => otherwise

/-- The number of a name, if one was said. -/
def numberOr (said : List (String × Plain)) (name : String) (otherwise : Nat) : Nat :=
  match said.lookup name with
  | some (.number n) => n
  | _ => otherwise

end Settings

end Catalogue
