import Catalogue.Condition.Template
import Catalogue.Text.Parts

/-!
# Dialects

The catalogue is kept by one of two databases, and the address says by which. A
`Catalogue.Dialect` fixes how statements have to be written for it.
-/

namespace Catalogue

/-- The **kind of database**. -/
inductive Dialect where
  /-- A PostgreSQL server. -/
  | postgres
  /-- An SQLite file or memory. -/
  | sqlite
  deriving DecidableEq

namespace Dialect

/-- The dialect of the database at an address. -/
def ofAddress? (address : String) : Option Dialect :=
  if Text.startsWith "postgres://" address || Text.startsWith "postgresql://" address then
    some .postgres
  else if Text.startsWith "sqlite:" address then some .sqlite
  else none

/-- The name of a dialect. -/
def name : Dialect → String
  | .postgres => "postgres"
  | .sqlite => "sqlite"

/-- How conditions are written: only PostgreSQL has a comparison of its own that disregards the
letter case. -/
def rendering : Dialect → Rendering
  | .postgres => ⟨.numbered, .native⟩
  | .sqlite => ⟨.question, .lowered⟩

/-- The placeholder of the `n`-th value. -/
def placeholder (d : Dialect) (n : Nat) : String := d.rendering.placeholder.text n

end Dialect

end Catalogue
