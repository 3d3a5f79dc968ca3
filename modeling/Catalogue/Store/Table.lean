import Catalogue.Search
import Catalogue.Store.Comparison
import Catalogue.Window

/-!
# The table of books

A `Catalogue.Store.Table` holds rows in the order in which they were added, and the greatest
identifier it ever gave. Titles are unique. A table made in the manner of another kind of database
may not know how to give identifiers; its rows stay without.
-/

namespace Catalogue

namespace Store

/-- The **table of books**. -/
structure Table where
  /-- The rows, the oldest first. -/
  rows : List Row
  /-- The greatest identifier ever given. -/
  lastId : Int64
  /-- The table gives identifiers. -/
  givesIds : Bool
  deriving DecidableEq

/-- A row with the texts of a book. -/
def Row.withTexts (r : Row) (b : Book) : Row := ⟨r.id, b.title, b.author, b.summary⟩

namespace Table

/-- A table **without rows**. -/
def empty (givesIds : Bool) : Table := ⟨[], 0, givesIds⟩

/-! ### Changing the table -/

/-- There is a row of that title, among those whose identifier is not the one given. -/
def hasTitle (t : Table) (title : String) (except? : Option Int64) : Bool :=
  t.rows.any fun r => r.title = title && (except?.isNone || r.id ≠ except?)

/-- There is **no identifier left**: the table gives them, and it has given the greatest. -/
def isExhausted (t : Table) : Bool := t.givesIds && t.lastId = Int64.maxValue

/-- The row that a draft becomes. -/
def rowOf (t : Table) (d : Draft) : Row :=
  ⟨if t.givesIds then some (t.lastId + 1) else none, d.title, d.author, d.summary⟩

/-- The table with the row of a draft; none if there is a row of that title. -/
def insert? (t : Table) (d : Draft) : Option (Row × Table) :=
  if t.hasTitle d.title none then none
  else
    let row := t.rowOf d
    some (row,
      { t with rows := t.rows ++ [row], lastId := if t.givesIds then t.lastId + 1 else t.lastId })

/-- The row of an identifier. -/
def row? (t : Table) (id : Int64) : Option Row := t.rows.find? fun r => r.id = some id

/-- The table with the texts of a book in its row, if it has one; none if there is another row of
that title. -/
def update? (t : Table) (b : Book) : Option Table :=
  if (t.row? b.id).isSome ∧ t.hasTitle b.title (some b.id) then none
  else some { t with rows := t.rows.map fun r => if r.id = some b.id then r.withTexts b else r }

/-- The table without the row of an identifier. -/
def delete (t : Table) (id : Int64) : Table :=
  { t with rows := t.rows.filter fun r => r.id ≠ some id }

/-! ### Looking into the table -/

/-- The rows that satisfy a condition. -/
def select (t : Table) (c : Condition) : List Row := t.rows.filter (·.satisfies c)

/-- The order of texts by their code points, which is that of their bytes. -/
def textAtMost (s t : String) : Bool := !decide (t < s)

/-- One row comes **no later than** another in the order of a column. What is missing comes
first. -/
def atMost (c : Column) (r s : Row) : Bool :=
  match c with
  | .id =>
    match r.id, s.id with
    | none, _ => true
    | some _, none => false
    | some m, some n => m ≤ n
  | .title => textAtMost r.title s.title
  | .author => textAtMost r.author s.author
  | .summary => textAtMost r.summary s.summary

/-- Rows **sorted** by a column; rows that are equal in it stay as they are. -/
def sort (c : Column) (descending : Bool) (rows : List Row) : List Row :=
  if descending then rows.mergeSort fun r s => atMost c s r else rows.mergeSort (atMost c)

end Table

end Store

end Catalogue
