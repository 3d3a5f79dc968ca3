import Catalogue.Database.Dialect
import Catalogue.Database.Failure
import Catalogue.Store.Plan.Visit
import Catalogue.Word

/-!
# Statements

A `Catalogue.Store.Statement` is one thing that the database is asked to do, all of it or nothing of
it, and `Catalogue.Store.Statement.Answer` is the type of what it answers.
`Catalogue.Store.Statement.execute` is what a database that holds a `Catalogue.Store.Table`, or none
yet, does with a statement; `Catalogue.Store.Statement.text?` is how the statement is put to it.
-/

namespace Catalogue

namespace Store

/-- What the database is **asked** to do. -/
inductive Statement where
  /-- Make the table, unless there is one. -/
  | ensureTable
  /-- Do nothing. -/
  | ping
  /-- Show a book. -/
  | book (id : Int64)
  /-- Show the books of a search. -/
  | books (search : Search) (window : Window)
  /-- Count books. -/
  | count (condition : Condition)
  /-- Add a book and show it. -/
  | insert (draft : Draft)
  /-- Replace the texts of a book. -/
  | update (book : Book)
  /-- Remove a book, and say whether there was one. -/
  | delete (id : Int64)

namespace Statement

/-- The type of what the database **answers**. -/
def Answer : Statement → Type
  | .ensureTable => Unit
  | .ping => Unit
  | .book _ => Option Book
  | .books _ _ => List Book
  | .count _ => Nat
  | .insert _ => Book
  | .update _ => Unit
  | .delete _ => Bool

/-! ### Texts -/

/-- Names with commas between them. -/
def commaList (names : List String) : String := ", ".intercalate names

/-- The columns that a search shows. -/
def shownText (s : Search) : String :=
  if s.shown.isEmpty then commaList (Column.all.map Column.name) else commaList s.shown

/-- The column that a search is ordered by, and the direction. -/
def orderText (s : Search) : String :=
  match s.order? with
  | some k => k.field ++ (if k.descending then " DESC" else " ASC")
  | none => "id ASC"

/-- The statement that shows the books of a search. -/
def booksText (d : Dialect) (s : Search) (w : Window) : String :=
  "SELECT " ++ shownText s ++ " FROM books" ++ (s.condition.compile d.rendering).filter ++
    " ORDER BY " ++ orderText s ++ w.clause

/-- The statement that counts books. -/
def countText (d : Dialect) (c : Condition) : String :=
  "SELECT COUNT(*) FROM books" ++ (c.compile d.rendering).filter

/-- The **text** of a statement that depends on what a client sent. -/
def text? (d : Dialect) : Statement → Option String
  | .books s w => some (booksText d s w)
  | .count c => some (countText d c)
  | _ => none

/-! ### Reading rows -/

/-- A row that has no identifier cannot be shown with one. -/
def noId : Failure :=
  .other "error occurred while decoding column \"id\": expected BIGINT, got Null(Null)"

/-- The columns that a search shows, as columns. -/
def shownColumns (s : Search) : List Column :=
  if s.shown.isEmpty then Column.all else s.shown.filterMap Column.ofName?

/-- A row **as a book**, with the columns that are shown and nothing in the others. -/
def readRow (shown : List Column) (r : Row) : Except Failure Book :=
  let text (c : Column) (s : String) : String := if shown.contains c then s else ""
  if shown.contains .id then
    match r.id with
    | none => .error noId
    | some id => .ok ⟨id, text .title r.title, text .author r.author, text .summary r.summary⟩
  else .ok ⟨0, text .title r.title, text .author r.author, text .summary r.summary⟩

/-! ### What the database refuses -/

/-- A refusal that is about no constraint. -/
def refusal (message : String) : Failure := .refused message false none

/-- There is another row of that title. -/
def titleTaken : Failure := .refused "UNIQUE constraint failed: books.title" true none

/-- There is no identifier left to give. -/
def idsExhausted : Failure := refusal "database or disk is full"

/-- There is no table yet. -/
def noTable : Failure := refusal "no such table: books"

/-- How high an expression may be. -/
def heightLimit : Nat := 1000

/-- How many values a statement may have. -/
def valueLimit : Nat := 32766

/-- Why an **expression is refused** before it is looked at what it is about: the comparison without
regard to letter case is no operator here, and there is a limit to its size. -/
def expressionFault? (d : Dialect) (c : Condition) : Option Failure :=
  if d.rendering.folding = .native ∧
      (c.template.filterMap Piece.predicate?).any (·.comparison = .ilike) then
    some (refusal "near \"ILIKE\": syntax error")
  else if heightLimit < (c.meaning .height).getD 0 then
    some (refusal "Expression tree is too large (maximum depth 1000)")
  else if valueLimit < (c.compile d.rendering).values.length then
    some (refusal "too many SQL variables")
  else none

/-- How many columns a statement may show. -/
def widthLimit : Nat := 2000

/-- Why a **search is refused** because of what it shows. -/
def widthFault? (s : Search) : Option Failure :=
  if widthLimit < s.shown.length then some (refusal "too many columns in result set") else none

/-- A window is made of whole numbers that fit a signed 64-bit word. If it shows nothing, nobody
looks how many rows it passes over. -/
def windowFault? (w : Window) : Option Failure :=
  if w.limit ≠ 0 ∧ (Word.half ≤ w.limit ∨ Word.half ≤ w.offset) then
    some (refusal "datatype mismatch")
  else none

/-- The database has given up on a pattern. -/
def patternTooLong : Failure := refusal "LIKE or GLOB pattern too complex"

/-! ### Execution -/

/-- The column that a search is ordered by. -/
def orderColumn (s : Search) : Column :=
  (s.order?.bind fun k => Column.ofName? k.field).getD .id

/-- The greatest values come first. -/
def isDescending (s : Search) : Bool := (s.order?.map (·.descending)).getD false

/-- The order in which the rows of a search are wanted. Only a limit of at most 31 bits is taken
into account. -/
def wanted (s : Search) (w : Window) : Plan.Wanted where
  column := orderColumn s
  descending := isDescending s
  width := (shownColumns s).length
  limit := if w.limit < Nat.pow 2 31 then some w.limit else none

/-- The rows that satisfy the condition of a search, in the order in which it wants them. -/
def ordered (s : Search) (w : Window) (t : Table) : List Row :=
  let parts := Formula.ofCondition s.condition
  Table.sort (orderColumn s) (isDescending s) <|
    Plan.arrange t ((Formula.predicatesOfList parts).length + 1) parts (some (wanted s w))
      (t.select s.condition)

/-- The **books of a search**. -/
def found (s : Search) (w : Window) (t : Table) : Except Failure (List Book) :=
  (w.view (ordered s w t)).mapM (readRow (shownColumns s))

/-- The database gives up on its way to the books of a search. -/
def searchGivesUp (s : Search) (w : Window) (t : Table) : Bool :=
  w.limit ≠ 0 && Plan.givesUp t (Formula.ofCondition s.condition) (some (wanted s w))
    (w.offset + w.limit)

/-- The database gives up while it counts the books of a condition. -/
def countGivesUp (c : Condition) (t : Table) : Bool :=
  Plan.givesUp t (Formula.ofCondition c) none t.rows.length

/-- What the database **does** with a statement about a table. -/
def executeOn (d : Dialect) (t : Table) : (s : Statement) → Except Failure s.Answer × Table
  | .ensureTable => (.ok (), t)
  | .ping => (.ok (), t)
  | .book id =>
    match t.row? id with
    | none => (.ok none, t)
    | some r => ((readRow Column.all r).map some, t)
  | .books s w =>
    match ((expressionFault? d s.condition).or (widthFault? s)).or (windowFault? w) with
    | some f => (.error f, t)
    | none => (if searchGivesUp s w t then .error patternTooLong else found s w t, t)
  | .count c =>
    match expressionFault? d c with
    | some f => (.error f, t)
    | none => (if countGivesUp c t then .error patternTooLong else .ok (t.select c).length, t)
  | .insert draft =>
    if t.isExhausted then (.error idsExhausted, t)
    else
      match t.insert? draft with
      | none => (.error titleTaken, t)
      | some (r, t) => (readRow Column.all r, t)
  | .update b =>
    match t.update? b with
    | none => (.error titleTaken, t)
    | some t => (.ok (), t)
  | .delete id => (.ok (t.row? id).isSome, t.delete id)

/-- What the database does with a statement while there is **no table**. Only SQLite gives
identifiers to the rows of the table that is made. -/
def executeWithout (d : Dialect) : (s : Statement) → Except Failure s.Answer × Option Table
  | .ensureTable => (.ok (), some (.empty (d = .sqlite)))
  | .ping => (.ok (), none)
  | .book _ => (.error noTable, none)
  | .books s _ => (.error ((expressionFault? d s.condition).getD noTable), none)
  | .count c => (.error ((expressionFault? d c).getD noTable), none)
  | .insert _ => (.error noTable, none)
  | .update _ => (.error noTable, none)
  | .delete _ => (.error noTable, none)

/-- What the database **does** with a statement. -/
def execute (d : Dialect) (t : Option Table) (s : Statement) :
    Except Failure s.Answer × Option Table :=
  match t with
  | none => executeWithout d s
  | some t =>
    match executeOn d t s with
    | (answer, t) => (answer, some t)

end Statement

end Store

end Catalogue
