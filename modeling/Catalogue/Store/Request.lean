import Catalogue.Store.Fault
import Catalogue.Store.Process

/-!
# Requests to the store

What the store can be asked to do. Each request checks what it can check by itself, puts its
statements, and turns a failure of the database into a fault of its own operation.

A search is refused if it speaks of a column that the table does not have: names of columns are part
of the text of a statement, unlike values. A book is changed by reading it, changing what was read,
and writing all of its texts.
-/

namespace Catalogue

namespace Store

/-- A request that may end in a fault. -/
abbrev Request (α : Type) := ExceptT Fault Process α

namespace Request

variable (d : Dialect)

/-- Put a statement on behalf of an operation. -/
def perform (op : Operation) (s : Statement) : Request s.Answer :=
  ExceptT.mk <| (Process.perform s).bind fun answer => .done <|
    match answer with
    | .ok a => .ok a
    | .error f => .error (.ofFailure d op f)

/-- The first name that is no column. -/
def unknownColumn? (names : List String) : Option String :=
  names.find? fun name => (Column.ofName? name).isNone

/-- Nothing but columns may be spoken of. -/
def checkColumns (op : Operation) (names : List String) : Request Unit :=
  match unknownColumn? names with
  | none => pure ()
  | some name => throw (.general op .invalidQuery ("unknown column: " ++ name))

/-- **Make the table**, unless there is one. -/
def ensureTable : Request Unit := perform d .migrate .ensureTable

/-- See whether the database **answers**. -/
def ping : Request Unit := perform d .findAll .ping

/-- **Show a book**, if there is one of that identifier. -/
def book (id : Int64) : Request (Option Book) := perform d .findById (.book id)

/-- **Show the books** of a search, as far as they lie in the window. -/
def books (s : Search) (w : Window) : Request (List Book) := do
  checkColumns .findAll s.columns
  perform d .findAll (.books s w)

/-- **Count** the books of a condition. -/
def count (c : Condition) : Request Nat := do
  checkColumns .count c.fields
  perform d .count (.count c)

/-- **Add a book**; its title and author may not be blank. -/
def create (draft : Draft) : Request Book :=
  if draft.missing.isEmpty then perform d .create (.insert draft)
  else throw (.general .create .validationFailed
    ("missing required field(s): " ++ ", ".intercalate draft.missing))

/-- The text of an identifier. -/
def idText (id : Int64) : String := String.ofList (Json.integerChars id.toInt)

/-- **Change a book**. -/
def update (id : Int64) (r : Revision) : Request Book := do
  match ← book d id with
  | none => throw { Fault.notFound "Book" (idText id) with operation := .update }
  | some b =>
    let b := r.apply b
    perform d .update (.update b)
    pure b

/-- **Remove a book**, and say whether there was one. -/
def delete (id : Int64) : Request Bool := perform d .delete (.delete id)

end Request

/-- **Run** a request alone. -/
def Session.run {α : Type} (s : Session) (r : Request α) : Except Fault α × Session :=
  (ExceptT.run r).run s

end Store

end Catalogue
