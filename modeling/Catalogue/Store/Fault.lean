import Catalogue.Condition.Rejection
import Catalogue.Database.Dialect
import Catalogue.Database.Failure

/-!
# Faults of the store

A request to the store that comes to nothing ends in a `Catalogue.Store.Fault`: what was asked for,
what kind of trouble there was, and a message. `Catalogue.Store.Fault.ofFailure` makes one of a
failure of the database, and is the only place that looks into such a failure.
-/

namespace Catalogue

namespace Store

/-- What the store **was asked** to do. -/
inductive Operation where
  /-- To show one book. -/
  | findById
  /-- To show the books of a search. -/
  | findAll
  /-- To count books. -/
  | count
  /-- To add a book. -/
  | create
  /-- To change a book. -/
  | update
  /-- To remove a book. -/
  | delete
  /-- To make its tables. -/
  | migrate
  deriving DecidableEq

namespace Operation

/-- All operations. -/
def all : List Operation := [.findById, .findAll, .count, .create, .update, .delete, .migrate]

/-- The name of an operation. -/
def name : Operation → String
  | .findById => "find_by_id"
  | .findAll => "find_all"
  | .count => "count"
  | .create => "create"
  | .update => "update"
  | .delete => "delete"
  | .migrate => "migrate"

/-- The operation of a name. -/
def ofName? (s : String) : Option Operation := all.find? (·.name = s)

end Operation

/-- The **kind of trouble** that the store had. -/
inductive Trouble where
  /-- There is no such book. -/
  | notFound
  /-- There is another book of that title. -/
  | alreadyExists
  /-- The book may not be as it is. -/
  | validationFailed
  /-- The search makes no sense. -/
  | invalidQuery
  /-- The database cannot be reached. -/
  | connectionFailed
  /-- The database has no connection to spare. -/
  | timeout
  /-- The database failed. -/
  | databaseError
  deriving DecidableEq

namespace Trouble

/-- The name of a kind of trouble. -/
def name : Trouble → String
  | .notFound => "not_found"
  | .alreadyExists => "already_exists"
  | .validationFailed => "validation_failed"
  | .invalidQuery => "invalid_query"
  | .connectionFailed => "connection_failed"
  | .timeout => "timeout"
  | .databaseError => "database_error"

/-- It may go away by itself. -/
def isRetriable : Trouble → Bool
  | .connectionFailed => true
  | .timeout => true
  | _ => false

end Trouble

/-- A **fault** of the store. -/
structure Fault where
  /-- What was asked for. -/
  operation : Operation
  /-- The kind of trouble. -/
  trouble : Trouble
  /-- What to say about it. -/
  message : String
  /-- The kind of thing concerned, and which one it is. -/
  entity : Option (String × String)
  deriving DecidableEq

namespace Fault

/-- A fault that concerns nothing in particular. -/
def general (operation : Operation) (trouble : Trouble) (message : String) : Fault :=
  ⟨operation, trouble, message, none⟩

/-- There is **no such thing**. -/
def notFound (kind id : String) : Fault :=
  ⟨.findById, .notFound, "record not found", some (kind, id)⟩

/-- There is **another one** with the same value in a column. -/
def duplicate (operation : Operation) (column : String) : Fault :=
  general operation .alreadyExists ("Duplicate value " ++ column)

/-- A rejected condition is a search that makes no sense. -/
def ofRejection (r : Rejection) : Fault := general .findAll .invalidQuery r.message

/-- What a fault says of the thing concerned. -/
def entityText (entity : Option (String × String)) : String :=
  match entity with
  | some (kind, id) => " [" ++ kind ++ ": " ++ id ++ "]"
  | none => ""

/-- The **whole message** of a fault. -/
def display (f : Fault) : String :=
  "Repository " ++ f.trouble.name ++ " error during " ++ f.operation.name ++ ": " ++ f.message ++
    entityText f.entity

/-! ### Failures of the database -/

/-- The column whose unique value a refusal is about. SQLite tells it in the message, PostgreSQL
names the constraint. -/
def duplicateColumn? (d : Dialect) (message : String) (unique : Bool)
    (constraint : Option String) : Option String :=
  match d with
  | .sqlite =>
    (Text.past? "UNIQUE constraint failed: ".toList message.toList).map String.ofList
  | .postgres =>
    if unique then
      some <| match constraint with
        | none => "books"
        | some name => if name = "idx_books_title" then "books.title" else name
    else none

/-- The **fault of a failure**. -/
def ofFailure (d : Dialect) (operation : Operation) : Failure → Fault
  | .refused message unique constraint =>
    match duplicateColumn? d message unique constraint with
    | some column => duplicate operation column
    | none => general operation .databaseError message
  | .timedOut => general operation .timeout "timed out acquiring a connection"
  | .disconnected message => general operation .connectionFailed message
  | .other message => general operation .databaseError message

end Fault

end Store

end Catalogue
