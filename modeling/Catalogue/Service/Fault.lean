import Catalogue.Json.Printer
import Catalogue.Service.Reply
import Catalogue.Store.Fault

/-!
# Faults of the service

Whatever goes wrong while a client is served ends in a `Catalogue.Service.Fault`, which is answered
by a status and a `Catalogue.Service.Report`. `Catalogue.Service.Fault.ofStore` turns a fault of the
store into one: what the database said stays behind, and the client learns only that there was
trouble.
-/

namespace Catalogue

namespace Service

/-- What the service **was asked** to do. -/
inductive Operation where
  /-- To list books. -/
  | list
  /-- To show a book. -/
  | get
  /-- To add a book. -/
  | create
  /-- To change a book. -/
  | update
  /-- To remove a book. -/
  | delete
  deriving DecidableEq

namespace Operation

/-- All operations. -/
def all : List Operation := [.list, .get, .create, .update, .delete]

/-- The name of an operation. -/
def name : Operation → String
  | .list => "list"
  | .get => "get"
  | .create => "create"
  | .update => "update"
  | .delete => "delete"

/-- The operation of a name. -/
def ofName? (s : String) : Option Operation := all.find? (·.name = s)

/-- What a client asked for when the store was asked for something. -/
def ofStore : Store.Operation → Operation
  | .findById => .get
  | .findAll => .list
  | .count => .list
  | .create => .create
  | .migrate => .create
  | .update => .update
  | .delete => .delete

end Operation

/-- The **kind of trouble** that the service had. -/
inductive Trouble where
  /-- There is no such thing. -/
  | notFound
  /-- There is such a thing already. -/
  | alreadyExists
  /-- The thing may not be as it is. -/
  | validationFailed
  /-- The request makes no sense. -/
  | badRequest
  /-- The service failed. -/
  | internalError
  /-- The service cannot work now. -/
  | serviceUnavailable
  deriving DecidableEq

namespace Trouble

/-- All kinds of trouble. -/
def all : List Trouble :=
  [.notFound, .alreadyExists, .validationFailed, .badRequest, .internalError, .serviceUnavailable]

/-- The name of a kind of trouble. -/
def name : Trouble → String
  | .notFound => "not_found"
  | .alreadyExists => "already_exists"
  | .validationFailed => "validation_failed"
  | .badRequest => "bad_request"
  | .internalError => "internal_error"
  | .serviceUnavailable => "service_unavailable"

/-- The kind of trouble of a name. -/
def ofName? (s : String) : Option Trouble := all.find? (·.name = s)

/-- The word for a kind of trouble in a report. -/
def code : Trouble → String
  | .notFound => "NOT_FOUND"
  | .alreadyExists => "ALREADY_EXISTS"
  | .validationFailed => "VALIDATION_FAILED"
  | .badRequest => "BAD_REQUEST"
  | .internalError => "INTERNAL_ERROR"
  | .serviceUnavailable => "SERVICE_UNAVAILABLE"

/-- The status of a response that reports it. -/
def status : Trouble → UInt16
  | .notFound => 404
  | .alreadyExists => 409
  | .validationFailed => 422
  | .badRequest => 400
  | .internalError => 500
  | .serviceUnavailable => 503

/-- It may go away by itself. -/
def isRetriable (t : Trouble) : Bool := t = .serviceUnavailable

/-- What the trouble of the store is to a client. -/
def ofStore : Store.Trouble → Trouble
  | .notFound => .notFound
  | .alreadyExists => .alreadyExists
  | .validationFailed => .validationFailed
  | .invalidQuery => .badRequest
  | .connectionFailed => .serviceUnavailable
  | .timeout => .serviceUnavailable
  | .databaseError => .internalError

/-- What a client is told in place of the message of the store. -/
def publicMessage? : Trouble → Option String
  | .serviceUnavailable => some "Service temporarily unavailable"
  | .internalError => some "An internal error occurred"
  | _ => none

end Trouble

/-- A **fault** of the service. -/
structure Fault where
  /-- What was asked for. -/
  operation : Operation
  /-- The kind of trouble. -/
  trouble : Trouble
  /-- What to say about it. -/
  message : String
  /-- The kind of thing concerned, and which one it is. -/
  entity : Option (String × String)
  deriving DecidableEq

namespace Fault

/-- A fault that concerns nothing in particular. -/
def general (operation : Operation) (trouble : Trouble) (message : String) : Fault :=
  ⟨operation, trouble, message, none⟩

/-- A **request that makes no sense**. -/
def badRequest (message : String) : Fault := general .list .badRequest message

/-- A rejected condition makes no sense. -/
def ofRejection (r : Rejection) : Fault := badRequest r.message

/-- The fault that a client sees **of a fault of the store**. -/
def ofStore (f : Store.Fault) : Fault :=
  let trouble := Trouble.ofStore f.trouble
  ⟨.ofStore f.operation, trouble, trouble.publicMessage?.getD f.message, f.entity⟩

/-- The **whole message** of a fault. -/
def display (f : Fault) : String :=
  "API " ++ f.trouble.name ++ " error during " ++ f.operation.name ++ ": " ++ f.message ++
    Store.Fault.entityText f.entity

/-- The **report** of a fault. -/
def report (f : Fault) : Report := ⟨f.message, some f.trouble.code, f.trouble.status⟩

end Fault

end Service

end Catalogue
