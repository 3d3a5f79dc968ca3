import Catalogue.Http.MediaType
import Catalogue.Service.Books
import Catalogue.Service.Paging
import Catalogue.Settings.Basic
import Catalogue.Word

/-!
# Routes

`Catalogue.Http.respond` is the service as it answers requests. A path leads to a
`Catalogue.Http.Resource`, or nowhere, and a resource knows some methods. What a client sends is
read in a fixed order, and the first thing that is wrong with it is what the client is told.
-/

namespace Catalogue

namespace Http

/-! ### Resources -/

/-- What a path **leads to**. -/
inductive Resource where
  /-- The state of the service. -/
  | health
  /-- The state of what the service needs. -/
  | readiness
  /-- All books. -/
  | books
  /-- The book of an identifier, as it was sent. -/
  | book (id : List Char)
  deriving DecidableEq

namespace Resource

/-- The resource of a path. The name of a book is not empty and has no slash in it. -/
def ofPath? (path : List Char) : Option Resource :=
  if path = "/health".toList then some .health
  else if path = "/ready".toList then some .readiness
  else if path = "/books".toList then some .books
  else
    match Text.past? "/books/".toList path with
    | some id => if id = [] ∨ id.contains '/' then none else some (.book id)
    | none => none

/-- The methods that a resource knows, as a client is told. -/
def allowed : Resource → String
  | .health => "GET,HEAD"
  | .readiness => "GET,HEAD"
  | .books => "GET,HEAD,POST,PUT"
  | .book _ => "GET,HEAD,PATCH,DELETE"

end Resource

/-! ### What a client sends -/

/-- How much of a body is read. -/
def bodyLimit : Nat := 2 * 1024 * 1024

/-- Why a **body is not read**. -/
def bodyTooLong : String := "Failed to buffer the request body: length limit exceeded"

/-- The parameters of a list, from the pairs of a form. A parameter may not be given twice. -/
def paramsOfPairs :
    List (String × String) → Service.ListParams → Except Service.Fault Service.ListParams
  | [], p => .ok p
  | (name, value) :: rest, p =>
    let put (old : Option String) (p : Service.ListParams) :
        Except Service.Fault Service.ListParams :=
      if old.isSome then
        .error (.badRequest
          ("Failed to deserialize query string: duplicate field `" ++ name ++ "`"))
      else paramsOfPairs rest p
    if name = "query" then put p.query { p with query := some value }
    else if name = "offset" then put p.offset { p with offset := some value }
    else if name = "limit" then put p.limit { p with limit := some value }
    else paramsOfPairs rest p

/-- The **parameters of a list**. -/
def listParams (r : Request) : Except Service.Fault Service.ListParams :=
  paramsOfPairs (Text.formPairs r.query) .none

/-- The **identifier of a book**, from a part of a path. -/
def bookId (raw : List Char) : Except Service.Fault Int64 :=
  match Text.ofBytes? (Text.percentDecode raw) with
  | none => .error (.badRequest "Invalid URL: Invalid UTF-8 in `id`")
  | some s =>
    match Numeral.int? (Text.trim s) with
    | some n =>
      if Word.IsSigned n then .ok (Int64.ofInt n)
      else .error (.general .get .badRequest ("invalid book id '" ++ s ++ "'"))
    | none => .error (.general .get .badRequest ("invalid book id '" ++ s ++ "'"))

/-- What is wrong with a body that is JSON. -/
def bodyFault (f : Json.Fault) : String :=
  (if f.isMalformed then "Failed to parse the request body as JSON: "
    else "Failed to deserialize the JSON body into the target type: ") ++
    (if f.path.isEmpty then "" else f.pathText ++ ": ") ++ f.message

/-- The **record in a body**, of which no more than `limit` bytes are read. -/
def payload {α : Type} (d : Json.Decoder α) (op : Service.Operation) (limit : Nat) (r : Request) :
    Except Service.Fault α :=
  let refuse (message : String) : Except Service.Fault α := .error (.general op .badRequest message)
  if !r.isJson then refuse "Expected request with `Content-Type: application/json`"
  else if limit < r.body.length then refuse bodyTooLong
  else
    match d.ofSymbols? (Symbol.ofBytes r.body) with
    | .ok a => .ok a
    | .error f => refuse (bodyFault f)

/-- A byte that a body without a search may be made of. -/
def isSpaceByte (b : UInt8) : Bool := b = 0x20 || b = 0x09 || b = 0x0A || b = 0x0C || b = 0x0D

/-- The **search in a body**; everything, if there is nothing but space. -/
def searchOfBody (body : List UInt8) : Except Service.Fault Search :=
  if body.all isSpaceByte then .ok .everything
  else
    match Search.ofSymbols? (Symbol.ofBytes body) with
    | .ok s => .ok s
    | .error r => .error (.ofRejection r)

/-! ### Answers -/

/-- An answer in preparation. -/
abbrev Answer := Store.Process Response

/-- The **answer of a request** that may end in a fault. -/
def answer {α : Type} (encode : α → Json) (r : Service.Request α) : Answer :=
  (ExceptT.run r).bind fun
    | .ok a => .done (.json 200 (encode a))
    | .error f => .done (.ofFault f)

/-- The version of the service. -/
def version : String := "0.1.0"

/-- The state of the service. -/
def health (settings : Settings) : Response :=
  .json 200 <| .object
    [("status", .text "healthy"), ("service", .text settings.service.name),
      ("version", .text version)]

/-- The state of what the service needs. -/
def readinessOf (d : Dialect) (settings : Settings) (ready : Bool) : Response :=
  let message := if ready then "Connected (" ++ d.name ++ ")" else "Connection failed"
  .json (if ready then 200 else 503) <| .object
    [("ready", .bool ready), ("service", .text settings.service.name),
      ("dependencies", .object
        [("database", .object [("healthy", .bool ready), ("message", .text message)])])]

/-- The state of what the service needs, as it turns out. -/
def readiness (d : Dialect) (settings : Settings) : Answer :=
  (ExceptT.run (Store.Request.ping d)).bind fun
    | .ok () => .done (readinessOf d settings true)
    | .error _ => .done (readinessOf d settings false)

/-- List the books of a search that the query holds. -/
def listBooks (d : Dialect) (settings : Settings) (r : Request) : Answer :=
  answer (·.toJson Book.toJson) do
    let params ← Service.Request.ofExcept (listParams r)
    let window ← Service.Request.ofExcept (params.window settings.query)
    let search ← Service.Request.ofExcept params.search
    Service.Request.list d search window

/-- List the books of a search that the body holds. -/
def findBooks (d : Dialect) (settings : Settings) (limit : Nat) (r : Request) : Answer :=
  if limit < r.body.length then .done (.plain 413 bodyTooLong)
  else
    answer (·.toJson Book.toJson) do
      let params ← Service.Request.ofExcept (listParams r)
      let window ← Service.Request.ofExcept (params.window settings.query)
      let search ← Service.Request.ofExcept (searchOfBody r.body)
      Service.Request.list d search window

/-- Add the book that the body holds. -/
def createBook (d : Dialect) (limit : Nat) (r : Request) : Answer :=
  answer (·.toJson Book.toJson) do
    let draft ← Service.Request.ofExcept (payload Draft.decoder .create limit r)
    Service.Request.create d draft

/-- Show a book. -/
def getBook (d : Dialect) (raw : List Char) : Answer :=
  answer (·.toJson Book.toJson) do
    let id ← Service.Request.ofExcept (bookId raw)
    Service.Request.get d id

/-- Change a book as the body says. -/
def updateBook (d : Dialect) (limit : Nat) (raw : List Char) (r : Request) : Answer :=
  answer (·.toJson Book.toJson) do
    let id ← Service.Request.ofExcept (bookId raw)
    let revision ← Service.Request.ofExcept (payload Revision.decoder .update limit r)
    Service.Request.update d id revision

/-- Remove a book. -/
def deleteBook (d : Dialect) (raw : List Char) : Answer :=
  answer (·.toJson Json.bool) do
    let id ← Service.Request.ofExcept (bookId raw)
    Service.Request.delete d id

/-! ### The service -/

/-- The answer of a resource to a method that it knows; none to any other. -/
def handle? (d : Dialect) (settings : Settings) (limit : Nat) (resource : Resource) (r : Request) :
    Option Answer :=
  let reads := r.method = "GET" ∨ r.method = "HEAD"
  match resource with
  | .health => if reads then some (.done (health settings)) else none
  | .readiness => if reads then some (readiness d settings) else none
  | .books =>
    if reads then some (listBooks d settings r)
    else if r.method = "POST" then some (findBooks d settings limit r)
    else if r.method = "PUT" then some (createBook d limit r)
    else none
  | .book raw =>
    if reads then some (getBook d raw)
    else if r.method = "PATCH" then some (updateBook d limit raw r)
    else if r.method = "DELETE" then some (deleteBook d raw)
    else none

/-- The **endpoint** of a request: what answers it, and what a client is told about other methods
if there is a resource but nothing that answers. -/
def endpoint (d : Dialect) (settings : Settings) (limit : Nat) (r : Request) :
    Answer × List (String × String) :=
  match Resource.ofPath? r.path with
  | none => (.done (.empty 404), [])
  | some resource =>
    match handle? d settings limit resource r with
    | some a => (a, [])
    | none => (.done (.empty 405), [("allow", resource.allowed)])

/-- The last touch: what a client is told about other methods, and no content where only the
headers were asked for. -/
def finish (r : Request) (extra : List (String × String)) (response : Response) : Response :=
  let response := response.withHeaders extra
  if r.method = "HEAD" then { response with body := "" } else response

/-- The **service**, with nothing around it. -/
def respond (d : Dialect) (settings : Settings) (r : Request) : Answer :=
  let (a, extra) := endpoint d settings bodyLimit r
  a.bind fun response => .done (finish r extra response)

end Http

end Catalogue
