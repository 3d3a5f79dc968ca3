import Catalogue.Json.Printer
import Catalogue.Service.Fault
import Catalogue.Text.Percent

/-!
# Messages

A request and the response to it. Of the headers of a response only those are kept that say
something about its content or about what the client may do.
-/

namespace Catalogue

namespace Http

/-- A **request**. -/
structure Request where
  /-- Its method. -/
  method : String
  /-- The path and the query, perhaps with the scheme and the host before them. -/
  target : String
  /-- The headers, by their names. -/
  headers : List (String × String)
  /-- The body. -/
  body : List UInt8

/-- A **response**. -/
structure Response where
  /-- Its status. -/
  status : UInt16
  /-- The headers, by their names. -/
  headers : List (String × String)
  /-- The body. -/
  body : String
  deriving DecidableEq

/-! ### Requests -/

/-- A text with the ASCII letters in lower case. -/
def lowered (s : String) : String := String.ofList (s.toList.map Char.toLower)

/-- A character of a header whose value is text. -/
def isVisible (c : Char) : Bool := (0x20 ≤ c.toNat && c.toNat < 0x7F) || c = '\t'

namespace Request

/-- The values of a header, which may be given several times. -/
def headerValues (r : Request) (name : String) : List String :=
  (r.headers.filter fun h => lowered h.1 = name).map (·.2)

/-- The value of a header, the first one if there are several. -/
def header? (r : Request) (name : String) : Option String := (r.headerValues name).head?

/-- The value of a header, if it is ASCII text. -/
def text? (r : Request) (name : String) : Option String :=
  (r.header? name).filter fun s => s.toList.all isVisible

/-- A character of a scheme. -/
def isSchemeChar (c : Char) : Bool := c.isAlphanum || c = '+' || c = '-' || c = '.'

/-- What is left of a target **behind the host**, if there is one. -/
def behindHost (target : List Char) : List Char :=
  match Text.past? "://".toList (target.dropWhile isSchemeChar) with
  | some rest => rest.dropWhile fun c => c ≠ '/' && c ≠ '?'
  | none => target

/-- The path and the query, without what a client keeps to itself. -/
def targetChars (r : Request) : List Char := behindHost (r.target.toList.takeWhile (· ≠ '#'))

/-- The path of a request, as it was sent. -/
def path (r : Request) : List Char := r.targetChars.takeWhile (· ≠ '?')

/-- The query of a request, as it was sent. -/
def query (r : Request) : List Char := (r.targetChars.dropWhile (· ≠ '?')).drop 1

end Request

/-! ### Responses -/

namespace Response

/-- A response without content. -/
def empty (status : UInt16) : Response := ⟨status, [], ""⟩

/-- A response whose content is **JSON**. -/
def json (status : UInt16) (j : Json) : Response :=
  ⟨status, [("content-type", "application/json")], j.compact⟩

/-- A response whose content is plain text. -/
def plain (status : UInt16) (s : String) : Response :=
  ⟨status, [("content-type", "text/plain; charset=utf-8")], s⟩

/-- The response to a **fault**. -/
def ofFault (f : Service.Fault) : Response := json f.trouble.status f.report.toJson

/-- The response with more headers. -/
def withHeaders (r : Response) (headers : List (String × String)) : Response :=
  { r with headers := r.headers ++ headers }

/-- The value of a header. -/
def header? (r : Response) (name : String) : Option String := r.headers.lookup name

end Response

end Http

end Catalogue
