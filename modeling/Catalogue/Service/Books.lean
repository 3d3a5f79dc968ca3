import Catalogue.Service.Fault
import Catalogue.Service.Reply
import Catalogue.Store.Request

/-!
# Serving books

What the service does for a client once it knows what the client wants. A list is made by two
statements: the books are counted, and then those in the window are fetched.
-/

namespace Catalogue

namespace Service

/-- A request of a client that may end in a fault. -/
abbrev Request (α : Type) := ExceptT Fault Store.Process α

namespace Request

/-- What the store does on behalf of a client. -/
def ofStore {α : Type} (r : Store.Request α) : Request α := r.adapt .ofStore

/-- What was read before, or was found wrong with it. -/
def ofExcept {α : Type} (e : Except Fault α) : Request α := ExceptT.mk (.done e)

variable (d : Dialect)

/-- **List books**: how many there are, and those in the window. -/
def list (s : Search) (w : Window) : Request (Listing Book) := do
  let count ← ofStore (Store.Request.count d s.condition)
  let data ← ofStore (Store.Request.books d s w)
  pure ⟨count, data⟩

/-- There is no such book. -/
def noBook (op : Store.Operation) (id : Int64) : Fault :=
  .ofStore { Store.Fault.notFound "Book" (Store.Request.idText id) with operation := op }

/-- **Show a book**. -/
def get (id : Int64) : Request (Item Book) := do
  match ← ofStore (Store.Request.book d id) with
  | some b => pure ⟨b⟩
  | none => throw (noBook .findById id)

/-- **Add a book**. -/
def create (draft : Draft) : Request (Item Book) := do
  let b ← ofStore (Store.Request.create d draft)
  pure ⟨b⟩

/-- **Change a book**. -/
def update (id : Int64) (r : Revision) : Request (Item Book) := do
  let b ← ofStore (Store.Request.update d id r)
  pure ⟨b⟩

/-- **Remove a book**. -/
def delete (id : Int64) : Request (Item Bool) := do
  if ← ofStore (Store.Request.delete d id) then pure ⟨true⟩
  else throw (noBook .delete id)

end Request

end Service

end Catalogue
