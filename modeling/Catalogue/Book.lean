import Catalogue.Json.Decoder
import Catalogue.Text.Blank

/-!
# Books

A `Catalogue.Book` as the catalogue holds and shows it, a `Catalogue.Draft` of one that has no
identifier yet, and a `Catalogue.Revision`, which says which of its texts are to change.

What a book shows as JSON leaves out a zero identifier and empty texts; what is left out reads back
as zero and empty.
-/

namespace Catalogue

/-- A **book**. -/
structure Book where
  /-- Its identifier. -/
  id : Int64
  /-- Its title. -/
  title : String
  /-- Its author. -/
  author : String
  /-- A summary, which may be empty. -/
  summary : String
  deriving DecidableEq

/-- A book **to be added**. -/
structure Draft where
  /-- Its title. -/
  title : String
  /-- Its author. -/
  author : String
  /-- A summary, which may be empty. -/
  summary : String
  deriving DecidableEq

/-- What is **to change** about a book. -/
structure Revision where
  /-- The new title. -/
  title : Option String
  /-- The new author. -/
  author : Option String
  /-- The new summary. -/
  summary : Option String
  deriving DecidableEq

/-! ### Columns -/

/-- A **column** of the table of books. -/
inductive Column where
  /-- The identifier. -/
  | id
  /-- The title. -/
  | title
  /-- The author. -/
  | author
  /-- The summary. -/
  | summary
  deriving DecidableEq

namespace Column

/-- All columns, in their order. -/
def all : List Column := [.id, .title, .author, .summary]

/-- The name of a column. -/
def name : Column → String
  | .id => "id"
  | .title => "title"
  | .author => "author"
  | .summary => "summary"

/-- The column of a name. -/
def ofName? (s : String) : Option Column :=
  if s = "id" then some .id
  else if s = "title" then some .title
  else if s = "author" then some .author
  else if s = "summary" then some .summary
  else none

/-- A column is found again by its name. -/
theorem ofName?_name (c : Column) : ofName? c.name = some c := by
  cases c <;> rfl

end Column

/-! ### Drafts -/

namespace Draft

/-- The names of the required texts that are missing: a blank text is none. -/
def missing (d : Draft) : List String :=
  (if Text.isBlankText d.title then ["title"] else []) ++
    (if Text.isBlankText d.author then ["author"] else [])

/-- A draft as JSON. -/
def toJson (d : Draft) : Json :=
  .object [("title", .text d.title), ("author", .text d.author), ("summary", .text d.summary)]

/-- A draft from JSON; what is left out is empty. -/
def decoder : Json.Decoder Draft :=
  .record "NewBook"
    [.free "title" .text fun s d => { d with title := s },
      .free "author" .text fun s d => { d with author := s },
      .free "summary" .text fun s d => { d with summary := s }]
    ⟨"", "", ""⟩

end Draft

/-! ### Revisions -/

namespace Revision

/-- The members of a text that may be absent. -/
def member (key : String) (s : Option String) : List (String × Json) :=
  s.toList.map fun s => (key, .text s)

/-- A revision as JSON. -/
def toJson (r : Revision) : Json :=
  .object (member "title" r.title ++ member "author" r.author ++ member "summary" r.summary)

/-- A revision from JSON. -/
def decoder : Json.Decoder Revision :=
  .record "BookChanges"
    [.free "title" (.optional .text) fun s r => { r with title := s },
      .free "author" (.optional .text) fun s r => { r with author := s },
      .free "summary" (.optional .text) fun s r => { r with summary := s }]
    ⟨none, none, none⟩

/-- A text after a change; an empty change changes nothing. -/
def amend (old : String) (change : Option String) : String :=
  match change with
  | none => old
  | some s => if s.isEmpty then old else s

/-- The book **after the revision**. -/
def apply (r : Revision) (b : Book) : Book where
  id := b.id
  title := amend b.title r.title
  author := amend b.author r.author
  summary := amend b.summary r.summary

end Revision

/-! ### Books -/

namespace Book

/-- The book of which nothing is known. -/
def blank : Book := ⟨0, "", "", ""⟩

/-- The member of a text that is shown unless it is empty. -/
def member (key s : String) : List (String × Json) :=
  if s.isEmpty then [] else [(key, .text s)]

/-- A book as JSON. -/
def toJson (b : Book) : Json :=
  .object <| (if b.id = 0 then [] else [("id", .integer b.id.toInt)]) ++
    member "title" b.title ++ member "author" b.author ++ member "summary" b.summary

/-- A book from JSON. -/
def decoder : Json.Decoder Book :=
  .record "Book"
    [.free "id" .int64 fun n b => { b with id := n },
      .free "title" .text fun s b => { b with title := s },
      .free "author" .text fun s b => { b with author := s },
      .free "summary" .text fun s b => { b with summary := s }]
    blank

end Book

end Catalogue
