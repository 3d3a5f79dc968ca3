import Catalogue.Book

/-!
# Replies

The JSON documents that the service answers with: one thing (`Catalogue.Service.Item`), a part of a
list together with the length of the whole (`Catalogue.Service.Listing`), and the report of an error
(`Catalogue.Service.Report`).
-/

namespace Catalogue

namespace Service

/-! ### One thing -/

/-- **One thing**. -/
structure Item (α : Type) where
  /-- The thing. -/
  data : α
  deriving DecidableEq

namespace Item

variable {α : Type}

/-- A thing as JSON. -/
def toJson (encode : α → Json) (i : Item α) : Json := .object [("data", encode i.data)]

/-- A thing from JSON. The record is put together from nothing, so that its field has to be
there. -/
def decoder (d : Json.Decoder α) (nothing : α) : Json.Decoder (Item α) :=
  .record "ItemResponse" [.required "data" d fun a _ => ⟨a⟩] ⟨nothing⟩

end Item

/-! ### Lists -/

/-- A **part of a list**. -/
structure Listing (α : Type) where
  /-- The length of the whole list. -/
  count : Nat
  /-- The part. -/
  data : List α
  deriving DecidableEq

namespace Listing

variable {α : Type}

/-- A part of a list as JSON. -/
def toJson (encode : α → Json) (l : Listing α) : Json :=
  .object [("count", .integer l.count), ("data", .array (l.data.map encode))]

/-- A part of a list from JSON. -/
def decoder (d : Json.Decoder α) : Json.Decoder (Listing α) :=
  .record "ListResponse"
    [.required "count" .nat64 fun n l => { l with count := n.toNat },
      .required "data" (.list d) fun as l => { l with data := as }]
    ⟨0, []⟩

end Listing

/-! ### Reports -/

/-- The **report of an error**. -/
structure Report where
  /-- What to say about it. -/
  error : String
  /-- A word for its kind. -/
  code : Option String
  /-- The status of the response that carries it. -/
  status : UInt16
  deriving DecidableEq

namespace Report

/-- A report as JSON. -/
def toJson (r : Report) : Json :=
  .object <| ("error", .text r.error) :: (r.code.map fun c => ("code", Json.text c)).toList ++
    [("status", .integer r.status.toNat)]

/-- A report from JSON. The word for the kind may be `null`, and only an object may leave it out. -/
def decoder : Json.Decoder Report :=
  .record "ErrorResponse"
    [.required "error" .text fun s r => { r with error := s },
      .of "code" (.optional .text) (fun c r => { r with code := c }) false true,
      .required "status" .nat16 fun n r => { r with status := n }]
    ⟨"", none, 0⟩

end Report

end Service

end Catalogue
