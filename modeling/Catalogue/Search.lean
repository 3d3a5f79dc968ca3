import Catalogue.Book
import Catalogue.Condition.Builder
import Catalogue.Condition.Document

/-!
# Searches

A `Catalogue.Search` says which books are wanted, which of their columns, and in which order. As a
document it is an object with the members `select`, `where` and `order_by`, each of which may be
left out. Its condition is judged before its other members.
-/

namespace Catalogue

/-- The **order** of a search: a column, and whether its greatest values come first. -/
structure SortKey where
  /-- The column. -/
  field : String
  /-- The greatest values come first. -/
  descending : Bool
  deriving DecidableEq

namespace SortKey

/-- An order as JSON. -/
def toJson (k : SortKey) : Json :=
  .object [("field", .text k.field), ("desc", .bool k.descending)]

/-- An order from JSON. -/
def decoder : Json.Decoder SortKey :=
  .record "OrderBy"
    [.required "field" .text fun s k => { k with field := s },
      .free "desc" .flag fun b k => { k with descending := b }]
    ⟨"", false⟩

end SortKey

/-- A **search**. -/
structure Search where
  /-- The columns that are wanted; all of them unless some are named. -/
  select : Option (List String)
  /-- The books that are wanted. -/
  condition : Condition
  /-- The order in which they are wanted. -/
  order : Option SortKey

namespace Search

/-- The search for **everything**. -/
def everything : Search := ⟨none, .empty, none⟩

/-- Two searches are the same. -/
def beq (s t : Search) : Bool :=
  decide (s.select = t.select) && s.condition == t.condition && decide (s.order = t.order)

instance : BEq Search := ⟨beq⟩

/-- The order, if it names a column. -/
def order? (s : Search) : Option SortKey := s.order.filter fun k => !k.field.isEmpty

/-- The columns that are shown, if some are named. -/
def shown (s : Search) : List String := s.select.getD []

/-- Every **column that the search speaks of**. -/
def columns (s : Search) : List String :=
  s.shown ++ s.condition.fields ++ (s.order?.map (·.field)).toList

/-! ### Documents -/

/-- A search as a document. An empty condition is left out. -/
def toJson (s : Search) : Json :=
  .object <|
    (s.select.map fun cs => ("select", Json.array (cs.map .text))).toList ++
    (if s.condition.isEmpty then [] else [("where", s.condition.toJson)]) ++
    (s.order.map fun k => ("order_by", k.toJson)).toList

/-- The **text** of a search. -/
def toText (s : Search) : String := s.toJson.compact

/-- What a document says besides its condition. -/
def decoder : Json.Decoder Search :=
  .record "QueryParts"
    [.free "select" (.optional (.list .text)) fun cs s => { s with select := cs },
      .free "order_by" (.optional SortKey.decoder) fun k s => { s with order := k }]
    everything

/-- The condition of a document; none, or `null`, is the empty one. -/
def conditionOf (members : List (String × Json)) : Except Rejection Condition :=
  match Json.member? "where" members with
  | none => .ok .empty
  | some .null => .ok .empty
  | some j => Condition.ofJson? j

/-- Read a **search from a document**. -/
def ofJson? : Json → Except Rejection Search
  | .object members =>
    match conditionOf members with
    | .error r => .error r
    | .ok c =>
      match decoder.ofValue (.object members) with
      | .error f => .error (.ofFault f)
      | .ok s => .ok { s with condition := c }
  | j => .error (.malformed (.notObject j.compact))

/-- Read a search from symbols. -/
def ofSymbols? (symbols : List Symbol) : Except Rejection Search :=
  match Json.ofSymbols? symbols with
  | .error f => .error (.ofFault f)
  | .ok j => ofJson? j

/-- Read a **search from a text**. -/
def ofText? (s : String) : Except Rejection Search := ofSymbols? (Symbol.ofText s)

end Search

end Catalogue
