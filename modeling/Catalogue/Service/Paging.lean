import Catalogue.Decimal.Numeral
import Catalogue.Search
import Catalogue.Service.Fault
import Catalogue.Window
import Catalogue.Word

/-!
# What a client may ask of a list

A list is asked for with three parameters, all of them texts and all of them optional: a search and
the two numbers of a window. `Catalogue.Service.ListParams.window` reads the numbers and
`Catalogue.Service.ListParams.search` the search. A blank parameter counts as none.
-/

namespace Catalogue

namespace Service

/-- The **parameters of a list**. -/
structure ListParams where
  /-- A search, as a document. -/
  query : Option String
  /-- The number of rows to pass over. -/
  offset : Option String
  /-- The greatest number of rows to show. -/
  limit : Option String
  deriving DecidableEq

/-- How many rows are shown where a client does not say, and how many at most. -/
structure Limits where
  /-- The limit where none is asked for. -/
  standard : UInt64
  /-- The greatest limit. -/
  most : UInt64
  deriving DecidableEq

namespace ListParams

/-- No parameters. -/
def none : ListParams := ⟨.none, .none, .none⟩

/-- The parameters as JSON. -/
def toJson (p : ListParams) : Json :=
  .object (Revision.member "query" p.query ++ Revision.member "offset" p.offset ++
    Revision.member "limit" p.limit)

/-- The parameters from JSON. -/
def decoder : Json.Decoder ListParams :=
  .record "ListParams"
    [.free "query" (.optional .text) fun s p => { p with query := s },
      .free "offset" (.optional .text) fun s p => { p with offset := s },
      .free "limit" (.optional .text) fun s p => { p with limit := s }]
    none

/-! ### Counts -/

/-- The greatest number of rows that can be asked for. -/
def greatestCount : Nat := Word.half - 1

/-- The parameter without blanks around it, if anything is left. -/
def given? (s : Option String) : Option String :=
  match s.map Text.trim with
  | .none => .none
  | some t => if t.isEmpty then .none else some t

/-- A **number of rows**, if one is given. -/
def count? (name : String) (s : Option String) : Except Fault (Option Nat) :=
  match given? s with
  | .none => .ok .none
  | some t =>
    let refuse (why : String) : Except Fault (Option Nat) :=
      .error (.badRequest ("invalid " ++ name ++ " '" ++ t ++ "': " ++ why))
    match Numeral.nat? t with
    | .none => refuse "expected a non-negative integer"
    | some n =>
      if n ≤ greatestCount then .ok (some n)
      else if n < UInt64.size then refuse ("must not exceed " ++ toString greatestCount)
      else refuse "expected a non-negative integer"

/-- The **window** that is asked for. -/
def window (p : ListParams) (limits : Limits) : Except Fault Window :=
  match count? "offset" p.offset with
  | .error f => .error f
  | .ok offset =>
    match count? "limit" p.limit with
    | .error f => .error f
    | .ok limit =>
      .ok (Window.clamp ⟨offset.getD 0, limit.getD limits.standard.toNat⟩ limits.most.toNat)

/-- The **search** that is asked for; everything, if none is given. -/
def search (p : ListParams) : Except Fault Search :=
  match given? p.query with
  | .none => .ok .everything
  | some t =>
    match Search.ofText? t with
    | .error r => .error (.ofRejection r)
    | .ok s => .ok s

end ListParams

end Service

end Catalogue
