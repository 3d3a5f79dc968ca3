import Catalogue.Store.Plan.Path

/-!
# Choosing a path

The database compares the paths twice. First it looks for the cheapest one, whatever the order in
which that leads to the rows. If an order is wanted (`Catalogue.Store.Plan.Wanted`), it then adds
what sorting costs to every path that does not lead to the rows in this order, where the number of
rows to sort is taken from the path found first. `Catalogue.Store.Plan.choose` is the path that is
followed in the end.
-/

namespace Catalogue

namespace Store

namespace Plan

/-- The **order in which rows are wanted**, and what else makes a difference for sorting. -/
structure Wanted where
  /-- The column that the order goes by. -/
  column : Column
  /-- The greatest values come first. -/
  descending : Bool
  /-- How many columns are shown. -/
  width : Nat
  /-- How many rows are shown, if the number is small enough to be taken into account. -/
  limit : Option Nat

/-! ### Orders -/

/-- A path in an index that goes by the wanted column. -/
def Way.follows (w : Wanted) : Way → Bool
  | .scan ix => ix.column = some w.column
  | .seek ix _ => ix.column = some w.column
  | .union _ => false

/-- A path leads to the rows **in the wanted order**: there is only one, or all are equal in the
column, or the path follows an index that goes by it. -/
def Way.isOrdered (parts : List Formula) (w : Wanted) (way : Way) : Bool :=
  let allEqual := parts.any fun f => equated? f = some w.column
  match way with
  | .scan _ => allEqual || way.follows w
  | .seek _ l => l.extent = .one || allEqual || way.follows w
  | .union _ => false

/-- What **sorting** costs, for so many rows. -/
def sortingCost (w : Wanted) (rows : Cost) : Cost :=
  let rows := if rows < 0 then 1 else rows + 1
  rows + costOf ((w.width + 59) / 30) +
    match w.limit with
    | none => depth rows
    | some n => 10 + depth (min (costOf n) rows)

/-! ### Candidates -/

/-- The paths that are tried, in their order. Rows are walked through in the order of an index that
is not the table only if this is the wanted order. -/
def paths (t : Table) (parts : List Formula) (wanted : Option Wanted) : List Path :=
  (Index.all t).flatMap (fun ix =>
    (if ix.isTable ∨ ix.column = wanted.map (·.column) then [scan parts ix] else []) ++
      seeks t parts ix) ++
    unions t parts

/-- A path is at least as good as another. -/
def Path.atLeast (p q : Path) : Bool := p.cost ≤ q.cost && p.rows ≤ q.rows

/-- Add a path to others, unless one of these is at least as good; those that it is at least as good
as give way. Paths in different orders are not compared. -/
def insert (sameOrder : Path → Path → Bool) (p : Path) : List Path → List Path
  | [] => [p]
  | q :: rest =>
    if !sameOrder p q then q :: insert sameOrder p rest
    else if q.atLeast p then q :: rest
    else if p.atLeast q then p :: rest.filter fun r => !(sameOrder p r && p.atLeast r)
    else q :: insert sameOrder p rest

/-- The paths that no other one makes pointless. -/
def candidates (t : Table) (parts : List Formula) (wanted : Option Wanted) : List Path :=
  let follows (p : Path) : Bool := (wanted.map fun w => p.way.follows w).getD false
  (paths t parts wanted).foldl (fun ps p => insert (fun p q => follows p == follows q) p ps) []

/-! ### The choice -/

/-- The first path that costs least, and among those the one that leads to the fewest rows. -/
def cheapest (cost : Path → Cost) (ps : List Path) (otherwise : Path) : Path :=
  (ps.foldl (fun best p =>
    match best with
    | none => some p
    | some b =>
      if cost p < cost b ∨ (cost p = cost b ∧ p.rows < b.rows) then some p else some b) none).getD
    otherwise

/-- A path to what a column is limited to by its values. -/
def Way.isLookup : Way → Bool
  | .seek _ l => l.extent ≠ .nothing
  | _ => false

/-- The **path that is followed**. If the cheapest one looks something up, only paths of this kind
are compared once more. -/
def choose (t : Table) (parts : List Formula) (wanted : Option Wanted) : Path :=
  let ps := candidates t parts wanted
  let first := cheapest (·.cost) ps (scan parts (.ofTable t))
  match wanted with
  | none => first
  | some w =>
    let sorting := sortingCost w first.rows
    let ps := if first.way.isLookup then
        ps.filter fun p => match p.way with
          | .seek _ _ => true
          | _ => false
      else ps
    cheapest
      (fun p => if p.way.isOrdered parts w then p.cost else together p.cost sorting + 3) ps first

end Plan

end Store

end Catalogue
