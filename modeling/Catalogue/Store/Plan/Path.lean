import Catalogue.Store.Formula
import Catalogue.Store.Plan.Cost
import Catalogue.Store.Table

/-!
# Paths to the rows

There are several ways to come by the rows that a formula is true of (`Catalogue.Store.Plan.Path`):
the database walks through all rows in the order of an index, it looks up in an index what a part of
the formula limits a column to, or it follows the alternatives of a part one after another. This
module says which paths there are and what the database expects of them; it knows nothing of the
rows in the table and assumes a million.
-/

namespace Catalogue

namespace Store

namespace Plan

/-! ### Indexes -/

/-- How many rows the database assumes in a table that it knows nothing about. -/
def tableSize : Cost := 200

/-- An **index**: an order of the rows in which they can be walked through and looked up. -/
structure Index where
  /-- The column that the order goes by; none for the order in which rows were added. -/
  column : Option Column
  /-- It is the table itself, and not a list of places in it. -/
  isTable : Bool
  /-- The cost of a step. -/
  step : Cost
  deriving DecidableEq

namespace Index

/-- The order in which rows were added. It goes by their identifiers, if the table gives these. -/
def ofTable (t : Table) : Index := ⟨if t.givesIds then some .id else none, true, 16⟩

/-- The order of titles. -/
def ofTitles : Index := ⟨some .title, false, 12⟩

/-- The order of identifiers that the table does not give. -/
def ofIds : Index := ⟨some .id, false, 8⟩

/-- The columns whose values are in an index. A list of places in the table has the identifiers
besides, if the table gives them. -/
def columns (t : Table) (ix : Index) : List Column :=
  ix.column.toList ++ if t.givesIds then [.id] else []

/-- The indexes of a table. -/
def all (t : Table) : List Index := ofTable t :: ofTitles :: if t.givesIds then [] else [ofIds]

/-- The cost of looking rows up. -/
def seek (ix : Index) (rows : Cost) : Cost :=
  let walk := together (depth tableSize) (rows + ix.step)
  if ix.isTable then walk else together walk (rows + 16)

/-- The cost of walking through all rows. -/
def scan (ix : Index) : Cost :=
  if ix.isTable then tableSize + ix.step else together (tableSize + ix.step) (tableSize + 16)

/-- The rows in the order of an index. -/
def arrange (ix : Index) (rows : List Row) : List Row :=
  if ix.column = some .title then rows.mergeSort (Table.atMost .title) else rows

end Index

/-! ### What a part of a formula limits a column to -/

/-- The column that a formula compares for equality. -/
def equated? (f : Formula) : Option Column := f.equation?.map (·.1)

/-- The column that all of a list of alternatives compare for equality. -/
def commonColumn? (alternatives : List Formula) : Option Column :=
  match alternatives.map equated? with
  | some c :: rest => if rest.all (· = some c) then some c else none
  | _ => none

/-- What a pattern begins with before anything else is allowed, and whether anything may follow. -/
def opening (pattern : String) : List Char × Bool :=
  let cs := Pattern.visible pattern
  let isWild (c : Char) : Bool := c = '%' || c = '_'
  (cs.takeWhile (!isWild ·), cs.dropWhile (!isWild ·) = ['%'])

/-- Texts that begin like this, or like what comes next in the order of texts, may be numbers. -/
def mayBeNumber (opening : List Char) : Bool :=
  let next := opening.dropLast ++ (opening.getLast?.map fun c => Char.ofNat (c.toNat + 1)).toList
  Comparison.isNumeral opening || opening = ['-'] || Comparison.isNumeral next

/-- The column that a formula compares with a pattern whose beginning is known, and whether that is
all there is to the pattern. A number is compared with a pattern in this way only if no number
begins like that. -/
def opened? : Formula → Option (Column × Bool)
  | .leaf p _ =>
    match p.comparison, Column.ofName? p.field, p.operand with
    | .like, some c, .text s =>
      let (start, free) := opening s
      if start = [] ∨ (c = .id ∧ mayBeNumber start) then none
      else some (c, free && start.getLast? ≠ some '@')
    | _, _, _ => none
  | _ => none

/-- What a column is **limited to**. -/
inductive Extent where
  /-- One value. -/
  | one
  /-- One of so many values. -/
  | among (n : Nat)
  /-- No value at all. -/
  | nothing
  deriving DecidableEq

/-- A **limit** to a column. -/
structure Limit where
  /-- The column. -/
  column : Column
  /-- What it is limited to. -/
  extent : Extent
  /-- The part of the formula that says nothing else. -/
  part : Option Nat
  deriving DecidableEq

/-- The limit that a part sets by an equality. -/
def plainLimit? (f : Formula) (i : Nat) : Option Limit :=
  (equated? f).map fun c => ⟨c, .one, some i⟩

/-- The limit that a part sets in another way. A pattern for identifiers that no number matches
leaves nothing, if identifiers are numbers. -/
def otherLimit? (t : Table) (f : Formula) (i : Nat) : Option Limit :=
  match f with
  | .any alternatives =>
    (commonColumn? alternatives).map fun c => ⟨c, .among alternatives.length, some i⟩
  | f =>
    match opened? f with
    | some (.id, whole) =>
      if t.givesIds then some ⟨.id, .nothing, if whole then some i else none⟩ else none
    | _ => none

/-- The limits that the parts of a formula set, in the order in which they are tried. -/
def limits (t : Table) (parts : List Formula) : List Limit :=
  parts.zipIdx.filterMap (fun (f, i) => plainLimit? f i) ++
    (parts.zipIdx.filterMap fun (f, i) => otherLimit? t f i).reverse

/-! ### Paths -/

/-- A **way to the rows**. -/
inductive Way where
  /-- Through all rows in the order of an index. -/
  | scan (ix : Index)
  /-- To what a column is limited to, in the order of an index. -/
  | seek (ix : Index) (l : Limit)
  /-- Along the alternatives of a part. -/
  | union (part : Nat)
  deriving DecidableEq

/-- What the database **expects** of a path. -/
structure Estimate where
  /-- The cost. -/
  cost : Cost
  /-- The rows. -/
  rows : Cost
  deriving DecidableEq

/-- A **path** to the rows. -/
structure Path extends Estimate where
  /-- The way. -/
  way : Way
  deriving DecidableEq

/-- The parts of a formula but one. -/
def others (parts : List Formula) (used : Option Nat) : List Formula :=
  (parts.zipIdx.filter fun (_, i) => some i ≠ used).map (·.1)

/-- How many of the rows that a path leads to are expected to be left by the parts that it makes no
use of. What is true or false of all rows alike does not count. -/
def expected (parts : List Formula) (used : Option Nat) (rows : Cost) : Cost :=
  let left := (others parts used).filter (!·.isConstant)
  min (rows - left.length) (tableSize - if left.any fun f => (equated? f).isSome then 20 else 0)

/-- The path through all rows. -/
def scan (parts : List Formula) (ix : Index) : Path :=
  ⟨⟨ix.scan, expected parts none tableSize⟩, .scan ix⟩

/-- The path to what a column is limited to. -/
def seek (parts : List Formula) (ix : Index) (l : Limit) : Path :=
  match l.extent with
  | .one => ⟨⟨ix.seek 0, expected parts l.part 0⟩, .seek ix l⟩
  | .among n => ⟨⟨ix.seek 0 + costOf n, expected parts l.part (costOf n)⟩, .seek ix l⟩
  | .nothing => ⟨⟨ix.seek (tableSize - 60), expected parts l.part (tableSize - 60)⟩, .seek ix l⟩

/-- The paths to what columns are limited to, in the order of an index. -/
def seeks (t : Table) (parts : List Formula) (ix : Index) : List Path :=
  ((limits t parts).filter fun l => ix.column = some l.column).map (seek parts ix)

/-! ### Alternatives -/

/-- The least cost, and the least number of rows among the paths tried on the way to it. -/
def least (es : List Estimate) : Option Estimate :=
  es.foldl (fun best e =>
    match best with
    | none => some e
    | some b => if e.cost ≤ b.cost then some ⟨e.cost, min b.rows e.rows⟩ else some b) none

/-- Some part limits a column, whether there is an index for it or not. -/
def limitsSomething (parts : List Formula) : Bool :=
  parts.any fun f =>
    (equated? f).isSome || (opened? f).isSome ||
      match f with
      | .any alternatives => (commonColumn? alternatives).isSome
      | _ => false

/-- The estimates of the paths to what columns are limited to, for parts that limit something. -/
def seekEstimates (t : Table) (parts : List Formula) : List Estimate :=
  ((Index.all t).flatMap (seeks t parts)).map (·.toEstimate)

mutual

/-- What is expected of **following alternatives**; there has to be a path for each of them. -/
def unionEstimate? (t : Table) : Formula → Option Estimate
  | .any alternatives =>
    (sumEstimate? t none alternatives).map fun e => ⟨e.cost + 1, e.rows⟩
  | _ => none

/-- What is expected of following alternatives behind others. -/
def sumEstimate? (t : Table) (sum : Option Estimate) : List Formula → Option Estimate
  | [] => sum
  | f :: rest =>
    match alternativeEstimate? t f with
    | none => none
    | some e =>
      let sum := match sum with
        | none => e
        | some s => ⟨together s.cost e.cost, together s.rows e.rows⟩
      sumEstimate? t (some sum) rest

/-- What is expected of the best path for an alternative, short of going through all rows. -/
def alternativeEstimate? (t : Table) : Formula → Option Estimate
  | .all parts =>
    if limitsSomething parts then least (seekEstimates t parts ++ unionEstimates t parts) else none
  | f => if limitsSomething [f] then least (seekEstimates t [f]) else none

/-- What is expected of following the alternatives of each part that has some. -/
def unionEstimates (t : Table) : List Formula → List Estimate
  | [] => []
  | f :: rest => (unionEstimate? t f).toList ++ unionEstimates t rest

end

/-- The paths along the alternatives of parts. -/
def unions (t : Table) (parts : List Formula) : List Path :=
  parts.zipIdx.filterMap fun (f, i) => (unionEstimate? t f).map fun e => ⟨e, .union i⟩

end Plan

end Store

end Catalogue
