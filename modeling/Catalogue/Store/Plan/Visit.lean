import Catalogue.Store.Plan.Choice

/-!
# Following a path

The rows that satisfy a formula come in the order in which the path to them leads
(`Catalogue.Store.Plan.arrange`). This order shows wherever the wanted order does not decide.

The path also decides which rows are looked at, and so whether the database comes to a pattern that
is too long: `Catalogue.Store.Plan.givesUp` follows the path and looks.
-/

namespace Catalogue

namespace Store

namespace Plan

/-- A path is followed **backwards**. -/
def isBackwards (wanted : Option Wanted) (way : Way) : Bool :=
  (wanted.map fun w => w.descending && way.follows w).getD false

/-- Rows in the order of an index, perhaps backwards. -/
def walk (ix : Index) (backwards : Bool) (rows : List Row) : List Row :=
  if backwards then (ix.arrange rows).reverse else ix.arrange rows

/-- What has to hold along an alternative of a part: the alternative, and all other parts that are
equalities or have alternatives themselves, unless they are true or false of all rows alike. -/
def along (parts : List Formula) (part : Nat) (alternative : Formula) : List Formula :=
  alternative.conjuncts ++ (others parts (some part)).filter fun f =>
    !f.isConstant && match f with
      | .any _ => true
      | f => (equated? f).isSome

/-- The alternatives of a part. -/
def alternatives (parts : List Formula) (part : Nat) : List Formula :=
  (parts[part]?.map Formula.disjuncts).getD []

/-! ### The order of rows -/

/-- Rows along **alternatives one after another**, where no row is met twice: each alternative leads
to the rows that it holds of, in an order of its own. -/
def inTurn (arrange : Formula → List Row → List Row) : List Formula → List Row → List Row
  | [], rows => rows
  | f :: rest, rows =>
    let holds (r : Row) : Bool := f.check r.predicate false = some true
    arrange f (rows.filter holds) ++ inTurn arrange rest (rows.filter (!holds ·))

/-- **Rows in the order in which a path leads to them**, if they satisfy the formula. With `fuel`
for every level of alternatives. -/
def arrange (t : Table) : Nat → List Formula → Option Wanted → List Row → List Row
  | 0, _, _, rows => rows
  | fuel + 1, parts, wanted, rows =>
    match (choose t parts wanted).way with
    | .scan ix => walk ix (isBackwards wanted (.scan ix)) rows
    | .seek ix l => walk ix (isBackwards wanted (.seek ix l)) rows
    | .union part =>
      inTurn (fun f => arrange t fuel (along parts part f) none) (alternatives parts part) rows

/-- A path in an index leads to all rows, whichever way it is followed. -/
theorem walk_perm (ix : Index) (backwards : Bool) (rows : List Row) :
    (walk ix backwards rows).Perm rows := by
  have h : (ix.arrange rows).Perm rows := by
    unfold Index.arrange
    split
    · exact List.mergeSort_perm rows _
    · exact .refl rows
  unfold walk
  split
  · exact (List.reverse_perm _).trans h
  · exact h

/-- Alternatives lead to all rows, if each of them leads to all that it holds of. -/
theorem inTurn_perm {arrange : Formula → List Row → List Row}
    (h : ∀ f rows, (arrange f rows).Perm rows) (fs : List Formula) (rows : List Row) :
    (inTurn arrange fs rows).Perm rows := by
  induction fs generalizing rows with
  | nil => exact .refl rows
  | cons f fs ih => exact ((h _ _).append (ih _)).trans (List.filter_append_perm _ rows)

/-- A path changes **nothing but the order** of the rows. -/
theorem arrange_perm (t : Table) (fuel : Nat) (parts : List Formula) (wanted : Option Wanted)
    (rows : List Row) : (arrange t fuel parts wanted rows).Perm rows := by
  induction fuel generalizing parts wanted rows with
  | zero => exact .refl rows
  | succ fuel ih =>
    rw [arrange]
    split
    · exact walk_perm ..
    · exact walk_perm ..
    · exact inTurn_perm (fun _ _ => ih _ _ _) _ rows

/-! ### Giving up -/

/-- The first rows that formulas hold of, so many of them as are needed; none, if the database gives
up on the way. -/
def keep? (parts : List Formula) : Nat → List Row → Option (List Row)
  | 0, _ => some []
  | _, [] => some []
  | needed + 1, r :: rest =>
    match Formula.checkAll r.predicate false parts with
    | none => none
    | some true => (keep? parts needed rest).map (r :: ·)
    | some false => keep? parts (needed + 1) rest

/-- The parts of a formula in the order in which they are checked on a path: what can be checked by
an index alone comes before the rest. -/
def checks (t : Table) (ix : Index) (parts : List Formula) : List Formula :=
  if ix.isTable then parts
  else
    parts.filter (·.isAbout (ix.columns t)) ++ parts.filter (!·.isAbout (ix.columns t))

/-- The rows that a path leads to and that formulas hold of, so many of them as are needed; none, if
the database gives up on the way. What is true or false of all rows alike is checked first, and
once. With `fuel` for every level of alternatives. -/
def survey? (t : Table) (needed : Nat) :
    Nat → List Formula → Option Wanted → Option (List Row)
  | 0, parts, _ => keep? parts needed t.rows
  | fuel + 1, parts, wanted =>
    match Formula.checkAll (fun _ => .unknown) false (parts.filter (·.isConstant)) with
    | none => none
    | some false => some []
    | some true =>
      let way := (choose t parts wanted).way
      let left (used : Option Nat) : List Formula := (others parts used).filter (!·.isConstant)
      match way with
      | .scan ix =>
        keep? (checks t ix (left none)) needed (walk ix (isBackwards wanted way) t.rows)
      | .seek ix l =>
        let reached := t.rows.filter fun r =>
          l.extent ≠ .nothing &&
            (l.part.bind (parts[·]?)).any fun f =>
              (f.inform []).check r.predicate false = some true
        keep? (checks t ix (left l.part)) needed (walk ix (isBackwards wanted way) reached)
      | .union part =>
        match (alternatives parts part).mapM fun f =>
            survey? t t.rows.length fuel (along parts part f) none with
        | none => none
        | some found =>
          keep? (left (some part)) needed
            (found.flatten.foldl (fun met r => met.insert r) []).reverse

/-- The database **gives up** on its way to the rows that formulas hold of, so many of them as are
needed in the wanted order. If they have to be sorted, all are needed. -/
def givesUp (t : Table) (parts : List Formula) (wanted : Option Wanted) (needed : Nat) : Bool :=
  let ordered := (wanted.map fun w => (choose t parts wanted).way.isOrdered parts w).getD true
  (Formula.predicatesOfList parts).any Formula.hasLongPattern &&
    (survey? t (if ordered then needed else t.rows.length)
      ((Formula.predicatesOfList parts).length + 1) parts wanted).isNone

end Plan

end Store

end Catalogue
