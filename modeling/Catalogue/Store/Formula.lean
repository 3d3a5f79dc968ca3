import Catalogue.Store.Comparison

/-!
# Formulas

A condition as the database works with it: entries that say nothing are gone, and what the same word
joins stands side by side, however it was nested (`Catalogue.Store.Formula`).

Where one of the things that have to hold is that a column equals a value, the others need not look
at the column: what they say about it they say about the value (`Catalogue.Store.Formula.informed`).
What says nothing about any other column is then true or false of all rows alike.

The database checks a formula about a row from left to right and stops as soon as it is decided
(`Catalogue.Store.Formula.check`). This matters for one reason only: it gives up when it comes to a
pattern that is too long, and never notices a pattern that it does not come to.
-/

namespace Catalogue

namespace Store

/-- A **formula** about a row. -/
inductive Formula where
  /-- A predicate, and the value of its column, if that is known. -/
  | leaf (p : Predicate) (known : Option Operand)
  /-- All of them. -/
  | all (parts : List Formula)
  /-- One of them. -/
  | any (parts : List Formula)
  /-- Not this one. -/
  | not (f : Formula)

namespace Formula

/-! ### Making formulas -/

/-- What a formula says **all of**. -/
def conjuncts : Formula → List Formula
  | .all parts => parts
  | f => [f]

/-- What a formula says **one of**. -/
def disjuncts : Formula → List Formula
  | .any parts => parts
  | f => [f]

/-- A condition read as a formula. -/
def reading : Interpretation Formula where
  leaf := fun p => .leaf p none
  negated := .not
  both f g := .all (f.conjuncts ++ g.conjuncts)
  either f g := .any (f.disjuncts ++ g.disjuncts)

mutual

/-- The predicates of a formula, from left to right. -/
def predicates : Formula → List Predicate
  | .leaf p _ => [p]
  | .all parts => predicatesOfList parts
  | .any parts => predicatesOfList parts
  | .not f => f.predicates

/-- The predicates of formulas, from left to right. -/
def predicatesOfList : List Formula → List Predicate
  | [] => []
  | f :: rest => f.predicates ++ predicatesOfList rest

end

/-- A formula is about these columns only. -/
def isAbout (cs : List Column) (f : Formula) : Bool :=
  f.predicates.all fun p => (Column.ofName? p.field).any cs.contains

/-! ### Known values -/

/-- The column that a formula compares for equality, and the value. -/
def equation? : Formula → Option (Column × Operand)
  | .leaf p _ =>
    if p.comparison = .equal then (Column.ofName? p.field).map fun c => (c, p.operand) else none
  | _ => none

mutual

/-- A formula with the values of columns that are known. -/
def inform (known : List (Column × Operand)) : Formula → Formula
  | .leaf p _ =>
    .leaf p ((Column.ofName? p.field).bind fun c => (known.find? (·.1 = c)).map (·.2))
  | .all parts => .all (informList known parts)
  | .any parts => .any (informList known parts)
  | .not f => .not (f.inform known)

/-- Formulas with the values of columns that are known. -/
def informList (known : List (Column × Operand)) : List Formula → List Formula
  | [] => []
  | f :: rest => f.inform known :: informList known rest

end

/-- The equalities that make the values of columns known, with their places: the last one for each
column. -/
def keys (parts : List Formula) : List (Nat × Column × Operand) :=
  parts.zipIdx.foldr (fun (f, i) keys =>
    match f.equation? with
    | some (c, v) => if keys.any (·.2.1 = c) then keys else (i, c, v) :: keys
    | none => keys) []

/-- Formulas that all have to hold, with what they **know from each other**. -/
def informed (parts : List Formula) : List Formula :=
  let keys := keys parts
  let known := keys.map (·.2)
  parts.zipIdx.map fun (f, i) => if keys.any (·.1 = i) then f else f.inform known

/-- What a **condition** says all of; nothing, if it says nothing. -/
def ofCondition (c : Condition) : List Formula :=
  informed (((c.meaning reading).map conjuncts).getD [])

mutual

/-- A formula that is true or false of **all rows alike**. -/
def isConstant : Formula → Bool
  | .leaf _ known => known.isSome
  | .all parts => areConstant parts
  | .any parts => areConstant parts
  | .not f => f.isConstant

/-- Formulas that are true or false of all rows alike. -/
def areConstant : List Formula → Bool
  | [] => true
  | f :: rest => f.isConstant && areConstant rest

end

/-! ### Checking formulas -/

/-- A predicate compares with a pattern that is **too long**. -/
def hasLongPattern (p : Predicate) : Bool :=
  p.comparison ≠ .equal && ((Comparison.textOf? p.operand).map Pattern.tooLong).getD false

/-- The truth of a predicate about a **known value** of its column. A column of identifiers keeps
what is no whole number as a text. -/
def truthOf (v : Operand) (p : Predicate) : Truth :=
  match Comparison.textOf? v, Comparison.wholeOf? v with
  | none, _ => .unknown
  | some s, none => (⟨none, s, s, s⟩ : Row).predicate
      (if p.field = Column.id.name then { p with field := Column.title.name } else p)
  | some s, some n => (⟨some n, s, s, s⟩ : Row).predicate p

/-- Check a predicate: does it hold, or, if one is lenient, does it not fail? -/
def checkLeaf (truth : Predicate → Truth) (lenient : Bool) (p : Predicate)
    (known : Option Operand) : Option Bool :=
  let t := match known with
    | some v => truthOf v p
    | none => truth p
  if hasLongPattern p then none else some (if lenient then t ≠ .no else t = .yes)

mutual

/-- **Check a formula**, by the truth of predicates about a row: does it hold, or, if one is
lenient, does it not fail? None, if the database gives up on the way. -/
def check (truth : Predicate → Truth) (lenient : Bool) : Formula → Option Bool
  | .leaf p known => checkLeaf truth lenient p known
  | .all parts => checkAll truth lenient parts
  | .any parts => checkAny truth lenient parts
  | .not f => (f.check truth !lenient).map (!·)

/-- Check that all formulas hold, up to the first one that does not. -/
def checkAll (truth : Predicate → Truth) (lenient : Bool) : List Formula → Option Bool
  | [] => some true
  | f :: rest =>
    match f.check truth lenient with
    | some true => checkAll truth lenient rest
    | answer => answer

/-- Check that some formula holds, up to the first one that does. -/
def checkAny (truth : Predicate → Truth) (lenient : Bool) : List Formula → Option Bool
  | [] => some false
  | f :: rest =>
    match f.check truth lenient with
    | some false => checkAny truth lenient rest
    | answer => answer

end

end Formula

end Store

end Catalogue
