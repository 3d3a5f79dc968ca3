/-!
# Costs

The database compares ways of finding rows by what they are expected to cost. A
`Catalogue.Store.Plan.Cost` is ten times the logarithm of a number of steps to the base 2, rounded,
so that costs of steps within steps are added up, and `Catalogue.Store.Plan.together` is the cost of
steps after steps.
-/

namespace Catalogue

namespace Store

namespace Plan

/-- A **cost**, or a number of rows: ten times a logarithm to the base 2. -/
abbrev Cost := Int

/-- What the three binary digits behind the first one add to a logarithm. -/
def eighths : List Cost := [0, 2, 3, 5, 6, 7, 8, 9]

/-- The cost of **so many** steps. -/
def costOf (n : Nat) : Cost :=
  10 * n.log2 + eighths.getD (n * 8 / Nat.pow 2 n.log2 - 8) 0

/-- What a smaller cost adds to a greater one, by how far it is below that. -/
def gains : List (Nat × Cost) :=
  [(1, 10), (3, 9), (5, 8), (8, 7), (11, 6), (14, 5), (18, 4), (24, 3), (31, 2), (49, 1)]

/-- The cost of two things **together**. -/
def together (a b : Cost) : Cost :=
  max a b + ((gains.find? fun g => (a - b).natAbs ≤ g.1).map (·.2)).getD 0

/-- The cost of a search in so many rows, if these are sorted. -/
def depth (rows : Cost) : Cost := if rows ≤ 10 then 0 else costOf rows.toNat - 33

/-- It does not matter which of two things comes first. -/
theorem together_comm (a b : Cost) : together a b = together b a := by
  simp only [together, Int.max_comm a b, show (a - b).natAbs = (b - a).natAbs by omega]

end Plan

end Store

end Catalogue
