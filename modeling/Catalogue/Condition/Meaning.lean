import Catalogue.Condition.Basic

/-!
# What a condition means

A condition is interpreted by interpreting its predicates and saying what becomes of them under a
negation and between two entries (`Catalogue.Interpretation`). Two interpretations matter: the
**truth** of a condition about a row, with a third truth value for comparisons with what is missing
(`Catalogue.Truth`), and the **height** of the expression that a database has to build from it.

Entries without predicates have no meaning, and neither has a condition that consists of such
entries only.
-/

namespace Catalogue

/-! ### Truth -/

/-- A **truth value**. -/
inductive Truth where
  /-- It holds. -/
  | yes
  /-- It does not hold. -/
  | no
  /-- There is nothing to tell it by. -/
  | unknown
  deriving DecidableEq

namespace Truth

/-- The truth value of something decided. -/
def ofBool : Bool → Truth
  | true => .yes
  | false => .no

/-- The opposite. -/
def not : Truth → Truth
  | .yes => .no
  | .no => .yes
  | .unknown => .unknown

/-- Both hold. -/
def and : Truth → Truth → Truth
  | .no, _ => .no
  | _, .no => .no
  | .yes, .yes => .yes
  | _, _ => .unknown

/-- One of them holds. -/
def or : Truth → Truth → Truth
  | .yes, _ => .yes
  | _, .yes => .yes
  | .no, .no => .no
  | _, _ => .unknown

end Truth

/-! ### Interpretations -/

/-- An **interpretation** of conditions. -/
structure Interpretation (β : Type) where
  /-- What a predicate means. -/
  leaf : Predicate → β
  /-- What a negation means. -/
  negated : β → β
  /-- What two entries joined by `AND` mean. -/
  both : β → β → β
  /-- What two entries joined by `OR` mean. -/
  either : β → β → β

namespace Interpretation

variable {β : Type}

/-- What the entries of a group mean together. -/
def joined (i : Interpretation β) (op : Combinator) : β → β → β :=
  match op with
  | .or => i.either
  | _ => i.both

/-- What one more entry adds to the ones before it. -/
def add (i : Interpretation β) (op : Combinator) (before after : Option β) : Option β :=
  match before, after with
  | none, after => after
  | before, none => before
  | some a, some b => some (i.joined op a b)

end Interpretation

namespace Node

variable {β : Type}

mutual

/-- The **meaning** of a node. -/
def meaning (i : Interpretation β) : Node → Option β
  | .leaf p => some (i.leaf p)
  | .group .not entries => (meaningOfHead i entries).map i.negated
  | .group .and entries => meaningOfList i .and none entries
  | .group .or entries => meaningOfList i .or none entries

/-- The meaning of the first node. -/
def meaningOfHead (i : Interpretation β) : List Node → Option β
  | [] => none
  | n :: _ => n.meaning i

/-- The meaning of nodes behind others. -/
def meaningOfList (i : Interpretation β) (op : Combinator) :
    Option β → List Node → Option β
  | before, [] => before
  | before, n :: rest => meaningOfList i op (i.add op before (n.meaning i)) rest

end

end Node

/-- The **meaning of a condition**, if it has any predicate. -/
def Condition.meaning {β : Type} (i : Interpretation β) (c : Condition) : Option β :=
  c.toNode.meaning i

/-! ### The two interpretations -/

namespace Interpretation

/-- Truth, given the truth of the predicates. -/
def truth (leaf : Predicate → Truth) : Interpretation Truth := ⟨leaf, .not, .and, .or⟩

/-- The height of an expression. A comparison is two high, and three if it is made of functions of
both sides. -/
def height : Interpretation Nat where
  leaf p := if p.comparison = .ilike then 3 else 2
  negated n := n + 1
  both m n := max m n + 1
  either m n := max m n + 1

end Interpretation

end Catalogue
