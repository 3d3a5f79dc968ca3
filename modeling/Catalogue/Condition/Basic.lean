import Catalogue.Decimal.Layout
import Catalogue.Json.Printer

/-!
# Conditions

A `Catalogue.Condition` says which books a search is for. It is a tree: at its leaves stand
comparisons of a field with a value (`Catalogue.Predicate`), and its inner nodes
(`Catalogue.Node.group`) join the nodes below them by `AND` or `OR`, or negate one of them.

The tree as such promises nothing about the number of entries of a group or the kind of value under
a comparison; `Catalogue.Condition.Document` and `Catalogue.Condition.Builder` say what is made.
-/

namespace Catalogue

/-! ### Operators -/

/-- How a group **joins** its entries. -/
inductive Combinator where
  /-- All of them. -/
  | and
  /-- One of them. -/
  | or
  /-- Not the one there is. -/
  | not
  deriving DecidableEq

namespace Combinator

/-- The name of a combinator. -/
def name : Combinator → String
  | .and => "AND"
  | .or => "OR"
  | .not => "NOT"

/-- The combinator of a name. -/
def ofName? (s : String) : Option Combinator :=
  if s = "AND" then some .and else if s = "OR" then some .or else if s = "NOT" then some .not
  else none

/-- A combinator is found again by its name. -/
theorem ofName?_name (op : Combinator) : ofName? op.name = some op := by
  cases op <;> rfl

end Combinator

/-- How a predicate **compares** a field with a value. -/
inductive Comparison where
  /-- They are equal. -/
  | equal
  /-- The field matches the pattern. -/
  | like
  /-- The field matches the pattern, in whatever letter case. -/
  | ilike
  deriving DecidableEq

namespace Comparison

/-- The name of a comparison. -/
def name : Comparison → String
  | .equal => "="
  | .like => "LIKE"
  | .ilike => "ILIKE"

/-- The comparison of a name. -/
def ofName? (s : String) : Option Comparison :=
  if s = "=" then some .equal else if s = "LIKE" then some .like
  else if s = "ILIKE" then some .ilike
  else none

/-- A comparison is found again by its name. -/
theorem ofName?_name (op : Comparison) : ofName? op.name = some op := by
  cases op <;> rfl

/-- Patterns are text. -/
def requiresText : Comparison → Bool
  | .equal => false
  | .like => true
  | .ilike => true

end Comparison

/-! ### Values -/

/-- The **value** that a field is compared with. -/
inductive Operand where
  /-- A text. -/
  | text (s : String)
  /-- A whole number. -/
  | integer (n : Int64)
  /-- A floating-point number. -/
  | real (x : Float)

namespace Operand

/-- The text, of a text. -/
def text? : Operand → Option String
  | .text s => some s
  | _ => none

/-- A value as messages show it. -/
def display : Operand → String
  | .text s => Text.quote s
  | .integer n => String.ofList (Json.integerChars n.toInt)
  | .real x => Decimal.plain x

/-- A value as JSON. No JSON number stands for one that is not finite. -/
def toJson : Operand → Json
  | .text s => .text s
  | .integer n => .integer n.toInt
  | .real x => ((FiniteFloat.ofFloat? x).map Json.real).getD .null

/-- Two values are the same; numbers of different kinds never are. -/
def beq : Operand → Operand → Bool
  | .text s, .text t => s == t
  | .integer m, .integer n => m == n
  | .real x, .real y => x == y
  | _, _ => false

instance : BEq Operand := ⟨beq⟩

end Operand

/-! ### Trees -/

/-- A **predicate**: the comparison of a field with a value. -/
structure Predicate where
  /-- The field. -/
  field : String
  /-- The comparison. -/
  comparison : Comparison
  /-- The value. -/
  operand : Operand

/-- Two predicates are the same. -/
def Predicate.beq (p q : Predicate) : Bool :=
  p.field == q.field && decide (p.comparison = q.comparison) && p.operand == q.operand

instance : BEq Predicate := ⟨Predicate.beq⟩

/-- A **node** of a condition. -/
inductive Node where
  /-- A predicate. -/
  | leaf (p : Predicate)
  /-- Other nodes, joined. -/
  | group (op : Combinator) (entries : List Node)

/-- A **condition**: the outermost group. -/
structure Condition where
  /-- How its entries are joined. -/
  op : Combinator
  /-- Its entries. -/
  entries : List Node

namespace Node

mutual

/-- The predicates of a node, from left to right. -/
def predicates : Node → List Predicate
  | .leaf p => [p]
  | .group _ entries => predicatesOfList entries

/-- The predicates of nodes. -/
def predicatesOfList : List Node → List Predicate
  | [] => []
  | n :: rest => n.predicates ++ predicatesOfList rest

end

mutual

/-- Two nodes are the same. -/
def beq : Node → Node → Bool
  | .leaf p, .leaf q => p == q
  | .group op entries, .group op' entries' => decide (op = op') && beqList entries entries'
  | _, _ => false

/-- Two lists of nodes are the same. -/
def beqList : List Node → List Node → Bool
  | [], [] => true
  | n :: rest, n' :: rest' => n.beq n' && beqList rest rest'
  | _, _ => false

end

instance : BEq Node := ⟨beq⟩

end Node

namespace Condition

/-- A condition as a node of another. -/
def toNode (c : Condition) : Node := .group c.op c.entries

/-- A condition without entries, which every book satisfies. -/
def isEmpty (c : Condition) : Bool := c.entries.isEmpty

/-- The **predicates** of a condition, from left to right. -/
def predicates (c : Condition) : List Predicate := Node.predicatesOfList c.entries

/-- The fields of the predicates. -/
def fields (c : Condition) : List String := c.predicates.map (·.field)

instance : BEq Condition := ⟨fun c d => decide (c.op = d.op) && Node.beqList c.entries d.entries⟩

end Condition

end Catalogue
