import Catalogue.Condition.Basic

/-!
# Conditions as SQL

The boolean expression that a condition stands for is written twice over. First comes its
`Catalogue.Condition.template`, a list of `Catalogue.Piece`s: the predicates in their order, and
between them the words and parentheses that join them. The template is the same for every database.
Then a `Catalogue.Rendering` fills in what databases disagree about, the placeholders of the values
and the comparison without regard to letter case, and `Catalogue.Condition.compile` puts text and
values together.

Entries that hold no predicate vanish from the template, together with the word that would join
them.
-/

namespace Catalogue

/-! ### Templates -/

/-- A **piece** of a boolean expression. -/
inductive Piece where
  /-- The place of a predicate. -/
  | slot (p : Predicate)
  /-- The word `AND`. -/
  | and
  /-- The word `OR`. -/
  | or
  /-- The word `NOT`. -/
  | not
  /-- An opening parenthesis. -/
  | opened
  /-- A closing parenthesis. -/
  | closed

/-- The predicate of a slot. -/
def Piece.predicate? : Piece → Option Predicate
  | .slot p => some p
  | _ => none

/-- The word between the entries of a group. -/
def Combinator.piece : Combinator → Piece
  | .or => .or
  | _ => .and

namespace Template

/-- Pieces in parentheses, unless there are none. -/
def enclose (ps : List Piece) : List Piece :=
  if ps.isEmpty then [] else .opened :: ps ++ [.closed]

/-- The negation of pieces, unless there are none. -/
def negate (ps : List Piece) : List Piece :=
  if ps.isEmpty then [] else .not :: enclose ps

/-- Two lists of pieces with a word between them, unless one of them is empty. -/
def join (word : Piece) (ps qs : List Piece) : List Piece :=
  if ps.isEmpty then qs else if qs.isEmpty then ps else ps ++ word :: qs

end Template

namespace Node

/-- A group that is written in parentheses when it is an entry of another. -/
def needsParentheses : Node → Bool
  | .leaf _ => false
  | .group op _ => op ≠ .not

/-- The pieces of a node that is an entry, from its pieces as they are. -/
def asEntry (n : Node) (ps : List Piece) : List Piece :=
  if n.needsParentheses then Template.enclose ps else ps

mutual

/-- The **pieces** of a node that stands alone. A negation looks at its first entry only. -/
def pieces : Node → List Piece
  | .leaf p => [.slot p]
  | .group .not entries => Template.negate (piecesOfHead entries)
  | .group .and entries => piecesOfList .and entries
  | .group .or entries => piecesOfList .or entries

/-- The pieces of the first node. -/
def piecesOfHead : List Node → List Piece
  | [] => []
  | n :: _ => n.pieces

/-- The pieces of nodes, with a word between them. -/
def piecesOfList (word : Piece) : List Node → List Piece
  | [] => []
  | n :: rest => Template.join word (n.asEntry n.pieces) (piecesOfList word rest)

end

end Node

/-- The **template** of a condition. -/
def Condition.template (c : Condition) : List Piece := c.toNode.pieces

/-! ### Renderings -/

/-- How a database **marks the place of a value**. -/
inductive Placeholder where
  /-- By a question mark. -/
  | question
  /-- By a dollar sign and the number of the value. -/
  | numbered
  deriving DecidableEq

/-- The placeholder of the `n`-th value. -/
def Placeholder.text : Placeholder → Nat → String
  | .question, _ => "?"
  | .numbered, n => "$" ++ String.ofList (Nat.toDigits 10 n)

/-- How a comparison **without regard to letter case** is written. -/
inductive CaseFolding where
  /-- By an operator of the database. -/
  | native
  /-- By comparing both sides in lower case. -/
  | lowered
  deriving DecidableEq

/-- What a database wants to see in a boolean expression. -/
structure Rendering where
  /-- The placeholders. -/
  placeholder : Placeholder
  /-- The comparison without regard to letter case. -/
  folding : CaseFolding
  deriving DecidableEq

namespace Rendering

/-- A predicate whose value is the `n`-th. -/
def predicate (r : Rendering) (n : Nat) (p : Predicate) : String :=
  let mark := r.placeholder.text n
  if p.comparison = .ilike ∧ r.folding = .lowered then
    "LOWER(" ++ p.field ++ ") LIKE LOWER(" ++ mark ++ ")"
  else p.field ++ " " ++ p.comparison.name ++ " " ++ mark

/-- The text of a template whose first value is the `n`-th. -/
def fill (r : Rendering) : Nat → List Piece → String
  | _, [] => ""
  | n, .slot p :: ps => r.predicate n p ++ r.fill (n + 1) ps
  | n, .and :: ps => " AND " ++ r.fill n ps
  | n, .or :: ps => " OR " ++ r.fill n ps
  | n, .not :: ps => "NOT " ++ r.fill n ps
  | n, .opened :: ps => "(" ++ r.fill n ps
  | n, .closed :: ps => ")" ++ r.fill n ps

end Rendering

/-! ### The expression with its values -/

/-- A **boolean expression with the values** of its placeholders. -/
structure Clause where
  /-- The expression; empty if there is nothing to check. -/
  text : String
  /-- The values, in the order of the placeholders. -/
  values : List Operand

/-- The part of a statement that filters rows, with a space before it, or nothing. -/
def Clause.filter (c : Clause) : String :=
  if c.text.isEmpty then "" else " WHERE " ++ c.text

/-- The **expression of a condition**. -/
def Condition.compile (c : Condition) (r : Rendering) : Clause where
  text := r.fill 1 c.template
  values := c.template.filterMap fun p => p.predicate?.map (·.operand)

end Catalogue
