import Catalogue.Proofs.Condition.Slots

/-!
# The shape of a condition

The shape of a condition is what is left of it when all values are forgotten: its groups, and the
field and the comparison of each predicate (`Catalogue.Condition.shape`). The text of a condition
knows no more than that, `Catalogue.Condition.text_shape`: the values stand beside the text and
never in it.
-/

namespace Catalogue

/-! ### Forgetting values -/

/-- A predicate whose value is forgotten. -/
def Predicate.shape (p : Predicate) : Predicate := { p with operand := .text "" }

/-- A piece whose value is forgotten. -/
def Piece.shape : Piece → Piece
  | .slot p => .slot p.shape
  | p => p

namespace Node

mutual

/-- The **shape of a node**. -/
def shape : Node → Node
  | .leaf p => .leaf p.shape
  | .group op entries => .group op (shapes entries)

/-- The shapes of nodes. -/
def shapes : List Node → List Node
  | [] => []
  | m :: ms => m.shape :: shapes ms

end

end Node

/-- The **shape of a condition**: its groups, fields and comparisons. -/
def Condition.shape (c : Condition) : Condition := ⟨c.op, Node.shapes c.entries⟩

/-! ### Templates of shapes -/

namespace Template

theorem map_enclose (ps : List Piece) :
    (enclose ps).map Piece.shape = enclose (ps.map Piece.shape) := by
  rw [enclose, enclose, List.isEmpty_map]
  split
  · rfl
  · simp [Piece.shape]

theorem map_negate (ps : List Piece) :
    (negate ps).map Piece.shape = negate (ps.map Piece.shape) := by
  rw [negate, negate, List.isEmpty_map]
  split
  · rfl
  · rw [List.map_cons, map_enclose]
    rfl

theorem map_join (op : Combinator) (ps qs : List Piece) :
    (join op.piece ps qs).map Piece.shape =
      join op.piece (ps.map Piece.shape) (qs.map Piece.shape) := by
  rw [join, join, List.isEmpty_map, List.isEmpty_map]
  split_ifs
  · rfl
  · rfl
  · cases op <;> simp [Piece.shape, Combinator.piece]

end Template

namespace Node

theorem needsParentheses_shape (m : Node) : m.shape.needsParentheses = m.needsParentheses := by
  cases m <;> rfl

theorem asEntry_shape (m : Node) (ps : List Piece) :
    m.shape.asEntry (ps.map Piece.shape) = (m.asEntry ps).map Piece.shape := by
  rw [asEntry, asEntry, needsParentheses_shape]
  split
  · rw [Template.map_enclose]
  · rfl

mutual

/-- **The pieces of a shape** are those of the node, with the values forgotten. -/
theorem pieces_shape : ∀ m : Node, m.shape.pieces = m.pieces.map Piece.shape
  | .leaf _ => rfl
  | .group .not entries => by
    rw [shape, pieces, pieces, Template.map_negate, piecesOfHead_shapes entries]
  | .group .and entries => piecesOfList_shapes .and entries
  | .group .or entries => piecesOfList_shapes .or entries

/-- The pieces of the first shape are those of the first node, with the values forgotten. -/
theorem piecesOfHead_shapes : ∀ ms : List Node,
    piecesOfHead (shapes ms) = (piecesOfHead ms).map Piece.shape
  | [] => rfl
  | m :: _ => pieces_shape m

/-- The pieces of joined shapes are those of the nodes, with the values forgotten. -/
theorem piecesOfList_shapes (op : Combinator) : ∀ ms : List Node,
    piecesOfList op.piece (shapes ms) = (piecesOfList op.piece ms).map Piece.shape
  | [] => rfl
  | m :: ms => by
    rw [shapes, piecesOfList, piecesOfList, Template.map_join, pieces_shape m, asEntry_shape,
      piecesOfList_shapes op ms]

end

end Node

/-! ### Texts of shapes -/

/-- A predicate is written without looking at its value. -/
theorem Rendering.fill_shape (r : Rendering) (n : Nat) (ps : List Piece) :
    r.fill n (ps.map Piece.shape) = r.fill n ps := by
  induction ps generalizing n with
  | nil => rfl
  | cons p ps ih =>
    cases p with
    | slot p =>
      rw [List.map_cons, Piece.shape, fill, fill, ih]
      rfl
    | _ => simp only [List.map_cons, Piece.shape, fill, ih]

namespace Condition

/-- **The text of a condition is that of its shape.** -/
theorem text_shape (c : Condition) (r : Rendering) :
    (c.shape.compile r).text = (c.compile r).text := by
  have htemplate : c.shape.template = c.template.map Piece.shape := Node.pieces_shape c.toNode
  rw [compile, compile, htemplate, r.fill_shape]

end Condition

end Catalogue
