import Catalogue.Proofs.Condition.Precedence
import Catalogue.Proofs.Sql.Query

/-!
# What a database finds in a condition

A database is given the text of a condition and, beside it, the values. This file says that it
evaluates the condition: whatever the comparisons of columns with values turn out to be, the
expression that is read from the text, with the values in their places, is as true as the condition
(`Catalogue.Condition.meaning_eq_map_read`).

A negation looks at its first entry only, wherever its other entries come from, and
`Catalogue.Node.written` leaves those out. It has the pieces and the meaning of the node, and the
text of such a node has been read in `Catalogue.Proofs.Condition.Precedence`, by the places of its
predicates; so what is left is that the truth of a node by places is its meaning
(`Catalogue.Node.truth_eq_meaning`).
-/

namespace Catalogue

namespace Node

/-! ### What is written of a node -/

mutual

/-- The node with what is **written** of it: a negation has one entry, or none of it is left. -/
def written : Node → Node
  | .leaf p => .leaf p
  | .group .not entries => writtenOfHead entries
  | .group .and entries => .group .and (writtenOfList entries)
  | .group .or entries => .group .or (writtenOfList entries)

/-- The negation of what is written of the first node. -/
def writtenOfHead : List Node → Node
  | [] => .group .and []
  | m :: _ => .group .not [m.written]

/-- What is written of nodes. -/
def writtenOfList : List Node → List Node
  | [] => []
  | m :: ms => m.written :: writtenOfList ms

end

mutual

/-- What is written of a node has the same pieces. -/
theorem pieces_written : ∀ m : Node, m.written.pieces = m.pieces
  | .leaf _ => rfl
  | .group .not [] => rfl
  | .group .not (m :: _) => congrArg Template.negate (pieces_written m)
  | .group .and entries => piecesOfList_writtenOfList .and entries
  | .group .or entries => piecesOfList_writtenOfList .or entries

/-- What is written of nodes has the same pieces. -/
theorem piecesOfList_writtenOfList (word : Piece) : ∀ ms : List Node,
    piecesOfList word (writtenOfList ms) = piecesOfList word ms
  | [] => rfl
  | m :: ms => by
    have hentry : m.written.asEntry m.written.pieces = m.asEntry m.pieces := by
      rw [pieces_written m]
      -- only a negation without entries needs other parentheses, and has no pieces
      match m with
      | .leaf _ => rfl
      | .group .not [] => rfl
      | .group .not (_ :: _) => rfl
      | .group .and _ => rfl
      | .group .or _ => rfl
    rw [writtenOfList, piecesOfList, piecesOfList, hentry, piecesOfList_writtenOfList word ms]

end

mutual

/-- Every negation of what is written has one entry. -/
theorem unaryNots_written : ∀ m : Node, m.written.UnaryNots
  | .leaf _ => trivial
  | .group .not [] => ⟨nofun, trivial⟩
  | .group .not (m :: _) => ⟨fun _ => rfl, unaryNots_written m, trivial⟩
  | .group .and entries => ⟨nofun, unaryNotsOfList_writtenOfList entries⟩
  | .group .or entries => ⟨nofun, unaryNotsOfList_writtenOfList entries⟩

/-- Every negation in what is written has one entry. -/
theorem unaryNotsOfList_writtenOfList : ∀ ms : List Node, UnaryNotsOfList (writtenOfList ms)
  | [] => trivial
  | m :: ms => ⟨unaryNots_written m, unaryNotsOfList_writtenOfList ms⟩

end

section Meaning

variable {β : Type} (i : Interpretation β)

mutual

/-- What is written of a node means the same. -/
theorem meaning_written : ∀ m : Node, m.written.meaning i = m.meaning i
  | .leaf _ => rfl
  | .group .not [] => rfl
  | .group .not (m :: _) => congrArg (Option.map i.negated) (meaning_written m)
  | .group .and entries => meaningOfList_writtenOfList .and entries none
  | .group .or entries => meaningOfList_writtenOfList .or entries none

/-- What is written of nodes behind others means the same. -/
theorem meaningOfList_writtenOfList (op : Combinator) : ∀ (ms : List Node) (before : Option β),
    meaningOfList i op before (writtenOfList ms) = meaningOfList i op before ms
  | [], _ => rfl
  | m :: ms, before => by
    rw [writtenOfList, meaningOfList, meaningOfList, meaning_written m,
      meaningOfList_writtenOfList op ms]

end

end Meaning

end Node

/-! ### Truth by places and by predicates -/

/-- Truth by places **agrees** with that of predicates, the first of which is in the `n`-th
place. -/
def Agrees (v : Nat → Truth) (leaf : Predicate → Truth) (n : Nat) (ps : List Predicate) : Prop :=
  ∀ k p, ps[k]? = some p → v (n + k) = leaf p

section Agrees

variable {v : Nat → Truth} {leaf : Predicate → Truth} {n : Nat} {ps qs : List Predicate}

theorem Agrees.left (h : Agrees v leaf n (ps ++ qs)) : Agrees v leaf n ps := by
  intro k p hp
  have hk : k < ps.length := (List.getElem?_eq_some_iff.mp hp).1
  exact h k p ((List.getElem?_append_left hk).trans hp)

theorem Agrees.right (h : Agrees v leaf n (ps ++ qs)) : Agrees v leaf (n + ps.length) qs := by
  intro k p hp
  rw [Nat.add_assoc]
  refine h (ps.length + k) p ?_
  rwa [List.getElem?_append_right (Nat.le_add_right _ _), Nat.add_sub_cancel_left]

end Agrees

/-- Adding an entry to those before it makes one of two. -/
theorem Combinator.together_add {op : Combinator} (hop : op ≠ .not) (leaf : Predicate → Truth)
    (before after : Option Truth) (ts : List Truth) :
    op.together ((Interpretation.add (.truth leaf) op before after).toList ++ ts) =
      op.together (before.toList ++ (after.toList ++ ts)) := by
  cases before with
  | none => rfl
  | some a =>
    cases after with
    | none => rfl
    | some b =>
      cases op with
      | not => exact absurd rfl hop
      | and => rfl
      | or => rfl

namespace Node

variable {v : Nat → Truth} {leaf : Predicate → Truth}

mutual

/-- **The truth of a node by places is its meaning**, if the two agree on its predicates. -/
theorem truth_eq_meaning : ∀ {m : Node} {n : Nat}, m.UnaryNots → Agrees v leaf n m.predicates →
    m.truth v n = m.meaning (.truth leaf)
  | .leaf p, n, _, hv => congrArg some (hv 0 p rfl)
  | .group .not [m], n, h, hv => by
    rw [truth, truths, truths, truth_eq_meaning h.2.1 hv.left, meaning, meaningOfHead]
    cases m.meaning (.truth leaf) <;> rfl
  | .group .not [], _, h, _ => absurd (h.1 rfl) (by simp)
  | .group .not (_ :: _ :: _), _, h, _ => absurd (h.1 rfl) (by simp)
  | .group .and entries, n, h, hv =>
    together_truths (show Combinator.and ≠ .not by decide) h.2 hv none
  | .group .or entries, n, h, hv =>
    together_truths (show Combinator.or ≠ .not by decide) h.2 hv none

/-- What entries say together by places, behind others, is what they mean. -/
theorem together_truths {op : Combinator} (hop : op ≠ .not) : ∀ {ms : List Node} {n : Nat},
    UnaryNotsOfList ms → Agrees v leaf n (predicatesOfList ms) → ∀ before : Option Truth,
    op.together (before.toList ++ truths v n ms) = meaningOfList (.truth leaf) op before ms
  | [], n, _, _, before => by
    rw [truths, List.append_nil, meaningOfList]
    cases before with
    | none => cases op <;> rfl
    | some t => exact Combinator.together_cons hop t []
  | m :: ms, n, h, hv, before => by
    rw [truths, truth_eq_meaning h.1 hv.left, meaningOfList, ← Combinator.together_add hop leaf]
    exact together_truths hop h.2 hv.right _

end

end Node

/-! ### Atoms with their values -/

namespace Rendering

variable (r : Rendering)

theorem place_mark (n : Nat) : (r.mark n).place n = n := by
  rw [mark]
  cases r.placeholder <;> rfl

theorem comparison_form (op : Comparison) : (r.form op).comparison = op := by
  cases op with
  | equal => rfl
  | like => rfl
  | ilike =>
    rw [form]
    cases r.folding <;> rfl

/-- **An atom with its value is the predicate** that it was made of. -/
theorem predicate?_atom {values : List Operand} {k : Nat} {p : Predicate}
    (hp : Column.IsName p.field) (hvalue : values[k]? = some p.operand) :
    (r.atom (k + 1) p).predicate? values (k + 1) = some p := by
  rw [Sql.Atom.predicate?, atom, r.place_mark, Sql.value?, hvalue, r.comparison_form,
    Option.map_some, Predicate.name_column hp]

/-- Atoms, with the values of their predicates, are as true as these. -/
theorem agrees_truthAt {ps : List Predicate} (hps : ∀ p ∈ ps, Column.IsName p.field)
    (leaf : Predicate → Truth) :
    Agrees (Sql.truthAt leaf (ps.map (·.operand)) (r.atoms 1 ps)) leaf 1 ps := by
  intro k p hp
  have hatom : (r.atoms 1 ps)[k]? = some (r.atom (k + 1) p) := by
    rw [atoms, List.getElem?_map, List.getElem?_zipIdx, hp, Option.map_some, Option.map_some,
      Nat.add_comm]
  have hvalue : (ps.map (·.operand))[k]? = some p.operand := by
    rw [List.getElem?_map, hp, Option.map_some]
  rw [Nat.add_comm, Sql.truthAt, Nat.add_sub_cancel, hatom, Option.bind_some,
    r.predicate?_atom (hps p (List.mem_of_getElem? hp)) hvalue]
  rfl

end Rendering

/-! ### The whole text -/

namespace Condition

variable {c : Condition}

/-- The predicates that are written are those of the template. -/
theorem predicates_written (c : Condition) :
    c.toNode.written.predicates = Template.predicates c.template := by
  rw [← Node.predicates_pieces (Node.unaryNots_written c.toNode), Node.pieces_written, template]

/-- The truth by places of what is written is the meaning of the condition. -/
theorem truth_written {v : Nat → Truth} {leaf : Predicate → Truth}
    (h : Agrees v leaf 1 (Template.predicates c.template)) :
    c.toNode.written.truth v 1 = c.meaning (.truth leaf) := by
  rw [← predicates_written] at h
  rw [Node.truth_eq_meaning (Node.unaryNots_written c.toNode) h, Node.meaning_written, meaning]

/-- A condition of which nothing is written has no meaning. -/
theorem meaning_eq_none (h : c.template = []) (leaf : Predicate → Truth) :
    c.meaning (.truth leaf) = none := by
  have hnone : Template.predicates c.template = [] := by
    rw [h]
    rfl
  have hagrees : Agrees (fun _ => .unknown) leaf 1 (Template.predicates c.template) := by
    rw [hnone]
    nofun
  rw [← truth_written hagrees]
  exact Node.truth_eq_none _ 1 (c.predicates_written.trans hnone)

/-- What is written of a condition is read as an expression of the predicates in their places. -/
theorem exists_read_words (r : Rendering) (h : c.template ≠ []) :
    ∃ e, Sql.read (r.words 1 c.template) = some e ∧
      e.atoms = r.atoms 1 (Template.predicates c.template) ∧
      ∀ v leaf, Agrees v leaf 1 (Template.predicates c.template) →
        c.meaning (.truth leaf) = some (e.truth v 1) := by
  have hpieces : c.toNode.written.pieces = c.template := Node.pieces_written c.toNode
  rw [← hpieces] at h
  obtain ⟨e, hderives, hatoms, htruth⟩ :=
    Node.exists_saidBy (r := r) (Node.unaryNots_written c.toNode) h 1
  rw [hpieces] at hderives
  rw [predicates_written] at hatoms
  refine ⟨e, (Node.derives_disjunction hderives).read_eq, hatoms, fun v leaf hv => ?_⟩
  rw [← truth_written hv]
  exact htruth v

/-- **A database evaluates a condition**: the expression in its text, with the values in their
places, is as true as the condition, whatever comparisons turn out to be. There is no expression
exactly if the condition has no meaning. -/
theorem meaning_eq_map_read (h : ∀ f ∈ c.fields, Column.IsName f) (r : Rendering)
    (leaf : Predicate → Truth) :
    c.meaning (.truth leaf) =
      (Sql.read (r.words 1 c.template)).map (·.about leaf (c.compile r).values) := by
  by_cases hnil : c.template = []
  · rw [meaning_eq_none hnil, hnil]
    rfl
  · obtain ⟨e, he, hatoms, htruth⟩ := exists_read_words r hnil
    rw [he, Option.map_some, Sql.Expression.about, hatoms, values_compile]
    exact htruth _ leaf (r.agrees_truthAt (Rendering.isName_of_mem_template h) leaf)

/-- A condition **holds**, given the truth of predicates: it is true, or there is nothing to
check. -/
def holds (leaf : Predicate → Truth) (c : Condition) : Bool :=
  match c.meaning (.truth leaf) with
  | none => true
  | some t => t = .yes

/-- The rows that a database keeps are those that the condition holds of. -/
theorem keeps_read (h : ∀ f ∈ c.fields, Column.IsName f) (r : Rendering)
    (leaf : Predicate → Truth) :
    Sql.keeps leaf (c.compile r).values (Sql.read (r.words 1 c.template)) = c.holds leaf := by
  rw [holds, meaning_eq_map_read h r]
  cases Sql.read (r.words 1 c.template) with
  | none => rfl
  | some e => rfl

end Condition

end Catalogue
