import Catalogue.Condition.Template
import Mathlib.Data.List.Basic

/-!
# The predicates of a template

A template holds a place for each predicate that is written, `Catalogue.Template.predicates`. None
of them is made up (`Catalogue.Node.sublist_predicates`), but some may be missing: a negation writes
its first entry only. Where every negation has exactly one entry
(`Catalogue.Condition.UnaryNots`), all predicates are written, in their order
(`Catalogue.Node.predicates_pieces`).

A template that holds no predicate holds nothing at all (`Catalogue.Node.pieces_eq_nil_iff`), so
that words and parentheses never stand alone.
-/

namespace Catalogue

namespace Template

/-- The **predicates** of a template, from left to right. -/
def predicates (ps : List Piece) : List Predicate := ps.filterMap Piece.predicate?

@[simp] theorem predicates_nil : predicates [] = [] := rfl

@[simp] theorem predicates_cons (p : Piece) (ps : List Piece) :
    predicates (p :: ps) = p.predicate?.toList ++ predicates ps := by
  rw [predicates, List.filterMap_cons]
  cases p.predicate? <;> rfl

@[simp] theorem predicates_append (ps qs : List Piece) :
    predicates (ps ++ qs) = predicates ps ++ predicates qs :=
  List.filterMap_append

@[simp] theorem predicates_enclose (ps : List Piece) :
    predicates (enclose ps) = predicates ps := by
  rw [enclose]
  split
  · rename_i h
    rw [List.isEmpty_iff.mp h]
  · simp [Piece.predicate?]

@[simp] theorem predicates_negate (ps : List Piece) :
    predicates (negate ps) = predicates ps := by
  rw [negate]
  split
  · rename_i h
    rw [List.isEmpty_iff.mp h]
  · exact predicates_enclose ps

@[simp] theorem predicates_join (op : Combinator) (ps qs : List Piece) :
    predicates (join op.piece ps qs) = predicates ps ++ predicates qs := by
  rw [join]
  split_ifs with hp hq
  · rw [List.isEmpty_iff.mp hp]
    rfl
  · rw [List.isEmpty_iff.mp hq, predicates_nil, List.append_nil]
  · cases op <;> simp [Piece.predicate?, Combinator.piece]

theorem enclose_eq_nil {ps : List Piece} : enclose ps = [] ↔ ps = [] := by
  rw [enclose]
  split
  · simpa using ‹ps.isEmpty = true›
  · simpa using ‹¬ps.isEmpty = true›

theorem negate_eq_nil {ps : List Piece} : negate ps = [] ↔ ps = [] := by
  rw [negate]
  split
  · simpa using ‹ps.isEmpty = true›
  · simpa using ‹¬ps.isEmpty = true›

theorem join_eq_nil {word : Piece} {ps qs : List Piece} :
    join word ps qs = [] ↔ ps = [] ∧ qs = [] := by
  rw [join]
  split_ifs with hp hq
  · simp [List.isEmpty_iff.mp hp]
  · simp [List.isEmpty_iff.mp hq]
  · have hne : ps ≠ [] := fun h => hp (by rw [h]; rfl)
    simp [hne]

end Template

namespace Node

@[simp] theorem predicates_asEntry (m : Node) (ps : List Piece) :
    Template.predicates (m.asEntry ps) = Template.predicates ps := by
  rw [asEntry]
  split
  · exact Template.predicates_enclose ps
  · rfl

theorem asEntry_eq_nil {m : Node} {ps : List Piece} : m.asEntry ps = [] ↔ ps = [] := by
  rw [asEntry]
  split
  · exact Template.enclose_eq_nil
  · exact Iff.rfl

/-! ### Nothing is made up -/

mutual

/-- **A template speaks of predicates of its node only**, and in their order. -/
theorem sublist_predicates : ∀ m : Node, (Template.predicates m.pieces).Sublist m.predicates
  | .leaf p => List.Sublist.refl [p]
  | .group .not entries => by
    rw [pieces, predicates, Template.predicates_negate]
    exact sublist_predicatesOfHead entries
  | .group .and entries => sublist_predicatesOfList .and entries
  | .group .or entries => sublist_predicatesOfList .or entries

/-- The template of the first node speaks of predicates of the nodes only. -/
theorem sublist_predicatesOfHead : ∀ ms : List Node,
    (Template.predicates (piecesOfHead ms)).Sublist (predicatesOfList ms)
  | [] => List.Sublist.refl []
  | m :: _ => (sublist_predicates m).trans (List.sublist_append_left _ _)

/-- The template of joined nodes speaks of their predicates only. -/
theorem sublist_predicatesOfList (op : Combinator) : ∀ ms : List Node,
    (Template.predicates (piecesOfList op.piece ms)).Sublist (predicatesOfList ms)
  | [] => List.Sublist.refl []
  | m :: ms => by
    rw [piecesOfList, predicatesOfList, Template.predicates_join, predicates_asEntry]
    exact (sublist_predicates m).append (sublist_predicatesOfList op ms)

end

/-! ### Nothing stands alone -/

mutual

/-- **A template without predicates is empty.** -/
theorem pieces_eq_nil_iff : ∀ m : Node, m.pieces = [] ↔ Template.predicates m.pieces = []
  | .leaf p => by simp [pieces, Piece.predicate?]
  | .group .not entries => by
    rw [pieces, Template.negate_eq_nil, Template.predicates_negate]
    exact piecesOfHead_eq_nil_iff entries
  | .group .and entries => piecesOfList_eq_nil_iff .and entries
  | .group .or entries => piecesOfList_eq_nil_iff .or entries

/-- The template of the first node is empty if it has no predicates. -/
theorem piecesOfHead_eq_nil_iff : ∀ ms : List Node,
    piecesOfHead ms = [] ↔ Template.predicates (piecesOfHead ms) = []
  | [] => by simp [piecesOfHead]
  | m :: _ => pieces_eq_nil_iff m

/-- The template of joined nodes is empty if it has no predicates. -/
theorem piecesOfList_eq_nil_iff (op : Combinator) : ∀ ms : List Node,
    piecesOfList op.piece ms = [] ↔ Template.predicates (piecesOfList op.piece ms) = []
  | [] => by simp [piecesOfList]
  | m :: ms => by
    rw [piecesOfList, Template.join_eq_nil, asEntry_eq_nil, Template.predicates_join,
      predicates_asEntry, List.append_eq_nil_iff, pieces_eq_nil_iff m,
      piecesOfList_eq_nil_iff op ms]

end

/-! ### Nothing is missing -/

mutual

/-- **Every negation** in a node has exactly one entry. -/
def UnaryNots : Node → Prop
  | .leaf _ => True
  | .group op entries => (op = .not → entries.length = 1) ∧ UnaryNotsOfList entries

/-- Every negation in some nodes has exactly one entry. -/
def UnaryNotsOfList : List Node → Prop
  | [] => True
  | m :: ms => m.UnaryNots ∧ UnaryNotsOfList ms

end

mutual

/-- **The template of a node speaks of all its predicates**, in their order. -/
theorem predicates_pieces : ∀ {m : Node}, m.UnaryNots →
    Template.predicates m.pieces = m.predicates
  | .leaf _, _ => rfl
  | .group .not [m], h => by
    rw [pieces, predicates, Template.predicates_negate, piecesOfHead, predicates_pieces h.2.1]
    simp [predicatesOfList]
  | .group .not [], h => absurd (h.1 rfl) (by simp)
  | .group .not (_ :: _ :: _), h => absurd (h.1 rfl) (by simp)
  | .group .and _, h => predicates_piecesOfList .and h.2
  | .group .or _, h => predicates_piecesOfList .or h.2

/-- The template of joined nodes speaks of all their predicates, in their order. -/
theorem predicates_piecesOfList (op : Combinator) : ∀ {ms : List Node}, UnaryNotsOfList ms →
    Template.predicates (piecesOfList op.piece ms) = predicatesOfList ms
  | [], _ => rfl
  | m :: ms, h => by
    rw [piecesOfList, predicatesOfList, Template.predicates_join, predicates_asEntry,
      predicates_pieces h.1, predicates_piecesOfList op h.2]

end

end Node

namespace Condition

/-- **Every negation** in a condition has exactly one entry. -/
def UnaryNots (c : Condition) : Prop := c.toNode.UnaryNots

end Condition

/-! ### Where a predicate stands -/

/-- **Every predicate of a template has a place**, behind those of the predicates before it. -/
theorem Template.exists_slot {ps : List Piece} {k : Nat} {p : Predicate}
    (h : (predicates ps)[k]? = some p) :
    ∃ before after, ps = before ++ .slot p :: after ∧ (predicates before).length = k := by
  induction ps generalizing k with
  | nil => exact absurd h (by simp)
  | cons q qs ih =>
    cases q with
    | slot q =>
      cases k with
      | zero =>
        obtain rfl : q = p := by simpa [Piece.predicate?] using h
        exact ⟨[], qs, rfl, rfl⟩
      | succ k =>
        obtain ⟨before, after, rfl, hlength⟩ := ih (k := k) (by simpa [Piece.predicate?] using h)
        exact ⟨.slot q :: before, after, rfl, by simp [Piece.predicate?, hlength]⟩
    | _ =>
      obtain ⟨before, after, rfl, hlength⟩ := ih (k := k) (by simpa [Piece.predicate?] using h)
      exact ⟨_ :: before, after, rfl, by simpa [Piece.predicate?] using hlength⟩

namespace Rendering

variable (r : Rendering)

/-- The text of a template in two parts: the second goes on counting where the first ends. -/
theorem fill_append (n : Nat) (ps qs : List Piece) :
    r.fill n (ps ++ qs) = r.fill n ps ++ r.fill (n + (Template.predicates ps).length) qs := by
  induction ps generalizing n with
  | nil => simp [fill]
  | cons p ps ih =>
    cases p <;>
      simp [fill, ih, Piece.predicate?, String.append_assoc, Nat.add_assoc, Nat.add_comm 1]

end Rendering

/-! ### Texts and values -/

/-- Every piece leaves something in the text. -/
theorem Rendering.fill_eq_empty_iff (r : Rendering) (n : Nat) (ps : List Piece) :
    r.fill n ps = "" ↔ ps = [] := by
  cases ps with
  | nil => simp [fill]
  | cons p ps =>
    cases p with
    | slot p =>
      rw [fill, predicate]
      split <;> simp
    | _ => simp [fill]

namespace Condition

variable {c : Condition}

/-- **The text of a condition is empty** exactly if no predicate is written. -/
theorem text_eq_empty_iff (r : Rendering) :
    (c.compile r).text = "" ↔ Template.predicates c.template = [] := by
  rw [compile, r.fill_eq_empty_iff]
  exact c.toNode.pieces_eq_nil_iff

/-- Where every negation has one entry, all predicates are written. -/
theorem predicates_template (h : c.UnaryNots) : Template.predicates c.template = c.predicates :=
  Node.predicates_pieces h

/-- The values of a condition are those of the predicates of its template. -/
theorem values_compile (r : Rendering) :
    (c.compile r).values = (Template.predicates c.template).map (·.operand) := by
  rw [compile, Template.predicates, List.map_filterMap]

/-- Where every negation has one entry, the values are those of all predicates. -/
theorem values_compile_of_unaryNots (h : c.UnaryNots) (r : Rendering) :
    (c.compile r).values = c.predicates.map (·.operand) := by
  rw [values_compile, predicates_template h]

end Condition

end Catalogue
