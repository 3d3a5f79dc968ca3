import Catalogue.Condition.Meaning
import Catalogue.Proofs.Condition.Tokens

/-!
# What the text of a condition says

The text of a condition has parentheses in some places and none in others, and a database reads it
by the strength of `NOT`, `AND` and `OR`. This file shows that what it reads is what the condition
says: for every way in which the predicates may turn out, `Catalogue.Condition.truth`, computed on
the tree, is the truth of the expression that the grammar makes of the text.

Predicates are told apart by their places, from left to right and counting from one, as their
placeholders are; two predicates that look the same may turn out differently. Entries without
predicates say nothing, and vanish from both sides.

The proof follows the tree. A node that needs no parentheses is derived at the level that binds
most, and an entry that needs them gets them (`Catalogue.Node.derives_asEntry`); the entries of a
group are added one by one to what has been derived before
(`Catalogue.Node.exists_saidBy_further`), since the grammar binds to the left.
-/

namespace Catalogue

open Sql (Token Expression Level Derives)

/-! ### The truth of a tree -/

namespace Combinator

/-- What a group says when its entries say this; entries that say nothing do not count. -/
def together : Combinator → List Truth → Option Truth
  | .and, t :: ts => some (ts.foldl Truth.and t)
  | .or, t :: ts => some (ts.foldl Truth.or t)
  | .not, [t] => some t.not
  | _, _ => none

end Combinator

namespace Node

mutual

/-- The **truth of a node** whose first predicate is the `n`-th, if it has any predicate. -/
def truth (v : Nat → Truth) : Nat → Node → Option Truth
  | n, .leaf _ => some (v n)
  | n, .group op entries => op.together (truths v n entries)

/-- The truth of those nodes that have predicates. -/
def truths (v : Nat → Truth) : Nat → List Node → List Truth
  | _, [] => []
  | n, m :: ms => (m.truth v n).toList ++ truths v (n + m.predicates.length) ms

end

mutual

/-- A node without predicates says nothing. -/
theorem truth_eq_none (v : Nat → Truth) : ∀ {m : Node} (n : Nat), m.predicates = [] →
    m.truth v n = none
  | .leaf _, _, h => absurd h (by simp [predicates])
  | .group op entries, n, h => by
    rw [truth, truths_eq_nil v n h]
    cases op <;> rfl

/-- Nodes without predicates say nothing. -/
theorem truths_eq_nil (v : Nat → Truth) : ∀ {ms : List Node} (n : Nat),
    predicatesOfList ms = [] → truths v n ms = []
  | [], _, _ => rfl
  | m :: ms, n, h => by
    obtain ⟨hm, hms⟩ := List.append_eq_nil_iff.mp h
    rw [truths, truth_eq_none v n hm, truths_eq_nil v _ hms]
    rfl

end

end Node

/-- The **truth of a condition**, given that of its predicates by their places. -/
def Condition.truth (v : Nat → Truth) (c : Condition) : Option Truth := c.toNode.truth v 1

/-! ### One word between entries -/

namespace Combinator

/-- The level of a group outside of parentheses. -/
def level : Combinator → Level
  | .or => .disjunction
  | _ => .conjunction

/-- Two expressions with the word of a combinator between them. -/
def joined : Combinator → Expression → Expression → Expression
  | .or => .or
  | _ => .and

/-- What the word of a combinator makes of two truth values. -/
def connective : Combinator → Truth → Truth → Truth
  | .or => .or
  | _ => .and

variable {op : Combinator} {ts us : List Token} {e f : Expression}

theorem together_cons (h : op ≠ .not) (t : Truth) (ts : List Truth) :
    op.together (t :: ts) = some (ts.foldl op.connective t) := by
  cases op with
  | not => exact absurd rfl h
  | _ => rfl

theorem atoms_joined (op : Combinator) (e f : Expression) :
    (op.joined e f).atoms = e.atoms ++ f.atoms := by
  cases op <;> rfl

theorem truth_joined (op : Combinator) (v : Nat → Truth) (n : Nat) (e f : Expression) :
    (op.joined e f).truth v n = op.connective (e.truth v n) (f.truth v (n + e.atoms.length)) := by
  cases op <;> rfl

/-- One entry makes a group by itself. -/
theorem derives_single (op : Combinator) (h : Derives .negation ts e) : Derives op.level ts e := by
  cases op with
  | or => exact .disjunct (.conjunct h)
  | _ => exact .conjunct h

/-- One more entry behind the word of a combinator. -/
theorem derives_joined (r : Rendering) (n : Nat) (h : Derives op.level ts e)
    (h' : Derives .negation us f) :
    Derives op.level (ts ++ (r.pieceWords n op.piece ++ us)) (op.joined e f) := by
  cases op with
  | or => exact .or h (.conjunct h')
  | _ => exact .and h h'

theorem derives_disjunction (h : Derives op.level ts e) : Derives .disjunction ts e := by
  cases op with
  | or => exact h
  | _ => exact .disjunct h

end Combinator

/-! ### Pieces behind others -/

namespace Template

/-- Pieces with a word in front, unless there are none. -/
def further (word : Piece) (qs : List Piece) : List Piece :=
  if qs = [] then [] else word :: qs

theorem join_nil_left (word : Piece) (qs : List Piece) : join word [] qs = qs := rfl

theorem join_eq_append {word : Piece} {ps : List Piece} (h : ps ≠ []) (qs : List Piece) :
    join word ps qs = ps ++ further word qs := by
  rw [join, if_neg (by simpa using h), further]
  split_ifs with h₁ h₂ h₂
  · rw [List.append_nil]
  · exact absurd (List.isEmpty_iff.mp h₁) h₂
  · exact absurd (List.isEmpty_iff.mpr h₂) h₁
  · rfl

theorem further_join {word : Piece} {ps : List Piece} (h : ps ≠ []) (qs : List Piece) :
    further word (join word ps qs) = word :: (ps ++ further word qs) := by
  rw [join_eq_append h, further, if_neg (by simp [h])]

end Template

/-! ### What an expression says -/

/-- The atoms of predicates, the first of which has the `n`-th value. -/
def Rendering.atoms (r : Rendering) (n : Nat) (ps : List Predicate) : List Sql.Atom :=
  (ps.zipIdx n).map fun (p, k) => r.atom k p

namespace Rendering

variable (r : Rendering) (n : Nat)

@[simp] theorem length_atoms (ps : List Predicate) : (r.atoms n ps).length = ps.length := by
  simp [atoms]

theorem atoms_append (ps qs : List Predicate) :
    r.atoms n (ps ++ qs) = r.atoms n ps ++ r.atoms (n + ps.length) qs := by
  simp [atoms, List.zipIdx_append]

/-- The columns of the atoms are the fields of the predicates. -/
theorem names_atoms {ps : List Predicate} (h : ∀ f ∈ ps.map (·.field), Column.IsName f) :
    (r.atoms n ps).map (·.column.name) = ps.map (·.field) := by
  induction ps generalizing n with
  | nil => rfl
  | cons p ps ih =>
    rw [List.map_cons] at h ⊢
    rw [← ih (n + 1) fun f hf => h f (List.mem_cons_of_mem _ hf),
      ← Predicate.name_column (h p.field List.mem_cons_self)]
    rfl

theorem words_piece (op : Combinator) (ps : List Piece) :
    r.words n (op.piece :: ps) = r.pieceWords n op.piece ++ r.words n ps := by
  cases op <;> rfl

theorem words_enclose {ps : List Piece} (h : ps ≠ []) :
    r.words n (Template.enclose ps) = .word .opened :: (r.words n ps ++ [.word .closed]) := by
  rw [Template.enclose, if_neg (by simpa using h), List.cons_append, words, words_append]
  rfl

theorem words_negate {ps : List Piece} (h : ps ≠ []) :
    r.words n (Template.negate ps) = .word .not :: r.words n (Template.enclose ps) := by
  rw [Template.negate, if_neg (by simpa using h)]
  rfl

end Rendering

namespace Node

variable (r : Rendering)

/-- An expression **says what a node says**: it has an atom for each predicate, and whatever the
predicates turn out to be, it is as true as the node. -/
structure SaidBy (n : Nat) (m : Node) (e : Expression) : Prop where
  /-- The atoms are those of the predicates. -/
  atoms : e.atoms = r.atoms n m.predicates
  /-- The truth is that of the node. -/
  truth : ∀ v, m.truth v n = some (e.truth v n)

/-- The level of a node outside of parentheses. -/
def level (m : Node) : Level := if m.needsParentheses then .disjunction else .negation

variable {r} {n : Nat} {m : Node} {e : Expression}

/-- Where every negation has one entry, only a node without predicates has no pieces. -/
theorem predicates_eq_nil (h : m.UnaryNots) (hm : m.pieces = []) : m.predicates = [] := by
  rw [← predicates_pieces h]
  exact (pieces_eq_nil_iff m).mp hm

/-- Whatever a node derives may stand where anything may. -/
theorem derives_disjunction {ts : List Token} (h : Derives m.level ts e) :
    Derives .disjunction ts e := by
  rw [level] at h
  split at h
  · exact h
  · exact .disjunct (.conjunct h)

/-- **An entry stands where only what binds most may stand**: it is put in parentheses if it
needs them. -/
theorem derives_asEntry (hne : m.pieces ≠ []) (h : Derives m.level (r.words n m.pieces) e) :
    Derives .negation (r.words n (m.asEntry m.pieces)) e := by
  rw [level] at h
  rw [asEntry]
  split
  · rw [if_pos ‹_›] at h
    rw [r.words_enclose n hne]
    exact .enclosed h
  · rwa [if_neg ‹_›] at h

mutual

/-- **A node that has any pieces is said by an expression.** -/
theorem exists_saidBy : ∀ {m : Node}, m.UnaryNots → m.pieces ≠ [] → ∀ n,
    ∃ e, Derives m.level (r.words n m.pieces) e ∧ SaidBy r n m e
  | .leaf p, _, _, n => by
    refine ⟨.atom (r.atom n p), ?_, rfl, fun v => rfl⟩
    have hwords : r.words n (.leaf p : Node).pieces = (r.atom n p).tokens :=
      List.append_nil _
    rw [hwords]
    exact .atom _
  | .group .not [m], h, hne, n => by
    have hpieces : m.pieces ≠ [] := fun hnil => hne (by rw [pieces, piecesOfHead, hnil]; rfl)
    obtain ⟨e, hderives, hatoms, htruth⟩ := exists_saidBy h.2.1 hpieces n
    refine ⟨.not e, ?_, ?_, fun v => ?_⟩
    · -- a negation always has parentheses, so its entry may be derived at any level
      rw [pieces, piecesOfHead, r.words_negate n hpieces, r.words_enclose n hpieces]
      exact .not (.enclosed (derives_disjunction hderives))
    · rw [predicates, predicatesOfList, predicatesOfList, List.append_nil]
      exact hatoms
    · rw [truth, truths, htruth v]
      rfl
  | .group .not [], h, _, _ => absurd (h.1 rfl) (by simp)
  | .group .not (_ :: _ :: _), h, _, _ => absurd (h.1 rfl) (by simp)
  | .group .and entries, h, hne, n => by
    obtain ⟨e, hderives, hatoms, htruth⟩ :=
      exists_saidBy_list (show Combinator.and ≠ .not by decide) h.2 hne n
    exact ⟨e, Combinator.derives_disjunction hderives, hatoms, htruth⟩
  | .group .or entries, h, hne, n => by
    obtain ⟨e, hderives, hatoms, htruth⟩ :=
      exists_saidBy_list (show Combinator.or ≠ .not by decide) h.2 hne n
    exact ⟨e, Combinator.derives_disjunction hderives, hatoms, htruth⟩

/-- **Entries that have any pieces are said by an expression**, joined by their word. -/
theorem exists_saidBy_list {op : Combinator} (hop : op ≠ .not) : ∀ {ms : List Node},
    UnaryNotsOfList ms → piecesOfList op.piece ms ≠ [] → ∀ n,
    ∃ e, Derives op.level (r.words n (piecesOfList op.piece ms)) e ∧
      e.atoms = r.atoms n (predicatesOfList ms) ∧
      ∀ v, op.together (truths v n ms) = some (e.truth v n)
  | [], _, hne, _ => absurd rfl hne
  | m :: ms, h, hne, n => by
    by_cases hm : m.pieces = []
    · -- the first entry vanishes
      have hentry : m.asEntry m.pieces = [] := asEntry_eq_nil.mpr hm
      have hnil : m.predicates = [] := predicates_eq_nil h.1 hm
      rw [piecesOfList, hentry, Template.join_nil_left] at hne ⊢
      rw [predicatesOfList, hnil, List.nil_append]
      obtain ⟨e, hderives, hatoms, htruth⟩ := exists_saidBy_list hop h.2 hne n
      refine ⟨e, hderives, hatoms, fun v => ?_⟩
      rw [truths, truth_eq_none v n hnil, hnil]
      exact htruth v
    · -- the first entry makes a group by itself, and the others follow it
      obtain ⟨d, hd, hdatoms, hdtruth⟩ := exists_saidBy h.1 hm n
      obtain ⟨e, hderives, hatoms, htruth⟩ := exists_saidBy_further hop h.2 (n := n)
        (op.derives_single (derives_asEntry hm hd))
      have hlength : d.atoms.length = m.predicates.length := by rw [hdatoms, r.length_atoms]
      rw [hlength] at hderives hatoms htruth
      refine ⟨e, ?_, ?_, fun v => ?_⟩
      · have hentry : m.asEntry m.pieces ≠ [] := fun hnil => hm (asEntry_eq_nil.mp hnil)
        rw [piecesOfList, Template.join_eq_append hentry, r.words_append, predicates_asEntry,
          predicates_pieces h.1]
        exact hderives
      · rw [hatoms, hdatoms, predicatesOfList, r.atoms_append]
      · rw [truths, hdtruth v, Option.toList_some, List.singleton_append,
          Combinator.together_cons hop, htruth v]

/-- **Entries behind others** make the expression longer. -/
theorem exists_saidBy_further {op : Combinator} (hop : op ≠ .not) : ∀ {ms : List Node},
    UnaryNotsOfList ms → ∀ {n : Nat} {ts : List Token} {d : Expression}, Derives op.level ts d →
    ∃ e, Derives op.level (ts ++ r.words (n + d.atoms.length)
        (Template.further op.piece (piecesOfList op.piece ms))) e ∧
      e.atoms = d.atoms ++ r.atoms (n + d.atoms.length) (predicatesOfList ms) ∧
      ∀ v, (truths v (n + d.atoms.length) ms).foldl op.connective (d.truth v n) = e.truth v n
  | [], _, n, ts, d, hd => by
    -- nothing is behind what has been derived
    refine ⟨d, ?_, (List.append_nil _).symm, fun v => rfl⟩
    exact (List.append_nil ts).symm ▸ hd
  | m :: ms, h, n, ts, d, hd => by
    by_cases hm : m.pieces = []
    · -- the first entry vanishes
      have hentry : m.asEntry m.pieces = [] := asEntry_eq_nil.mpr hm
      have hnil : m.predicates = [] := predicates_eq_nil h.1 hm
      rw [piecesOfList, hentry, Template.join_nil_left, predicatesOfList, hnil, List.nil_append]
      obtain ⟨e, hderives, hatoms, htruth⟩ := exists_saidBy_further hop h.2 (n := n) hd
      refine ⟨e, hderives, hatoms, fun v => ?_⟩
      rw [truths, truth_eq_none v _ hnil, hnil]
      exact htruth v
    · -- the entry is one more operand of what has been derived
      have hentry : m.asEntry m.pieces ≠ [] := fun hnil => hm (asEntry_eq_nil.mp hnil)
      obtain ⟨f, hf, hfatoms, hftruth⟩ := exists_saidBy h.1 hm (n + d.atoms.length)
      have hlength : f.atoms.length = m.predicates.length := by rw [hfatoms, r.length_atoms]
      obtain ⟨e, hderives, hatoms, htruth⟩ := exists_saidBy_further hop h.2 (n := n)
        (op.derives_joined r (n + d.atoms.length) hd (derives_asEntry hm hf))
      rw [op.atoms_joined, List.length_append, hlength, ← Nat.add_assoc] at hderives hatoms htruth
      refine ⟨e, ?_, ?_, fun v => ?_⟩
      · rw [piecesOfList, Template.further_join hentry, r.words_piece, r.words_append,
          predicates_asEntry, predicates_pieces h.1]
        simpa only [List.append_assoc] using hderives
      · rw [hatoms, hfatoms, predicatesOfList, r.atoms_append, List.append_assoc]
      · rw [truths, hftruth v, Option.toList_some, List.singleton_append, List.foldl_cons,
          ← htruth v, op.truth_joined]

end

end Node

/-! ### The whole text -/

namespace Condition

/-- **A database reads in the text of a condition what the condition says.** The text is empty
exactly if there is no predicate. Otherwise its tokens make one expression and no other; the atoms
of the expression are the predicates in their order, and however these turn out, the expression is
as true as the condition. -/
theorem compile_preserves_truth (c : Condition) (hnots : c.UnaryNots)
    (hfields : ∀ f ∈ c.fields, Column.IsName f) (r : Rendering) :
    ((c.compile r).text = "" ↔ c.predicates = []) ∧
      ((c.compile r).text ≠ "" → ∃ ts e,
        Sql.tokens? (c.compile r).text = some ts ∧
        Derives .disjunction ts e ∧ (∀ e', Derives .disjunction ts e' → e' = e) ∧
        e.atoms = r.atoms 1 c.predicates ∧ e.atoms.map (·.column.name) = c.fields ∧
        ∀ v, c.truth v = some (e.truth v 1)) := by
  refine ⟨?_, fun hne => ?_⟩
  · rw [text_eq_empty_iff, predicates_template hnots]
  · have hpieces : c.toNode.pieces ≠ [] := fun hnil =>
      hne ((text_eq_empty_iff r).mpr (by rw [template, hnil]; rfl))
    obtain ⟨e, hderives, hatoms, htruth⟩ := Node.exists_saidBy (r := r) hnots hpieces 1
    have hread := Node.derives_disjunction hderives
    refine ⟨_, e, r.tokens?_compile hfields, hread, fun e' he' => he'.unique hread, hatoms, ?_,
      htruth⟩
    rw [hatoms]
    exact r.names_atoms 1 hfields

/-- A condition with negations of a negation, of a predicate and of a group, and with groups inside
each other, one of them without predicates. -/
def nested : Condition :=
  ⟨.or,
    [.group .not [.group .not [.leaf ⟨"id", .equal, .integer 1⟩]],
      .group .and
        [.leaf ⟨"title", .ilike, .text "%x%"⟩, .group .and [],
          .group .or [.leaf ⟨"author", .equal, .text "y"⟩, .leaf ⟨"summary", .like, .text "z"⟩]],
      .group .not [.group .and []]]⟩

theorem compile_preserves_truth_nested :
    nested.UnaryNots ∧ (∀ f ∈ nested.fields, Column.IsName f) ∧
      (nested.compile ⟨.question, .lowered⟩).text =
        "NOT (NOT (id = ?)) OR (LOWER(title) LIKE LOWER(?) AND (author = ? OR summary LIKE ?))" ∧
      ∃ ts e, Sql.tokens? (nested.compile ⟨.question, .lowered⟩).text = some ts ∧
        Derives .disjunction ts e ∧ ∀ v, nested.truth v = some (e.truth v 1) := by
  have hnots : nested.UnaryNots := by
    simp [nested, UnaryNots, toNode, Node.UnaryNots, Node.UnaryNotsOfList]
  have hfields : ∀ f ∈ nested.fields, Column.IsName f := by decide
  have htext : (nested.compile ⟨.question, .lowered⟩).text =
      "NOT (NOT (id = ?)) OR (LOWER(title) LIKE LOWER(?) AND (author = ? OR summary LIKE ?))" := by
    decide
  obtain ⟨-, hsome⟩ := compile_preserves_truth nested hnots hfields ⟨.question, .lowered⟩
  obtain ⟨ts, e, hts, hderives, -, -, -, htruth⟩ := hsome (by rw [htext]; decide)
  exact ⟨hnots, hfields, htext, ts, e, hts, hderives, htruth⟩

end Condition

end Catalogue
