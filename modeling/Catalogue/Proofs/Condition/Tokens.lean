import Catalogue.Proofs.Condition.Slots
import Catalogue.Proofs.Sql.Expression

/-!
# The tokens of a condition

The text of a condition is a filled template, and this file says which tokens it is made of
(`Catalogue.Rendering.tokens`), provided that its predicates speak of columns:
`Catalogue.Rendering.render_tokens` is the equation of texts, and
`Catalogue.Rendering.tokens?_compile` says that a database that reads the text finds these very
tokens, less the spaces (`Catalogue.Rendering.words`).

For the latter the tokens have to be kept apart. In a template that is a matter of neighbours: the
place of a predicate is never followed by another, nor by a negation, without a word between them
(`Catalogue.Node.isChain_pieces`).
-/

namespace Catalogue

open Sql (Token)

/-! ### Columns -/

namespace Column

/-- A **name of a column**. -/
def IsName (s : String) : Prop := s ∈ all.map name

instance : DecidablePred IsName := fun s => inferInstanceAs (Decidable (s ∈ all.map name))

theorem name_of_ofName? {s : String} {c : Column} (h : ofName? s = some c) : c.name = s := by
  simp only [ofName?] at h
  split_ifs at h with h₁ h₂ h₃ h₄ <;> cases h
  · exact h₁.symm
  · exact h₂.symm
  · exact h₃.symm
  · exact h₄.symm

/-- A name is one of a column exactly when its column is found. -/
theorem isName_iff {s : String} : IsName s ↔ ∃ c, ofName? s = some c := by
  constructor
  · intro h
    obtain ⟨c, -, rfl⟩ := List.mem_map.mp h
    exact ⟨c, ofName?_name c⟩
  · rintro ⟨c, hc⟩
    rw [← name_of_ofName? hc]
    exact List.mem_map.mpr ⟨c, by cases c <;> decide, rfl⟩

end Column

namespace Predicate

/-- The column that a predicate speaks of. A field that is no column counts as the first one, and no
statement below is about such a field. -/
def column (p : Predicate) : Column := (Column.ofName? p.field).getD .id

theorem name_column {p : Predicate} (h : Column.IsName p.field) : p.column.name = p.field := by
  obtain ⟨c, hc⟩ := Column.isName_iff.mp h
  rw [column, hc, Option.getD_some, Column.name_of_ofName? hc]

end Predicate

/-! ### Tokens of a template -/

namespace Piece

/-- How many values a piece takes. -/
def width (p : Piece) : Nat := p.predicate?.toList.length

/-- What **may follow** a piece. -/
def MayPrecede : Piece → Piece → Prop
  | .slot _, .slot _ => False
  | .slot _, .not => False
  | _, _ => True

end Piece

namespace Rendering

variable (r : Rendering)

/-- The placeholder of the `n`-th value. -/
def mark (n : Nat) : Sql.Mark :=
  match r.placeholder with
  | .question => .question
  | .numbered => .numbered n

/-- How a comparison is written. -/
def form : Comparison → Sql.Form
  | .equal => .equal
  | .like => .like
  | .ilike =>
    match r.folding with
    | .native => .ilike
    | .lowered => .lowered

/-- A predicate whose value is the `n`-th, as an atom. -/
def atom (n : Nat) (p : Predicate) : Sql.Atom := ⟨p.column, r.form p.comparison, r.mark n⟩

/-- The tokens of an atom, with the spaces between them. -/
def atomTokens (a : Sql.Atom) : List Token :=
  match a.form with
  | .equal =>
    .word (.column a.column) :: .word .space :: .word .equals :: .word .space :: a.mark.tokens
  | .like =>
    .word (.column a.column) :: .word .space :: .word .like :: .word .space :: a.mark.tokens
  | .ilike =>
    .word (.column a.column) :: .word .space :: .word .ilike :: .word .space :: a.mark.tokens
  | .lowered =>
    .word .lower :: .word .opened :: .word (.column a.column) :: .word .closed :: .word .space ::
      .word .like :: .word .space :: .word .lower :: .word .opened ::
        (a.mark.tokens ++ [.word .closed])

/-- The tokens of a piece, with the spaces around them. -/
def pieceTokens (n : Nat) : Piece → List Token
  | .slot p => atomTokens (r.atom n p)
  | .and => [.word .space, .word .and, .word .space]
  | .or => [.word .space, .word .or, .word .space]
  | .not => [.word .not, .word .space]
  | .opened => [.word .opened]
  | .closed => [.word .closed]

/-- The **tokens of a template** whose first value is the `n`-th. -/
def tokens : Nat → List Piece → List Token
  | _, [] => []
  | n, p :: ps => r.pieceTokens n p ++ tokens (n + p.width) ps

/-- The tokens of a piece, without spaces. -/
def pieceWords (n : Nat) : Piece → List Token
  | .slot p => (r.atom n p).tokens
  | .and => [.word .and]
  | .or => [.word .or]
  | .not => [.word .not]
  | .opened => [.word .opened]
  | .closed => [.word .closed]

/-- The **tokens of a template without spaces**. -/
def words : Nat → List Piece → List Token
  | _, [] => []
  | n, p :: ps => r.pieceWords n p ++ words (n + p.width) ps

@[simp] theorem words_append (n : Nat) (ps qs : List Piece) :
    r.words n (ps ++ qs) =
      r.words n ps ++ r.words (n + (Template.predicates ps).length) qs := by
  induction ps generalizing n with
  | nil => rfl
  | cons p ps ih => simp [words, ih, Piece.width, Nat.add_assoc]

/-! ### The text is made of the tokens -/

theorem render_mark (n : Nat) : Sql.render (r.mark n).tokens = r.placeholder.text n := by
  rw [mark]
  cases r.placeholder <;> simp [Sql.render, Sql.Mark.tokens, Token.text, Sql.Word.text,
    Placeholder.text, String.join]

/-- The tokens of a predicate make up its text. -/
theorem render_atomTokens (n : Nat) {p : Predicate} (h : Column.IsName p.field) :
    Sql.render (atomTokens (r.atom n p)) = r.predicate n p := by
  rw [← String.toList_inj, predicate, ← r.render_mark n, ← Predicate.name_column h]
  rcases hc : p.comparison with _ | _ | _
  · simp [atomTokens, atom, form, hc, Comparison.name, Sql.render, Token.text, Sql.Word.text]
  · simp [atomTokens, atom, form, hc, Comparison.name, Sql.render, Token.text, Sql.Word.text]
  · rcases hf : r.folding with _ | _ <;>
      simp [atomTokens, atom, form, hc, hf, Comparison.name, Sql.render, Token.text, Sql.Word.text]

/-- **The tokens of a template make up its text**, if its predicates speak of columns. -/
theorem render_tokens {ps : List Piece}
    (h : ∀ p ∈ Template.predicates ps, Column.IsName p.field) (n : Nat) :
    Sql.render (r.tokens n ps) = r.fill n ps := by
  induction ps generalizing n with
  | nil => rfl
  | cons p ps ih =>
    rw [Template.predicates_cons] at h
    rw [tokens, Sql.render_append, ih fun q hq => h q (List.mem_append_right _ hq)]
    cases p with
    | slot p => rw [pieceTokens, r.render_atomTokens n (h p (by simp [Piece.predicate?]))]; rfl
    | and => rfl
    | or => rfl
    | not => rfl
    | opened => rfl
    | closed => rfl

/-- Without its spaces an atom is what the grammar takes for one. -/
theorem filter_atomTokens (a : Sql.Atom) :
    (atomTokens a).filter (· ≠ .word .space) = a.tokens := by
  obtain ⟨c, form, mark⟩ := a
  cases form <;> cases mark <;> rfl

/-- The words of a template are its tokens without the spaces. -/
theorem filter_tokens (n : Nat) (ps : List Piece) :
    (r.tokens n ps).filter (· ≠ .word .space) = r.words n ps := by
  induction ps generalizing n with
  | nil => rfl
  | cons p ps ih =>
    rw [tokens, words, List.filter_append, ih]
    cases p with
    | slot p => rw [pieceTokens, filter_atomTokens, pieceWords]
    | and => rfl
    | or => rfl
    | not => rfl
    | opened => rfl
    | closed => rfl

/-! ### The tokens are kept apart -/

/-- Only the place of a predicate may end in a token that is no sign. -/
theorem isSign_getLast_pieceTokens {p : Piece} (h : ∀ q, p ≠ .slot q) (n : Nat) :
    ∀ t ∈ (r.pieceTokens n p).getLast?, t.IsSign := by
  cases p with
  | slot q => exact absurd rfl (h q)
  | _ => simp [pieceTokens, Token.IsSign, Sql.Word.signs]

/-- Only the place of a predicate and a negation may begin with a token that is no sign. -/
theorem isSign_head_pieceTokens {p : Piece} (h : ∀ q, p ≠ .slot q) (hnot : p ≠ .not) (n : Nat) :
    ∀ t ∈ (r.pieceTokens n p).head?, t.IsSign := by
  cases p with
  | slot q => exact absurd rfl (h q)
  | not => exact absurd rfl hnot
  | _ => simp [pieceTokens, Token.IsSign, Sql.Word.signs]

/-- The tokens of one piece are kept apart. -/
theorem isChain_pieceTokens (n : Nat) (p : Piece) :
    (r.pieceTokens n p).IsChain Token.MayTouch := by
  cases p with
  | slot p =>
    rw [pieceTokens]
    generalize r.atom n p = a
    obtain ⟨c, form, mark⟩ := a
    cases form <;> cases mark <;>
      simp [atomTokens, Sql.Mark.tokens, Token.MayTouch, Token.IsSign, Sql.Word.signs]
  | _ => simp [pieceTokens, Token.MayTouch, Token.IsSign, Sql.Word.signs]

theorem head?_tokens (n : Nat) (p : Piece) (ps : List Piece) :
    (r.tokens n (p :: ps)).head? = (r.pieceTokens n p).head? := by
  have hne : r.pieceTokens n p ≠ [] := by
    cases p with
    | slot p =>
      rw [pieceTokens, atomTokens]
      cases (r.atom n p).form <;> simp
    | _ => simp [pieceTokens]
  rw [tokens, List.head?_append_of_ne_nil _ hne]

/-- **The tokens of a template are kept apart**, if its pieces follow each other as they may. -/
theorem isChain_tokens {ps : List Piece} (h : ps.IsChain Piece.MayPrecede) (n : Nat) :
    (r.tokens n ps).IsChain Token.MayTouch := by
  induction ps generalizing n with
  | nil => exact List.isChain_nil
  | cons p ps ih =>
    refine (r.isChain_pieceTokens n p).append (ih h.tail _) fun t ht u hu => ?_
    cases ps with
    | nil => exact absurd hu (by simp [tokens])
    | cons q qs =>
      rw [head?_tokens] at hu
      have hpq : p.MayPrecede q := (List.isChain_cons_cons.mp h).1
      by_cases hp : ∃ p', p = .slot p'
      · -- a placeholder ends the predicate, so what follows has to begin with a sign
        obtain ⟨p', rfl⟩ := hp
        refine Or.inr (r.isSign_head_pieceTokens ?_ ?_ _ u hu)
        · rintro q' rfl
          exact hpq
        · rintro rfl
          exact hpq
      · -- every other piece ends with a sign itself
        exact Or.inl (r.isSign_getLast_pieceTokens (not_exists.mp hp) _ t ht)

end Rendering

/-! ### What stands beside what -/

namespace Piece

theorem mayPrecede_of_ne_slot {p : Piece} (h : ∀ q, p ≠ .slot q) (q : Piece) :
    p.MayPrecede q := by
  cases p with
  | slot p => exact absurd rfl (h p)
  | _ => trivial

theorem mayPrecede_piece (p : Piece) (op : Combinator) : p.MayPrecede op.piece := by
  cases p <;> cases op <;> trivial

end Piece

namespace Template

theorem isChain_enclose {ps : List Piece} (h : ps.IsChain Piece.MayPrecede) :
    (enclose ps).IsChain Piece.MayPrecede := by
  rw [enclose]
  split
  · exact List.isChain_nil
  · refine List.IsChain.cons (h.append (List.isChain_singleton _) fun p _ q hq => ?_)
      fun q _ => Piece.mayPrecede_of_ne_slot (by simp) q
    obtain rfl : Piece.closed = q := by simpa using hq
    cases p <;> trivial

theorem isChain_negate {ps : List Piece} (h : ps.IsChain Piece.MayPrecede) :
    (negate ps).IsChain Piece.MayPrecede := by
  rw [negate]
  split
  · exact List.isChain_nil
  · exact (isChain_enclose h).cons fun q _ => Piece.mayPrecede_of_ne_slot (by simp) q

theorem isChain_join (op : Combinator) {ps qs : List Piece} (hp : ps.IsChain Piece.MayPrecede)
    (hq : qs.IsChain Piece.MayPrecede) : (join op.piece ps qs).IsChain Piece.MayPrecede := by
  rw [join]
  split_ifs
  · exact hq
  · exact hp
  · refine hp.append (hq.cons fun q _ => ?_) fun p _ q hq => ?_
    · exact Piece.mayPrecede_of_ne_slot (by cases op <;> simp [Combinator.piece]) q
    · obtain rfl : op.piece = q := by simpa using hq
      exact p.mayPrecede_piece op

end Template

namespace Node

mutual

/-- **The pieces of a node** follow each other as they may. -/
theorem isChain_pieces : ∀ m : Node, m.pieces.IsChain Piece.MayPrecede
  | .leaf _ => List.isChain_singleton _
  | .group .not entries => Template.isChain_negate (isChain_piecesOfHead entries)
  | .group .and entries => isChain_piecesOfList .and entries
  | .group .or entries => isChain_piecesOfList .or entries

/-- The pieces of the first node follow each other as they may. -/
theorem isChain_piecesOfHead : ∀ ms : List Node,
    (piecesOfHead ms).IsChain Piece.MayPrecede
  | [] => List.isChain_nil
  | m :: _ => isChain_pieces m

/-- The pieces of joined nodes follow each other as they may. -/
theorem isChain_piecesOfList (op : Combinator) : ∀ ms : List Node,
    (piecesOfList op.piece ms).IsChain Piece.MayPrecede
  | [] => List.isChain_nil
  | m :: ms => by
    refine Template.isChain_join op ?_ (isChain_piecesOfList op ms)
    rw [asEntry]
    split
    · exact Template.isChain_enclose (isChain_pieces m)
    · exact isChain_pieces m

end

end Node

namespace Rendering

variable (r : Rendering) {c : Condition}

/-- The predicates of a template speak of columns if those of its condition do. -/
theorem isName_of_mem_template (h : ∀ f ∈ c.fields, Column.IsName f) :
    ∀ p ∈ Template.predicates c.template, Column.IsName p.field := fun p hp =>
  h p.field (List.mem_map_of_mem ((Node.sublist_predicates c.toNode).subset hp))

/-- **The text of a condition is made of tokens.** -/
theorem text_compile (h : ∀ f ∈ c.fields, Column.IsName f) :
    (c.compile r).text = Sql.render (r.tokens 1 c.template) :=
  (r.render_tokens (isName_of_mem_template h) 1).symm

/-- **The tokens that a database finds** in the text of a condition. -/
theorem tokens?_compile (h : ∀ f ∈ c.fields, Column.IsName f) :
    Sql.tokens? (c.compile r).text = some (r.words 1 c.template) := by
  have hapart : (r.tokens 1 c.template).IsChain Token.MayTouch :=
    r.isChain_tokens c.toNode.isChain_pieces 1
  rw [text_compile r h, Sql.tokens?, Sql.scan_render hapart, Option.map_some, filter_tokens]

end Rendering

end Catalogue
