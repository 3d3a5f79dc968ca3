import Catalogue.Proofs.Condition.Evaluation
import Catalogue.Proofs.Store.Phrases

/-!
# What the statements of a search ask for

A search is put to the database as two texts, one that counts and one that shows, and each of them
is put together on its own. This file reads both as a database does
(`Catalogue.Sql.Query.ofText?`). The one asks how many rows there are of which an expression is
true, and the other for the rows of which the same expression is true; besides, it says which
columns are shown, in which order, and which part of the rows
(`Catalogue.Store.Statement.ofText?_countText`, `Catalogue.Store.Statement.ofText?_booksText`).
-/

namespace Catalogue

open Sql (Token Query arrangementPhrases)

/-- There is no order in the text of a condition. -/
theorem Rendering.order_notMem_words (r : Rendering) (n : Nat) (ps : List Piece) :
    .word .order ∉ r.words n ps := by
  induction ps generalizing n with
  | nil => exact List.not_mem_nil
  | cons p ps ih =>
    rw [words, List.mem_append, not_or]
    refine ⟨?_, ih _⟩
    cases p with
    | slot p =>
      rw [pieceWords]
      generalize r.atom n p = a
      obtain ⟨c, form, mark⟩ := a
      cases form <;> cases mark <;> simp [Sql.Atom.tokens, Sql.Mark.tokens]
    | _ => simp [pieceWords]

/-- **A database finds the expression of a condition** behind the table. -/
theorem Condition.source?_words (r : Rendering) (c : Condition) (us : List Token)
    (hus : ∀ t ∈ us.head?, t = .word .order) :
    Sql.source? (.word .source :: .word .books :: (Sql.words (c.phrases r) ++ us)) =
      some (Sql.read (r.words 1 c.template), us) := by
  rw [Sql.source?]
  by_cases hnil : c.template = []
  · -- an order is no expression
    rw [phrases_of_eq_nil r hnil, hnil, Sql.words_nil, List.nil_append]
    cases us with
    | nil => rfl
    | cons u us =>
      obtain rfl := hus u rfl
      rfl
  · obtain ⟨e, he, -, -⟩ := exists_read_words r hnil
    rw [phrases_of_ne_nil r hnil, Sql.words_cons, Sql.words_cons, r.filter_tokens, Sql.words_nil,
      List.append_nil, he]
    exact Sql.filter?_words he (r.order_notMem_words 1 c.template) hus

namespace Store.Statement

variable (d : Dialect) {s : Search}

/-- **The statement that counts** asks how many rows there are of which the expression of the
condition is true. -/
theorem ofText?_countText {c : Condition} (h : ∀ f ∈ c.fields, Column.IsName f) :
    Query.ofText? (countText d c) = some (.count (Sql.read (d.rendering.words 1 c.template))) := by
  have hchain : ∀ p ∈ countPhrases d c, p.IsChain Token.MayTouch := by
    simp only [countPhrases, List.forall_mem_cons]
    exact ⟨by decide, by decide, by decide, c.isChain_of_mem_phrases d.rendering⟩
  have hsource := Condition.source?_words d.rendering c [] (by simp)
  rw [List.append_nil] at hsource
  rw [Query.ofText?, countText_eq d h,
    Sql.tokens?_render_spaced (List.isChain_singleton _) hchain, Option.bind_some]
  exact Query.ofTokens?_count hsource

/-- **The statement that shows** asks for the rows of which the expression of the condition is true,
with the columns, in the order and in the window of the search. -/
theorem ofText?_booksText (h : s.OfColumns) (w : Window) :
    Query.ofText? (booksText d s w) =
      some (.rows ⟨shownColumns s, Sql.read (d.rendering.words 1 s.condition.template),
        orderColumn s, isDescending s, w⟩) := by
  have hchain : ∀ p ∈ booksPhrases d s w, p.IsChain Token.MayTouch := by
    simp only [booksPhrases, List.forall_mem_append, List.forall_mem_cons]
    exact ⟨Sql.isChain_of_mem_columnPhrases _, by decide, by decide,
      s.condition.isChain_of_mem_phrases d.rendering, Sql.isChain_of_mem_arrangementPhrases⟩
  have hsource := Condition.source?_words d.rendering s.condition
    (Sql.words (arrangementPhrases (orderColumn s) (isDescending s) w))
    (by simp [arrangementPhrases])
  rw [← Sql.words_append] at hsource
  rw [Query.ofText?, booksText_eq d h w,
    Sql.tokens?_render_spaced (List.isChain_singleton _) hchain, Option.bind_some, Sql.words_cons,
    booksPhrases, Sql.words_append]
  exact Query.ofTokens?_rows ⟨shownColumns s, _, orderColumn s, isDescending s, w⟩
    (shownColumns_ne_nil h) hsource

end Store.Statement

end Catalogue
