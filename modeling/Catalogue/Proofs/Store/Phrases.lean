import Catalogue.Proofs.Condition.Tokens
import Catalogue.Proofs.Sql.Query
import Catalogue.Store.Statement

/-!
# Searches as phrases

A search names columns, and it is put to the database only if all names in it are names of columns
(`Catalogue.Search.OfColumns`). This file says what its two texts are made of then: phrases with
spaces between them (`Catalogue.Store.Statement.countPhrases`,
`Catalogue.Store.Statement.booksPhrases`), of which those of the condition are the same in both
(`Catalogue.Condition.phrases`).
-/

namespace Catalogue

open Sql (Token spaced columnPhrases arrangementPhrases)

/-! ### Searches of columns -/

/-- **Every name in a search is that of a column**: those that are shown, those that are compared,
and the one that the order goes by, unless it is empty. -/
structure Search.OfColumns (s : Search) : Prop where
  /-- The names that are shown. -/
  select : ∀ names, s.select = some names → ∀ name ∈ names, Column.IsName name
  /-- The names that are compared. -/
  condition : ∀ p ∈ s.condition.predicates, Column.IsName p.field
  /-- The name that the order goes by. -/
  order : ∀ k, s.order = some k → k.field ≠ "" → Column.IsName k.field

namespace Search

variable {s : Search}

/-- The name that the order goes by, if it is not empty. -/
theorem order?_eq_some {k : SortKey} : s.order? = some k ↔ s.order = some k ∧ k.field ≠ "" := by
  rw [order?, Option.filter_eq_some_iff]
  simp

/-- The columns that a search speaks of are all the names in it. -/
theorem ofColumns_iff : s.OfColumns ↔ ∀ name ∈ s.columns, Column.IsName name := by
  constructor
  · rintro ⟨hselect, hcondition, horder⟩ name hname
    rw [columns, List.mem_append, List.mem_append] at hname
    rcases hname with (hname | hname) | hname
    · rw [shown] at hname
      cases hs : s.select with
      | none => simp [hs] at hname
      | some names => exact hselect names hs name (by simpa [hs] using hname)
    · obtain ⟨p, hp, rfl⟩ := List.mem_map.mp hname
      exact hcondition p hp
    · rw [Option.mem_toList, Option.map_eq_some_iff] at hname
      obtain ⟨k, hk, rfl⟩ := hname
      obtain ⟨hk, hne⟩ := order?_eq_some.mp hk
      exact horder k hk hne
  · intro h
    refine ⟨fun names hs name hname => h name ?_, fun p hp => h p.field ?_, fun k hk hne => ?_⟩
    · simp [columns, shown, hs, hname]
    · exact List.mem_append_left _ (List.mem_append_right _ (List.mem_map_of_mem hp))
    · have hk : s.order? = some k := order?_eq_some.mpr ⟨hk, hne⟩
      exact h k.field (by simp [columns, hk])

/-- The names that are shown are those of columns. -/
theorem OfColumns.isName_of_mem_shown (h : s.OfColumns) : ∀ name ∈ s.shown, Column.IsName name :=
  fun name hname =>
    (ofColumns_iff.mp h) name (List.mem_append_left _ (List.mem_append_left _ hname))

/-- The order goes by a column, if it goes by anything. -/
theorem OfColumns.exists_column (h : s.OfColumns) {k : SortKey} (hk : s.order? = some k) :
    ∃ c : Column, c.name = k.field := by
  obtain ⟨hk, hne⟩ := order?_eq_some.mp hk
  obtain ⟨c, hc⟩ := Column.isName_iff.mp (h.order k hk hne)
  exact ⟨c, Column.name_of_ofName? hc⟩

/-- The fields of the condition of such a search are columns. -/
theorem OfColumns.isName_of_mem_fields (h : s.OfColumns) :
    ∀ f ∈ s.condition.fields, Column.IsName f := by
  intro f hf
  obtain ⟨p, hp, rfl⟩ := List.mem_map.mp hf
  exact h.condition p hp

end Search

/-! ### The phrases of a condition -/

namespace Condition

variable {c : Condition} (r : Rendering)

/-- The **phrases of a condition**, with its word in front; none if nothing is written. -/
def phrases (c : Condition) (r : Rendering) : List (List Token) :=
  if c.template.isEmpty then [] else [[.word .filter], r.tokens 1 c.template]

theorem phrases_of_eq_nil (h : c.template = []) : c.phrases r = [] := by
  rw [phrases, h]
  rfl

theorem phrases_of_ne_nil (h : c.template ≠ []) :
    c.phrases r = [[.word .filter], r.tokens 1 c.template] := by
  rw [phrases, if_neg (by simpa using h)]

/-- The phrases make up the part of a statement that filters rows. -/
theorem render_phrases (h : ∀ f ∈ c.fields, Column.IsName f) :
    Sql.render (spaced (c.phrases r)) = (c.compile r).filter := by
  have htext : (c.compile r).text = "" ↔ c.template = [] := r.fill_eq_empty_iff 1 c.template
  rw [Clause.filter]
  by_cases hnil : c.template = []
  · rw [phrases_of_eq_nil r hnil, if_pos (String.isEmpty_iff.mpr (htext.mpr hnil))]
    rfl
  · have hne : ¬(c.compile r).text.isEmpty = true := fun hempty =>
      hnil (htext.mp (String.isEmpty_iff.mp hempty))
    rw [phrases_of_ne_nil r hnil, if_neg hne, r.text_compile h, ← String.toList_inj]
    simp [Sql.render, Token.text, Sql.Word.text]

/-- The tokens of the phrases are kept apart. -/
theorem isChain_of_mem_phrases (c : Condition) : ∀ p ∈ c.phrases r, p.IsChain Token.MayTouch := by
  intro p hp
  by_cases hnil : c.template = []
  · rw [phrases_of_eq_nil r hnil] at hp
    exact absurd hp List.not_mem_nil
  · rw [phrases_of_ne_nil r hnil, List.mem_pair] at hp
    rcases hp with rfl | rfl
    · exact List.isChain_singleton _
    · exact r.isChain_tokens c.toNode.isChain_pieces 1

end Condition

namespace Store.Statement

variable (d : Dialect) {s : Search}

/-! ### Columns and order -/

/-- The names of columns are those that were given. -/
theorem map_name_filterMap {names : List String} (h : ∀ name ∈ names, Column.IsName name) :
    (names.filterMap Column.ofName?).map Column.name = names := by
  induction names with
  | nil => rfl
  | cons name names ih =>
    obtain ⟨c, hc⟩ := Column.isName_iff.mp (h name List.mem_cons_self)
    rw [List.filterMap_cons_some hc, List.map_cons, Column.name_of_ofName? hc,
      ih fun n hn => h n (List.mem_cons_of_mem _ hn)]

/-- A search shows the columns whose names are in its text. -/
theorem shownText_eq (h : s.OfColumns) :
    shownText s = commaList ((shownColumns s).map Column.name) := by
  rw [shownText, shownColumns]
  split
  · rfl
  · rw [map_name_filterMap h.isName_of_mem_shown]

/-- A search shows some column. -/
theorem shownColumns_ne_nil (h : s.OfColumns) : shownColumns s ≠ [] := by
  rw [shownColumns]
  split
  · exact List.cons_ne_nil _ _
  · intro hnil
    have hnames := map_name_filterMap h.isName_of_mem_shown
    rw [hnil, List.map_nil] at hnames
    exact ‹¬s.shown.isEmpty = true› (by rw [← hnames]; rfl)

/-- Columns with commas between them are phrases with spaces in front. -/
theorem render_columnPhrases : ∀ {cs : List Column}, cs ≠ [] →
    Sql.render (spaced (columnPhrases cs)) = " " ++ commaList (cs.map Column.name)
  | [], h => absurd rfl h
  | [c], _ => by
    cases c <;> decide
  | c :: c' :: cs, _ => by
    have ih := render_columnPhrases (List.cons_ne_nil c' cs)
    rw [List.map_cons, List.map_cons, commaList, String.intercalate_cons_cons]
    rw [List.map_cons, commaList] at ih
    change Sql.render ([.word .space, .word (.column c), .word .comma] ++
      spaced (columnPhrases (c' :: cs))) = _
    rw [Sql.render_append, ih, ← String.toList_inj]
    simp [Sql.render, Token.text, Sql.Word.text]

/-- The order of a search is given by its column and its direction. -/
theorem orderText_eq (h : s.OfColumns) :
    orderText s = (orderColumn s).name ++ (if isDescending s then " DESC" else " ASC") := by
  rw [orderText, orderColumn, isDescending]
  cases hk : s.order? with
  | none => rfl
  | some k =>
    obtain ⟨c, hc⟩ := h.exists_column hk
    rw [Option.bind_some, Option.map_some, ← hc, Column.ofName?_name, Option.getD_some,
      Option.getD_some, hc]

/-- The order and the window of a search are phrases with spaces in front. -/
theorem render_arrangementPhrases (h : s.OfColumns) (w : Window) :
    Sql.render (spaced (arrangementPhrases (orderColumn s) (isDescending s) w)) =
      " ORDER BY " ++ orderText s ++ w.clause := by
  rw [orderText_eq h, Window.clause, ← String.toList_inj]
  cases isDescending s <;> simp [arrangementPhrases, Sql.render, Token.text, Sql.Word.text]

/-! ### The two statements -/

/-- The phrases of the statement that counts, behind its first word. -/
def countPhrases (d : Dialect) (c : Condition) : List (List Token) :=
  [.word .count, .word .opened, .word .star, .word .closed] :: [.word .source] :: [.word .books] ::
    c.phrases d.rendering

/-- The phrases of the statement that shows books, behind its first word. -/
def booksPhrases (d : Dialect) (s : Search) (w : Window) : List (List Token) :=
  columnPhrases (shownColumns s) ++ [.word .source] :: [.word .books] ::
    (s.condition.phrases d.rendering ++
      arrangementPhrases (orderColumn s) (isDescending s) w)

/-- The statement that counts is made of its phrases. -/
theorem countText_eq {c : Condition} (h : ∀ f ∈ c.fields, Column.IsName f) :
    countText d c = Sql.render ([.word .select] ++ spaced (countPhrases d c)) := by
  have hcount : "SELECT COUNT(*) FROM books" =
      Sql.render [.word .select, .word .space, .word .count, .word .opened, .word .star,
        .word .closed, .word .space, .word .source, .word .space, .word .books] := by decide
  unfold countText
  rw [hcount, ← Condition.render_phrases d.rendering h, ← Sql.render_append]
  exact congrArg Sql.render (by simp [countPhrases])

/-- The statement that shows books is made of its phrases. -/
theorem booksText_eq (h : s.OfColumns) (w : Window) :
    booksText d s w = Sql.render ([.word .select] ++ spaced (booksPhrases d s w)) := by
  have hcolumns := render_columnPhrases (shownColumns_ne_nil h)
  have harrangement := render_arrangementPhrases h w
  have hselect : "SELECT " = Sql.render [.word .select] ++ " " := by decide
  have hsource : " FROM books" =
      Sql.render [.word .space, .word .source, .word .space, .word .books] := by decide
  rw [← shownText_eq h] at hcolumns
  calc booksText d s w
      = Sql.render [.word .select] ++ (" " ++ shownText s) ++ " FROM books" ++
          (s.condition.compile d.rendering).filter ++
          (" ORDER BY " ++ orderText s ++ w.clause) := by
        simp only [booksText, hselect, String.append_assoc]
    _ = Sql.render ([.word .select] ++ spaced (booksPhrases d s w)) := by
        rw [← hcolumns, ← harrangement, hsource,
          ← Condition.render_phrases d.rendering h.isName_of_mem_fields]
        simp only [← Sql.render_append]
        exact congrArg Sql.render (by simp [booksPhrases])

end Store.Statement

end Catalogue
