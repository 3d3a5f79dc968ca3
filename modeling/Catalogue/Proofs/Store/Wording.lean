import Catalogue.Proofs.Condition.Shape
import Catalogue.Proofs.Store.Phrases
import Catalogue.Store.Request

/-!
# How searches are put to the database

The text of a statement that searches or counts is made of names that a client has sent and of
words of the catalogue's own. This file says what keeps the two apart. A search is put to the
database only if all names in it are names of columns (`Catalogue.Search.OfColumns`); its text is
then a row of tokens from a fixed stock (`Catalogue.Store.Statement.made_booksText`), and whatever
values the client has sent stay out of it.
-/

namespace Catalogue

namespace Store

/-! ### What is put -/

/-- The statement that a process **puts first**, if it puts any. -/
def Process.first? {α : Type} : Process α → Option Statement
  | .done _ => none
  | .ask s _ => some s

namespace Request

variable (d : Dialect)

theorem unknownColumn?_eq_none_iff {names : List String} :
    unknownColumn? names = none ↔ ∀ name ∈ names, Column.IsName name := by
  rw [unknownColumn?, List.find?_eq_none]
  refine forall₂_congr fun name _ => ?_
  rw [Column.isName_iff, ← Option.isSome_iff_exists, Option.isNone_iff_eq_none,
    Option.isSome_iff_ne_none]

/-- Behind a check of names, a request puts its statement exactly if all names are columns. -/
theorem first?_checkColumns (op : Operation) (names : List String) (st : Statement) :
    Process.first? (ExceptT.run (do checkColumns op names; perform d op st)) = some st ↔
      ∀ name ∈ names, Column.IsName name := by
  rw [← unknownColumn?_eq_none_iff, checkColumns]
  cases unknownColumn? names with
  | none => exact iff_of_true rfl rfl
  | some name => exact iff_of_false (fun h => nomatch h) (fun h => nomatch h)

end Request

/-! ### What it is made of -/

namespace Statement

open Sql (Made)

variable {s : Search}

/-- **The statement of a search of columns is made of tokens.** -/
theorem made_booksText (d : Dialect) (h : s.OfColumns) (w : Window) : Made (booksText d s w) :=
  ⟨_, booksText_eq d h w⟩

/-- The statement of a count is made of tokens. -/
theorem made_countText (d : Dialect) {c : Condition} (h : ∀ f ∈ c.fields, Column.IsName f) :
    Made (countText d c) :=
  ⟨_, countText_eq d h⟩

/-! ### What it does not depend on -/

/-- The condition of a search is written without its values. -/
theorem filter_eq_of_shape (r : Rendering) {c c' : Condition} (h : c'.shape = c.shape) :
    (c'.compile r).filter = (c.compile r).filter := by
  have htext : (c'.compile r).text = (c.compile r).text := by
    rw [← c'.text_shape, h, c.text_shape]
  rw [Clause.filter, Clause.filter, htext]

/-- The statement of a search depends on its condition through the part that filters rows. -/
theorem booksText_eq_of_filter (d : Dialect) {s s' : Search} (w : Window)
    (hselect : s'.select = s.select) (horder : s'.order = s.order)
    (hfilter : (s'.condition.compile d.rendering).filter =
      (s.condition.compile d.rendering).filter) : booksText d s' w = booksText d s w := by
  have hshown : s'.shown = s.shown := by rw [Search.shown, Search.shown, hselect]
  have horder : s'.order? = s.order? := by rw [Search.order?, Search.order?, horder]
  have hshownText : shownText s' = shownText s := by rw [shownText, shownText, hshown]
  have horderText : orderText s' = orderText s := by rw [orderText, orderText, horder]
  rw [booksText, booksText, hshownText, horderText, hfilter]

/-- **Values stay out of statements.** A search is put to the database exactly if every name in it
is that of a column. The text of the search, and that of the count for its condition, are then made
of tokens, and searches that differ in nothing but values have the same texts. -/
theorem statements_keep_values_out (d : Dialect) (s : Search) (w : Window) :
    (Process.first? (ExceptT.run (Request.books d s w)) = some (.books s w) ↔ s.OfColumns) ∧
      (s.OfColumns →
        Process.first? (ExceptT.run (Request.count d s.condition)) = some (.count s.condition) ∧
        (∃ text, (books s w).text? d = some text ∧ Made text) ∧
        ∃ text, (count s.condition).text? d = some text ∧ Made text) ∧
      ∀ s' : Search, s'.select = s.select → s'.order = s.order →
        s'.condition.shape = s.condition.shape →
        (books s' w).text? d = (books s w).text? d ∧
          (count s'.condition).text? d = (count s.condition).text? d := by
  refine ⟨?_, fun h => ⟨?_, ⟨_, rfl, ?_⟩, ⟨_, rfl, ?_⟩⟩, fun s' hselect horder hshape => ?_⟩
  · rw [Search.ofColumns_iff]
    exact Request.first?_checkColumns d .findAll s.columns (.books s w)
  · refine (Request.first?_checkColumns d .count s.condition.fields (.count s.condition)).mpr ?_
    exact h.isName_of_mem_fields
  · exact made_booksText d h w
  · exact made_countText d h.isName_of_mem_fields
  · have hfilter := filter_eq_of_shape d.rendering hshape
    refine ⟨congrArg some (booksText_eq_of_filter d w hselect horder hfilter), ?_⟩
    exact congrArg (fun filter => some ("SELECT COUNT(*) FROM books" ++ filter)) hfilter

/-- A search with a value that looks like SQL. -/
def quoting (value : String) : Search :=
  ⟨some ["id", "title"],
    ⟨.or, [.leaf ⟨"title", .ilike, .text value⟩, .leaf ⟨"id", .equal, .integer 7⟩]⟩,
    some ⟨"author", true⟩⟩

theorem statements_keep_values_out_quoting :
    (quoting "' OR 1 = 1 --").OfColumns ∧
      (∃ text, (books (quoting "' OR 1 = 1 --") .default).text? .postgres = some text ∧
        Made text) ∧
      (books (quoting "' OR 1 = 1 --") .default).text? .postgres =
        (books (quoting "Tintin") .default).text? .postgres ∧
      (books (quoting "Tintin") .default).text? .postgres =
        some ("SELECT id, title FROM books WHERE title ILIKE $1 OR id = $2" ++
          " ORDER BY author DESC LIMIT 1000 OFFSET 0") := by
  have hcolumns : (quoting "' OR 1 = 1 --").OfColumns :=
    Search.ofColumns_iff.mpr (by decide)
  obtain ⟨-, hmade, hsame⟩ :=
    statements_keep_values_out .postgres (quoting "' OR 1 = 1 --") .default
  exact ⟨hcolumns, (hmade hcolumns).2.1, ((hsame (quoting "Tintin") rfl rfl rfl).1).symm, by decide⟩

end Statement

end Store

end Catalogue
