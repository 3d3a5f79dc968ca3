import Catalogue.Proofs.Service.Listing
import Mathlib.Data.List.Count
import Mathlib.Data.List.Nodup

/-!
# Pages

A client that wants to see all books of a search may fetch them page by page: one window of some
size after another, until a page is empty (`Catalogue.Store.Paged`). Every page is a statement of
its own, and every statement arranges the rows anew. All of them arrange by the same column, but
rows that have the same in it may change places between one statement and the next.

What does not change is what the rows have in that column, place by place
(`Catalogue.Store.Database.Arranges.map_cell_eq`). So the pages end, they are in order, and every
value of the column comes as often as it is among the rows that match. That is enough for a row
whose value belongs to no other, and for all rows where the column is that of identifiers or titles
(`Catalogue.Store.paging_covers`). It is not enough for rows that share an author
(`Catalogue.Store.paging_loses_a_book`).
-/

namespace Catalogue

namespace Search

/-- A sort key that is there asks for the column of its name. One without a name asks for
identifiers, the least one first. -/
theorem GoesBy.eq_ofName? {field : String} {down : Bool} {c : Column} {descending : Bool}
    (h : GoesBy (some ⟨field, down⟩) c descending) :
    c = (Column.ofName? field).getD .id ∧ descending = (down && !field.isEmpty) := by
  cases h with
  | unnamed _ => exact ⟨rfl, (Bool.and_false _).symm⟩
  | named c _ => cases c <;> exact ⟨rfl, (Bool.and_true _).symm⟩

/-- A sort key asks for one order. -/
theorem GoesBy.unique {key : Option SortKey} {c c' : Column} {descending descending' : Bool}
    (h : GoesBy key c descending) (h' : GoesBy key c' descending') :
    c' = c ∧ descending' = descending := by
  cases key with
  | none =>
    cases h
    cases h'
    exact ⟨rfl, rfl⟩
  | some k =>
    obtain ⟨rfl, rfl⟩ := h.eq_ofName?
    exact h'.eq_ofName?

end Search

namespace Store

/-- What a row may have in a column. -/
inductive Cell where
  /-- A number, which may be missing. -/
  | number (n : Option Int64)
  /-- A text. -/
  | text (s : String)
  deriving DecidableEq

/-- What a row has **in a column**. -/
def Row.cell (c : Column) (r : Row) : Cell :=
  match c with
  | .id => .number r.id
  | .title => .text r.title
  | .author => .text r.author
  | .summary => .text r.summary

/-! ### Databases that order by values -/

namespace Database

/-- A database **orders by values**: whether a row comes before another depends on what they have in
the column, and rows that come before each other have the same. -/
def OrdersByValues (b : Database) : Prop :=
  ∀ c, ∃ le : Cell → Cell → Prop, (∀ x y, le x y → le y x → x = y) ∧
    ∀ r s, b.atMost c r s ↔ le (r.cell c) (s.cell c)

/-- A database is **keyed** if every identifier belongs to one row, and every title. -/
structure Keyed (b : Database) : Prop where
  /-- No two rows have the same identifier. -/
  ids : (b.rows.map Row.id).Nodup
  /-- No two rows have the same title. -/
  titles : (b.rows.map Row.title).Nodup

variable {b : Database} {c : Condition} {key : Column} {descending : Bool}

/-- Whether rows are in order depends on what they have in the column. -/
theorem pairwise_iff_map_cell {le : Cell → Cell → Prop}
    (hle : ∀ r s, b.atMost key r s ↔ le (r.cell key) (s.cell key)) (rows : List Row) :
    rows.Pairwise (fun r s => if descending then b.atMost key s r else b.atMost key r s) ↔
      (rows.map (Row.cell key)).Pairwise fun x y => if descending then le y x else le x y := by
  simp only [List.pairwise_map, hle]

/-- **Arrangements differ in rows only**, not in what the rows have in the column. -/
theorem Arranges.map_cell_eq (hb : b.OrdersByValues) {rows ordered ordered' : List Row}
    (h : b.Arranges key descending rows ordered) (h' : b.Arranges key descending rows ordered') :
    ordered'.map (Row.cell key) = ordered.map (Row.cell key) := by
  obtain ⟨le, hantisymm, hle⟩ := hb key
  have hperm := (h'.perm.trans h.perm.symm).map (Row.cell key)
  refine hperm.eq_of_pairwise ?_ ((pairwise_iff_map_cell hle _).mp h'.pairwise)
    ((pairwise_iff_map_cell hle _).mp h.pairwise)
  intro x y _ _ hxy hyx
  cases descending with
  | true => exact hantisymm x y hyx hxy
  | false => exact hantisymm x y hxy hyx

/-! ### What is seen of the rows that match -/

/-- Rows **cover** those that match a condition, as far as a column tells rows apart. -/
structure Covers (b : Database) (c : Condition) (key : Column) (descending : Bool)
    (rows : List Row) : Prop where
  /-- They match. -/
  mem : ∀ r ∈ rows, r ∈ b.matching c
  /-- They are as many as match. -/
  length : rows.length = (b.matching c).length
  /-- They are in order. -/
  pairwise : rows.Pairwise fun r s => if descending then b.atMost key s r else b.atMost key r s
  /-- A row that matches is among them once if no other has the same in the column. -/
  once : ∀ r ∈ b.matching c, (∀ s ∈ b.matching c, s.cell key = r.cell key → s = r) →
    rows.count r = 1
  /-- In the order of identifiers or titles they are the rows that match. -/
  all : key = .id ∨ key = .title → rows.Perm (b.matching c)

/-- Rows that match are told apart by what is unique. -/
theorem Keyed.eq_of_cell (hb : b.Keyed) (hkey : key = .id ∨ key = .title) {r s : Row}
    (hr : r ∈ b.matching c) (hs : s ∈ b.matching c) (h : s.cell key = r.cell key) : s = r := by
  have hr' : r ∈ b.rows := List.mem_of_mem_filter hr
  have hs' : s ∈ b.rows := List.mem_of_mem_filter hs
  rcases hkey with rfl | rfl
  · exact List.inj_on_of_nodup_map hb.ids hs' hr' (Cell.number.inj h)
  · exact List.inj_on_of_nodup_map hb.titles hs' hr' (Cell.text.inj h)

/-- A row that matches does so once. -/
theorem Keyed.count_matching (hb : b.Keyed) {r : Row} (hr : r ∈ b.matching c) :
    (b.matching c).count r = 1 :=
  List.count_eq_one_of_mem ((List.Nodup.of_map _ hb.ids).filter _) hr

/-- Among rows that match, one is counted by what it has in the column if no other has the same. -/
theorem count_eq_count_cell {r : Row}
    (halone : ∀ s ∈ b.matching c, s.cell key = r.cell key → s = r) {rows : List Row}
    (hmem : ∀ s ∈ rows, s ∈ b.matching c) :
    rows.count r = (rows.map (Row.cell key)).count (r.cell key) := by
  rw [List.count, List.count, List.countP_map]
  refine List.countP_congr fun s hs => ?_
  rw [Function.comp_apply, beq_iff_eq, beq_iff_eq]
  exact ⟨congrArg _, halone s (hmem s hs)⟩

/-- **Rows cover those that match** if they match and have the same in the column, one by one, as
those that match once they are arranged. -/
theorem Covers.of_cells (hb : b.Keyed) (hvalues : b.OrdersByValues) {rows ordered : List Row}
    (hordered : b.Arranges key descending (b.matching c) ordered)
    (hmem : ∀ r ∈ rows, r ∈ b.matching c)
    (hcells : rows.map (Row.cell key) = ordered.map (Row.cell key)) :
    b.Covers c key descending rows := by
  have hperm : (rows.map (Row.cell key)).Perm ((b.matching c).map (Row.cell key)) :=
    hcells ▸ hordered.perm.map _
  -- a value comes as often among the rows as among those that match, where a row comes once
  have honce : ∀ r ∈ b.matching c, (∀ s ∈ b.matching c, s.cell key = r.cell key → s = r) →
      rows.count r = 1 := by
    intro r hr halone
    rw [count_eq_count_cell halone hmem, hperm.count_eq,
      ← count_eq_count_cell halone fun _ hs => hs, hb.count_matching hr]
  refine ⟨hmem, ?_, ?_, honce, fun hkey => ?_⟩
  · simpa only [List.length_map] using hperm.length_eq
  · obtain ⟨le, -, hle⟩ := hvalues key
    rw [pairwise_iff_map_cell hle, hcells, ← pairwise_iff_map_cell hle]
    exact hordered.pairwise
  · refine List.perm_iff_count.mpr fun r => ?_
    by_cases hr : r ∈ b.matching c
    · rw [honce r hr fun s hs => hb.eq_of_cell hkey hr hs, hb.count_matching hr]
    · rw [List.count_eq_zero_of_not_mem hr, List.count_eq_zero_of_not_mem fun h => hr (hmem r h)]

end Database

/-! ### Page by page -/

section Paged

variable {ε α ρ κ : Type}

/-- A client **pages** from some offset on: it asks for one window of the same size after another,
until it gets an empty page. -/
inductive Paged (ask : Window → Except ε (List α)) (size : Nat) : Nat → List (List α) → Prop where
  /-- The page is empty. -/
  | last {offset : Nat} (h : ask ⟨offset, size⟩ = .ok []) : Paged ask size offset []
  /-- The page is not empty, and the client goes on behind it. -/
  | next {offset : Nat} {page : List α} {pages : List (List α)}
      (h : ask ⟨offset, size⟩ = .ok page) (hpage : page ≠ [])
      (rest : Paged ask size (offset + size) pages) : Paged ask size offset (page :: pages)

variable {ask : Window → Except ε (List α)} {size : Nat}

/-- There is one way to page. -/
theorem Paged.unique {offset : Nat} {pages pages' : List (List α)}
    (h : Paged ask size offset pages) (h' : Paged ask size offset pages') : pages = pages' := by
  induction h generalizing pages' with
  | last hlast =>
    cases h' with
    | last _ => rfl
    | next hask hpage _ => exact absurd (Except.ok.inj (hask.symm.trans hlast)) hpage
  | next hask hpage _ ih =>
    cases h' with
    | last hlast => exact absurd (Except.ok.inj (hask.symm.trans hlast)) hpage
    | next hask' _ rest' =>
      rw [Except.ok.inj (hask.symm.trans hask'), ih rest']

/-- **Pages end**, and what they show put together looks like a whole list, if each of them looks
like its window of the list. -/
theorem exists_paged {read : ρ → α} {look : ρ → κ} {whole : List κ} {P : ρ → Prop}
    (hsize : 0 < size)
    (hpage : ∀ offset < whole.length + size, ∃ seen : List ρ,
      ask ⟨offset, size⟩ = .ok (seen.map read) ∧ (∀ r ∈ seen, P r) ∧
        seen.map look = Window.view ⟨offset, size⟩ whole)
    (offset : Nat) (hoffset : offset < whole.length + size) :
    ∃ (pages : List (List α)) (rows : List ρ), Paged ask size offset pages ∧
      pages.flatten = rows.map read ∧ (∀ r ∈ rows, P r) ∧ rows.map look = whole.drop offset := by
  -- with every page there is less behind the offset
  induction hleft : whole.length - offset using Nat.strong_induction_on generalizing offset with
  | _ left ih =>
    obtain ⟨seen, hask, hseen, hlook⟩ := hpage offset hoffset
    change seen.map look = (whole.drop offset).take size at hlook
    rcases Nat.lt_or_ge offset whole.length with hlt | hend
    · have hne : seen.map read ≠ [] := by
        intro hnil
        have hlength := congrArg List.length hlook
        rw [List.map_eq_nil_iff.mp hnil, List.map_nil, List.length_nil, List.length_take,
          List.length_drop] at hlength
        omega
      obtain ⟨pages, rows, hpaged, hflatten, hrows, hrest⟩ :=
        ih (whole.length - (offset + size)) (by omega) (offset + size) (by omega) rfl
      refine ⟨seen.map read :: pages, seen ++ rows, .next hask hne hpaged, ?_, ?_, ?_⟩
      · rw [List.flatten_cons, hflatten, List.map_append]
      · exact List.forall_mem_append.mpr ⟨hseen, hrows⟩
      · rw [List.map_append, hlook, hrest, ← List.drop_drop, List.take_append_drop]
    · have hnone : whole.drop offset = [] := List.drop_eq_nil_of_le hend
      rw [hnone, List.take_nil, List.map_eq_nil_iff] at hlook
      subst hlook
      exact ⟨[], [], .last hask, rfl, nofun, hnone.symm⟩

end Paged

/-! ### Paging through a search -/

/-- What a client gets that **asks for the books** in a window. -/
def asked (d : Dialect) (s : Search) (answer : (s : Statement) → Except Failure s.Answer)
    (w : Window) : Except Fault (List Book) :=
  (ExceptT.run (Request.books d s w)).answered answer

/-- A page shows rows that match. Whatever the arrangement behind it is, it looks like its window of
any other one. -/
theorem exists_page {b : Database} {d : Dialect} {s : Search} {w : Window}
    {answer : (statement : Statement) → Except Failure statement.Answer} (h : s.OfColumns)
    (hvalues : b.OrdersByValues) {first : List Row}
    (hfirst : b.Arranges (Statement.orderColumn s) (Statement.isDescending s)
      (b.matching s.condition) first)
    (hanswer : b.Finds (Statement.booksText d s w) (s.condition.compile d.rendering).values
      (answer (.books s w))) :
    ∃ seen : List Row, asked d s answer w = .ok (seen.map s.exhibit) ∧
      (∀ r ∈ seen, r ∈ b.matching s.condition) ∧
      seen.map (Row.cell (Statement.orderColumn s)) =
        w.view (first.map (Row.cell (Statement.orderColumn s))) := by
  obtain ⟨ordered, harranges, hbooks⟩ := hanswer.exists_eq h
  have hmem : ∀ r ∈ w.view ordered, r ∈ b.matching s.condition :=
    fun r hr => harranges.perm.subset (List.mem_of_mem_drop (List.mem_of_mem_take hr))
  rw [Search.mapM_readRow fun r hr => b.numbered r (List.mem_of_mem_filter (hmem r hr))] at hbooks
  refine ⟨w.view ordered, ?_, hmem, ?_⟩
  · exact Request.answered_checkColumns answer d (Search.ofColumns_iff.mp h) .findAll hbooks
  · rw [Window.view, List.map_take, List.map_drop, hfirst.map_cell_eq hvalues harranges]
    rfl

/-- **Paging covers the rows that match, as far as the order tells them apart.** A search of columns
is put to a database window by window, as one text after another. Let the database answer what it
reads in the texts, arranging the rows for each of them anew, by the values in the column. Then the
pages end. Put together they show rows that match, as many as there are, in the order of the search;
a row is shown exactly once if no other has the same in the column, and so is every row where the
column is that of identifiers or titles. -/
theorem paging_covers (b : Database) (d : Dialect) (s : Search) (size : Nat)
    (answer : (statement : Statement) → Except Failure statement.Answer) (hsize : 0 < size)
    (h : ∀ name ∈ s.columns, Column.IsName name) (hkeyed : b.Keyed) (hvalues : b.OrdersByValues)
    (hanswer : ∀ offset < (b.matching s.condition).length + size,
      b.Finds (Statement.booksText d s ⟨offset, size⟩) (s.condition.compile d.rendering).values
        (answer (.books s ⟨offset, size⟩)))
    (key : Column) (descending : Bool) (hkey : Search.GoesBy s.order key descending) :
    ∃ pages rows, Paged (asked d s answer) size 0 pages ∧ pages.flatten = rows.map s.exhibit ∧
      b.Covers s.condition key descending rows := by
  have hcolumns : s.OfColumns := Search.ofColumns_iff.mpr h
  obtain ⟨rfl, rfl⟩ := hcolumns.goesBy.unique hkey
  have hstart : 0 < (b.matching s.condition).length + size := Nat.add_pos_right _ hsize
  -- all pages are compared with the arrangement behind the first one
  obtain ⟨first, hfirst, -⟩ := (hanswer 0 hstart).exists_eq hcolumns
  have hlength : (first.map (Row.cell (Statement.orderColumn s))).length =
      (b.matching s.condition).length := by
    rw [List.length_map, hfirst.perm.length_eq]
  rw [← hlength] at hanswer hstart
  obtain ⟨pages, rows, hpaged, hflatten, hrows, hcells⟩ :=
    exists_paged hsize
      (fun offset hoffset => exists_page hcolumns hvalues hfirst (hanswer offset hoffset)) 0 hstart
  exact ⟨pages, rows, hpaged, hflatten, .of_cells hkeyed hvalues hfirst hrows hcells⟩

/-! ### Tables -/

/-- What is in a column comes **no later than** something else in it. -/
def Cell.atMost : Cell → Cell → Bool
  | .number none, .number _ => true
  | .number (some _), .number none => false
  | .number (some m), .number (some n) => m ≤ n
  | .text s, .text t => Table.textAtMost s t
  | _, _ => false

/-- What comes before each other is the same. -/
theorem Cell.atMost_antisymm {x y : Cell} (hxy : x.atMost y = true) (hyx : y.atMost x = true) :
    x = y := by
  rcases x with (_ | m) | s <;> rcases y with (_ | n) | t
  · rfl
  · cases hyx
  · cases hxy
  · cases hxy
  · exact congrArg (fun n => Cell.number (some n))
      (Int64.le_antisymm (of_decide_eq_true hxy) (of_decide_eq_true hyx))
  · cases hxy
  · cases hxy
  · cases hxy
  · exact congrArg Cell.text
      (le_antisymm ((Table.textAtMost_iff s t).mp hxy) ((Table.textAtMost_iff t s).mp hyx))

namespace Table

/-- Rows of a table are compared by what they have in the column. -/
theorem atMost_eq (c : Column) (r s : Row) : atMost c r s = (r.cell c).atMost (s.cell c) := by
  cases c with
  | id =>
    rw [atMost, Row.cell, Row.cell]
    cases r.id <;> cases s.id <;> rfl
  | title => rfl
  | author => rfl
  | summary => rfl

/-- **A table orders by values.** -/
theorem ordersByValues {t : Table} (ht : ∀ r ∈ t.rows, r.id.isSome) :
    (t.database ht).OrdersByValues := by
  refine fun c => ⟨fun x y => x.atMost y = true, fun _ _ => Cell.atMost_antisymm, fun r s => ?_⟩
  change atMost c r s = true ↔ _
  rw [atMost_eq]

end Table

/-- All books, by their authors. -/
def byAuthor : Search := ⟨none, .empty, some ⟨"author", false⟩⟩

theorem numbered_fourBooks : ∀ r ∈ Service.fourBooks.rows, r.id.isSome := by decide

/-- Four books are paged through by their authors. One of them has two of the books; another has
one, and it is shown once. -/
theorem paging_covers_fourBooks :
    (∀ name ∈ byAuthor.columns, Column.IsName name) ∧
    (Service.fourBooks.database numbered_fourBooks).Keyed ∧
    (Service.fourBooks.database numbered_fourBooks).OrdersByValues ∧
    Search.GoesBy byAuthor.order .author false ∧
    ∃ (pages : List (List Book)) (rows : List Row),
      Paged (asked .sqlite byAuthor fun statement =>
        (statement.executeOn .sqlite Service.fourBooks).1) 3 0 pages ∧
      pages.flatten = rows.map byAuthor.exhibit ∧ rows.length = 4 ∧
      rows.count ⟨some 4, "Tintin in Tibet", "Herge", ""⟩ = 1 := by
  have h : ∀ name ∈ byAuthor.columns, Column.IsName name := by decide
  have hkeyed : (Service.fourBooks.database numbered_fourBooks).Keyed := ⟨by decide, by decide⟩
  have hvalues : (Service.fourBooks.database numbered_fourBooks).OrdersByValues :=
    Table.ordersByValues numbered_fourBooks
  have hkey : Search.GoesBy byAuthor.order .author false := .named .author false
  -- the table refuses none of the pages, and gives up on none
  have hfault : ∀ offset < 4 + 3, ((Statement.expressionFault? .sqlite byAuthor.condition).or
      (Statement.widthFault? byAuthor)).or (Statement.windowFault? ⟨offset, 3⟩) = none := by
    decide
  have hgoes : ∀ offset < 4 + 3,
      Statement.searchGivesUp byAuthor ⟨offset, 3⟩ Service.fourBooks = false := by
    decide
  obtain ⟨pages, rows, hpaged, hflatten, hcovers⟩ :=
    paging_covers (Service.fourBooks.database numbered_fourBooks) .sqlite byAuthor 3
      (fun statement => (statement.executeOn .sqlite Service.fourBooks).1) (by decide) h hkeyed
      hvalues
      (fun offset hoffset => Table.finds_executeOn numbered_fourBooks (Search.ofColumns_iff.mpr h)
        (hfault offset hoffset) (hgoes offset hoffset))
      .author false hkey
  have hmem : ⟨some 4, "Tintin in Tibet", "Herge", ""⟩ ∈
      (Service.fourBooks.database numbered_fourBooks).matching byAuthor.condition := by decide
  exact ⟨h, hkeyed, hvalues, hkey, pages, rows, hpaged, hflatten, hcovers.length,
    hcovers.once _ hmem (by decide)⟩

/-! ### Ties -/

/-- A search is answered by any arrangement of the rows that match. -/
theorem Database.Finds.of_arranges {b : Database} {s : Search} {ordered : List Row} (d : Dialect)
    (w : Window) (h : s.OfColumns)
    (hordered : b.Arranges (Statement.orderColumn s) (Statement.isDescending s)
      (b.matching s.condition) ordered) :
    b.Finds (Statement.booksText d s w) (s.condition.compile d.rendering).values
      ((w.view ordered).mapM (Statement.readRow (Statement.shownColumns s))) := by
  intro q hq
  rw [Statement.ofText?_booksText d h w] at hq
  cases hq
  refine ⟨ordered, ?_, rfl⟩
  rwa [Database.kept_read h.isName_of_mem_fields]

/-- Two books of one author. -/
def tiedBooks : Table :=
  ⟨[⟨some 1, "Tintin in Tibet", "Herge", ""⟩, ⟨some 2, "Tintin in America", "Herge", ""⟩], 2, true⟩

theorem numbered_tiedBooks : ∀ r ∈ tiedBooks.rows, r.id.isSome := by decide

/-- How the two books come for a window: the first one first, and for the second page the other way
round. -/
def shuffled (w : Window) : List Row :=
  if w.offset = 1 then tiedBooks.rows.reverse else tiedBooks.rows

/-- A database that shows them like that. -/
def shuffling : (statement : Statement) → Except Failure statement.Answer
  | .books s w => (w.view (shuffled w)).mapM (Statement.readRow (Statement.shownColumns s))
  | statement => (statement.executeOn .sqlite tiedBooks).1

/-- Both ways they are in the order of authors. -/
theorem arranges_shuffled (w : Window) :
    (tiedBooks.database numbered_tiedBooks).Arranges (Statement.orderColumn byAuthor)
      (Statement.isDescending byAuthor)
      ((tiedBooks.database numbered_tiedBooks).matching byAuthor.condition) (shuffled w) := by
  rw [shuffled]
  split_ifs
  · exact ⟨List.reverse_perm _, List.pairwise_pair.mpr rfl⟩
  · exact ⟨.refl _, List.pairwise_pair.mpr rfl⟩

/-- **Paging by authors loses a book** of two that share one. Every page is in order, but the pages
do not agree on which of the two comes first: the first book is shown twice, and the second one
never. -/
theorem paging_loses_a_book :
    (∀ name ∈ byAuthor.columns, Column.IsName name) ∧
    (tiedBooks.database numbered_tiedBooks).Keyed ∧
    (tiedBooks.database numbered_tiedBooks).OrdersByValues ∧
    (∀ w, (tiedBooks.database numbered_tiedBooks).Finds (Statement.booksText .sqlite byAuthor w)
      (byAuthor.condition.compile Dialect.sqlite.rendering).values
      (shuffling (.books byAuthor w))) ∧
    Paged (asked .sqlite byAuthor shuffling) 1 0
      [[⟨1, "Tintin in Tibet", "Herge", ""⟩], [⟨1, "Tintin in Tibet", "Herge", ""⟩]] ∧
    ⟨some 2, "Tintin in America", "Herge", ""⟩ ∈
      (tiedBooks.database numbered_tiedBooks).matching byAuthor.condition ∧
    ∀ pages, Paged (asked .sqlite byAuthor shuffling) 1 0 pages →
      ⟨2, "Tintin in America", "Herge", ""⟩ ∉ pages.flatten := by
  have h : ∀ name ∈ byAuthor.columns, Column.IsName name := by decide
  have hpaged : Paged (asked .sqlite byAuthor shuffling) 1 0
      [[⟨1, "Tintin in Tibet", "Herge", ""⟩], [⟨1, "Tintin in Tibet", "Herge", ""⟩]] :=
    .next rfl (List.cons_ne_nil _ _) (.next rfl (List.cons_ne_nil _ _) (.last rfl))
  refine ⟨h, ⟨by decide, by decide⟩, Table.ordersByValues numbered_tiedBooks, fun w => ?_, hpaged,
    by decide, fun pages hpages => ?_⟩
  · exact .of_arranges .sqlite w (Search.ofColumns_iff.mpr h) (arranges_shuffled w)
  · rw [hpages.unique hpaged]
    decide

end Store

end Catalogue
