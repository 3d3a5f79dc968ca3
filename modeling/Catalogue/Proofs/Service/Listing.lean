import Catalogue.Proofs.Store.Answers
import Catalogue.Proofs.Store.Run
import Catalogue.Proofs.Store.Wording
import Catalogue.Service.Books

/-!
# Lists

A list is made by two statements, of which one counts the rows and the other fetches those in the
window. Nothing but the condition is common to them. This file says that they agree: whatever the
database holds, and however it compares, the count is the number of rows that match the condition,
and the data are the part of these rows that lies in the window, in the order and with the columns
of the search (`Catalogue.Service.Lists`).

The database is seen through its answers only (`Catalogue.Store.Process.answered`), and it answers
what it reads in the texts of the statements. So that no other request comes between them, one
database answers both.
-/

namespace Catalogue

open Store (Database Process Row Session Statement Table)

/-! ### What a search asks for -/

namespace Search

/-- The **order that a sort key asks for**: that of identifiers with the least one first, unless the
key names a column. -/
inductive GoesBy : Option SortKey → Column → Bool → Prop
  /-- There is no key. -/
  | absent : GoesBy none .id false
  /-- The key names nothing. -/
  | unnamed (descending : Bool) : GoesBy (some ⟨"", descending⟩) .id false
  /-- The key names a column. -/
  | named (c : Column) (descending : Bool) : GoesBy (some ⟨c.name, descending⟩) c descending

/-- A column is **selected** if it is named, and every column is if none is named. -/
def selects (s : Search) (c : Column) : Bool := s.shown.isEmpty || s.shown.contains c.name

/-- What a search **exhibits of a row**: what is in the columns that are selected, and nothing in
the others. -/
def exhibit (s : Search) (r : Row) : Book where
  id := if s.selects .id then r.id.getD 0 else 0
  title := if s.selects .title then r.title else ""
  author := if s.selects .author then r.author else ""
  summary := if s.selects .summary then r.summary else ""

variable {s : Search}

/-- A search asks for the order that it is put with. -/
theorem OfColumns.goesBy (h : s.OfColumns) :
    GoesBy s.order (Statement.orderColumn s) (Statement.isDescending s) := by
  rw [Statement.orderColumn, Statement.isDescending]
  rcases horder : s.order with _ | ⟨field, descending⟩
  · have hnone : s.order? = none := by rw [order?, horder]; rfl
    rw [hnone]
    exact .absent
  · by_cases hempty : field = ""
    · -- a key without a name counts as none, whatever its direction
      subst hempty
      have hnone : s.order? = none := by rw [order?, horder]; rfl
      rw [hnone]
      exact .unnamed descending
    · have hsome : s.order? = some ⟨field, descending⟩ := order?_eq_some.mpr ⟨horder, hempty⟩
      obtain ⟨c, rfl⟩ := h.exists_column hsome
      rw [hsome, Option.bind_some, Option.map_some, Column.ofName?_name]
      exact .named c descending

/-- The columns that are selected are those that are shown. -/
theorem contains_shownColumns (c : Column) :
    (Statement.shownColumns s).contains c = s.selects c := by
  rw [Statement.shownColumns, selects]
  split
  · rename_i hnone
    rw [hnone, Bool.true_or]
    cases c <;> rfl
  · rename_i hsome
    rw [Bool.eq_false_iff.mpr hsome, Bool.false_or, Bool.eq_iff_iff, List.contains_iff_mem,
      List.contains_iff_mem, List.mem_filterMap]
    constructor
    · rintro ⟨name, hname, hc⟩
      rwa [Column.name_of_ofName? hc]
    · exact fun hname => ⟨c.name, hname, Column.ofName?_name c⟩

/-- A row with an identifier is read as what is exhibited of it. -/
theorem readRow_shownColumns {r : Row} (h : r.id.isSome) :
    Statement.readRow (Statement.shownColumns s) r = .ok (s.exhibit r) := by
  obtain ⟨id, hid⟩ := Option.isSome_iff_exists.mp h
  simp only [Statement.readRow, exhibit, contains_shownColumns, hid]
  split <;> rfl

/-- Rows with identifiers are read as what is exhibited of them. -/
theorem mapM_readRow {rows : List Row} (h : ∀ r ∈ rows, r.id.isSome) :
    rows.mapM (Statement.readRow (Statement.shownColumns s)) =
      .ok (rows.map s.exhibit) := by
  induction rows with
  | nil => rfl
  | cons r rows ih =>
    rw [List.mapM_cons, readRow_shownColumns (h r List.mem_cons_self),
      ih fun r' hr' => h r' (List.mem_cons_of_mem _ hr')]
    rfl

end Search

/-! ### Windows -/

/-- What is seen through a window is as long as the window, or as what is left behind its offset. -/
theorem Window.length_view {α : Type} (w : Window) (rows : List α) :
    (w.view rows).length = min w.limit (rows.length - w.offset) := by
  rw [view, List.length_take, List.length_drop]

/-! ### The two requests -/

namespace Store.Request

variable (answer : (s : Statement) → Except Failure s.Answer) (d : Dialect)

/-- What a statement comes to is its answer. -/
theorem answered_perform (op : Operation) (s : Statement) :
    (ExceptT.run (perform d op s)).answered answer =
      (answer s).mapError (Fault.ofFailure d op) := by
  refine (Process.answered_bind answer (Process.perform s) _).trans ?_
  rw [Process.perform, Process.answered, Process.answered]
  rcases answer s with f | a
  · rfl
  · rfl

/-- Behind a check of names of columns, a request comes to what its statement is answered. -/
theorem answered_checkColumns {names : List String} (h : ∀ name ∈ names, Column.IsName name)
    (op : Operation) {s : Statement} {a : s.Answer} (ha : answer s = .ok a) :
    (ExceptT.run (do checkColumns op names; perform d op s)).answered answer = .ok a := by
  rw [checkColumns, unknownColumn?_eq_none_iff.mpr h]
  refine (answered_perform answer d op s).trans ?_
  rw [ha]
  rfl

/-- Behind a check of names, a request only looks if its statement does. -/
theorem looks_checkColumns {t : Table} (op : Operation) (names : List String) {s : Statement}
    (h : (s.executeOn d t).2 = t) :
    (ExceptT.run (do checkColumns op names; perform d op s)).Looks d t := by
  rw [checkColumns]
  cases unknownColumn? names with
  | none => exact .ask h (.done _)
  | some name => exact .done _

end Store.Request

namespace Service

variable (answer : (s : Statement) → Except Failure s.Answer)

/-- What the store does for a client comes to the same, in other words. -/
theorem answered_ofStore {α : Type} (r : Store.Request α) :
    (ExceptT.run (Request.ofStore r)).answered answer =
      ((ExceptT.run r).answered answer).mapError Fault.ofStore :=
  Process.answered_bind answer (ExceptT.run r) _

/-- **A list is put together from two answers.** -/
theorem answered_list (d : Dialect) {s : Search} {w : Window} (h : s.OfColumns) {count : Nat}
    {data : List Book} (hcount : answer (.count s.condition) = .ok count)
    (hdata : answer (.books s w) = .ok data) :
    (ExceptT.run (Request.list d s w)).answered answer = .ok ⟨count, data⟩ := by
  have hn : (ExceptT.run (Store.Request.count d s.condition)).answered answer = .ok count :=
    Store.Request.answered_checkColumns answer d h.isName_of_mem_fields .count hcount
  have hbooks : (ExceptT.run (Store.Request.books d s w)).answered answer = .ok data :=
    Store.Request.answered_checkColumns answer d (Search.ofColumns_iff.mp h) .findAll hdata
  rw [Request.list, Store.answered_run_bind, answered_ofStore, hn]
  refine (Store.answered_run_bind answer _ _).trans ?_
  rw [answered_ofStore, hbooks]
  rfl

/-- A list only looks. -/
theorem looks_list (d : Dialect) (t : Table) (s : Search) (w : Window) :
    (ExceptT.run (Request.list d s w)).Looks d t := by
  have hcount := Store.Request.looks_checkColumns d .count s.condition.fields
    (t.snd_executeOn_count d s.condition)
  have hbooks := Store.Request.looks_checkColumns d .findAll s.columns
    (t.snd_executeOn_books d s w)
  refine .bind (.bind hcount fun _ => .done _) ?_
  rintro (f | count)
  · exact .done _
  · refine .bind (.bind hbooks fun _ => .done _) ?_
    rintro (f | data)
    · exact .done _
    · exact .done _

/-! ### What a list says -/

/-- A list **says** of a database what a search asks for. -/
structure Lists (b : Database) (s : Search) (w : Window) (l : Listing Book) : Prop where
  /-- The rows that match are counted. -/
  count : l.count = (b.matching s.condition).length
  /-- The data fill the window as far as there are rows. -/
  length : l.data.length = min w.limit (l.count - w.offset)
  /-- The data are what lies in the window of the rows that match, once these are arranged as the
  search asks. -/
  data : ∃ key descending ordered, Search.GoesBy s.order key descending ∧
    b.Arranges key descending (b.matching s.condition) ordered ∧
    l.data = (w.view ordered).map s.exhibit

/-- The answers to the two statements of a search make a list. -/
theorem exists_lists {b : Database} {d : Dialect} {s : Search} {w : Window} (h : s.OfColumns)
    (hcount : b.Counts (Statement.countText d s.condition)
      (s.condition.compile d.rendering).values (answer (.count s.condition)))
    (hdata : b.Finds (Statement.booksText d s w) (s.condition.compile d.rendering).values
      (answer (.books s w))) :
    ∃ l, answer (.count s.condition) = .ok l.count ∧ answer (.books s w) = .ok l.data ∧
      Lists b s w l := by
  obtain ⟨ordered, harranges, hbooks⟩ := hdata.exists_eq h
  -- what is seen through the window are rows of the database, so they can be read
  have hnumbered : ∀ r ∈ w.view ordered, r.id.isSome := by
    intro r hr
    have hordered : r ∈ ordered := List.mem_of_mem_drop (List.mem_of_mem_take hr)
    exact b.numbered r (List.mem_filter.mp (harranges.perm.mem_iff.mp hordered)).1
  rw [Search.mapM_readRow hnumbered] at hbooks
  refine ⟨⟨_, _⟩, hcount.eq_ok h.isName_of_mem_fields, hbooks, rfl, ?_, _, _, ordered, h.goesBy,
    harranges, rfl⟩
  rw [List.length_map, w.length_view, harranges.perm.length_eq]

/-- **Count, window, order and columns of a list agree.** A search of columns is put to a database
as two texts, each with the values of the condition. Whatever rows the database holds and however it
compares, if it answers what it reads in the texts, then the list is made, its count is the number
of rows that match the condition, and its data are the part of these rows in the window, in the
order and with the columns that the search asks for. -/
theorem list_agrees (b : Database) (d : Dialect) (s : Search) (w : Window)
    (answer : (statement : Statement) → Except Failure statement.Answer)
    (h : ∀ name ∈ s.columns, Column.IsName name)
    (hcount : b.Counts (Statement.countText d s.condition)
      (s.condition.compile d.rendering).values (answer (.count s.condition)))
    (hdata : b.Finds (Statement.booksText d s w) (s.condition.compile d.rendering).values
      (answer (.books s w))) :
    ∃ l, (ExceptT.run (Request.list d s w)).answered answer = .ok l ∧ Lists b s w l := by
  have hcolumns : s.OfColumns := Search.ofColumns_iff.mpr h
  obtain ⟨l, hn, hbooks, hl⟩ := exists_lists answer hcolumns hcount hdata
  exact ⟨l, answered_list answer d hcolumns hn hbooks, hl⟩

/-- A shelf of four books. -/
def fourBooks : Table :=
  ⟨[⟨some 1, "Harry Potter and the Philosopher's Stone", "J. K. Rawling", ""⟩,
      ⟨some 2, "Harry Potter and the Chamber of Secrets", "J. K. Rawling", ""⟩,
      ⟨some 3, "Harry Potter and Book of Dark Magic", "Lord Voldermort", "Forbidden"⟩,
      ⟨some 4, "Tintin in Tibet", "Herge", ""⟩], 4, true⟩

/-- The titles that are not by one author, the last ones first. -/
def goodTitles : Search :=
  ⟨some ["id", "title"], ⟨.not, [.leaf ⟨"author", .equal, .text "Lord Voldermort"⟩]⟩,
    some ⟨"id", true⟩⟩

theorem list_agrees_goodTitles :
    (∀ name ∈ goodTitles.columns, Column.IsName name) ∧
      Statement.countText .sqlite goodTitles.condition =
        "SELECT COUNT(*) FROM books WHERE NOT (author = ?)" ∧
      Statement.booksText .sqlite goodTitles ⟨1, 5⟩ =
        "SELECT id, title FROM books WHERE NOT (author = ?) ORDER BY id DESC LIMIT 5 OFFSET 1" ∧
      ∃ l, (ExceptT.run (Request.list .sqlite goodTitles ⟨1, 5⟩)).answered
          (fun statement => (statement.executeOn .sqlite fourBooks).1) = .ok l ∧
        Lists (fourBooks.database (by decide)) goodTitles ⟨1, 5⟩ l ∧ l.count = 3 ∧
        l.data.length = 2 := by
  have h : ∀ name ∈ goodTitles.columns, Column.IsName name := by decide
  have hcolumns : goodTitles.OfColumns := Search.ofColumns_iff.mpr h
  have hrows : (fourBooks.select goodTitles.condition).length = 3 := by decide
  obtain ⟨l, hl, hlists⟩ := list_agrees (fourBooks.database (by decide)) .sqlite goodTitles ⟨1, 5⟩
    (fun statement => (statement.executeOn .sqlite fourBooks).1) h
    (Table.counts_executeOn _ hcolumns.isName_of_mem_fields (by decide) (by decide))
    (Table.finds_executeOn _ hcolumns (by decide) (by decide))
  have hcount : l.count = 3 := hlists.count.trans hrows
  refine ⟨h, by decide, by decide, l, hl, hlists, hcount, ?_⟩
  rw [hlists.length, hcount]
  rfl

/-- **The running service** lists what a search of columns asks for, if it gets a connection to a
table of numbered rows, and the database neither refuses the search nor gives up on the way. -/
theorem exists_run_list {σ : Session} {t : Table} {s : Search} {w : Window}
    (hfree : σ.availability.failure? = none) (htable : σ.table = some t)
    (ht : ∀ r ∈ t.rows, r.id.isSome) (h : ∀ name ∈ s.columns, Column.IsName name)
    (hfault : ((Statement.expressionFault? σ.dialect s.condition).or
      (Statement.widthFault? s)).or (Statement.windowFault? w) = none)
    (hcount : Statement.countGivesUp s.condition t = false)
    (hdata : Statement.searchGivesUp s w t = false) :
    ∃ l, ((ExceptT.run (Request.list σ.dialect s w)).run σ).1 = .ok l ∧
      Lists (t.database ht) s w l := by
  have hcolumns : s.OfColumns := Search.ofColumns_iff.mpr h
  have hexpression : Statement.expressionFault? σ.dialect s.condition = none :=
    (Option.or_eq_none_iff.mp (Option.or_eq_none_iff.mp hfault).1).1
  rw [(looks_list σ.dialect t s w).run_eq rfl hfree htable]
  obtain ⟨l, hn, hbooks, hl⟩ := exists_lists
    (fun statement => (statement.executeOn σ.dialect t).1) hcolumns
    (t.counts_executeOn ht hcolumns.isName_of_mem_fields hexpression hcount)
    (t.finds_executeOn ht hcolumns hfault hdata)
  exact ⟨l, answered_list _ _ hcolumns hn hbooks, hl⟩

end Service

end Catalogue
