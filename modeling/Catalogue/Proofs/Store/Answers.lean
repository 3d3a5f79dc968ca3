import Catalogue.Proofs.Store.Query
import Mathlib.Data.String.Basic

/-!
# Databases that answer queries

A `Catalogue.Store.Database` holds rows and compares them, in whatever way, with values and with
each other. What it is put is a text and values, and it answers what it reads in the text
(`Catalogue.Store.Database.Counts`, `Catalogue.Store.Database.Finds`). It is free to choose between
arrangements of the rows that the order does not tell apart.

A `Catalogue.Store.Table` is such a database as long as it refuses nothing and does not give up on
the way: `Catalogue.Store.Table.counts_executeOn` and `Catalogue.Store.Table.finds_executeOn` say
that its way through the tree of a condition comes to the same as reading the text.
-/

namespace Catalogue

namespace Store

/-- A **database**: rows and comparisons. -/
structure Database where
  /-- The rows. -/
  rows : List Row
  /-- Every row has an identifier. -/
  numbered : ∀ r ∈ rows, r.id.isSome
  /-- The truth of a predicate about a row. -/
  leaf : Row → Predicate → Truth
  /-- One row comes no later than another in the order of a column. -/
  atMost : Column → Row → Row → Prop

namespace Database

variable (b : Database)

/-- Rows **arranged by a column**: no row is lost or added, and they are in order. -/
structure Arranges (key : Column) (descending : Bool) (rows ordered : List Row) : Prop where
  /-- They are the same rows. -/
  perm : ordered.Perm rows
  /-- They are in order. -/
  pairwise : ordered.Pairwise fun r s => if descending then b.atMost key s r else b.atMost key r s

/-- The rows that are **kept** by an expression with these values. -/
def kept (values : List Operand) (filter : Option Sql.Expression) : List Row :=
  b.rows.filter fun r => Sql.keeps (b.leaf r) values filter

/-- The database answers a text that **counts**, if it is one, by the number of rows kept. -/
def Counts (text : String) (values : List Operand) (answer : Except Failure Nat) : Prop :=
  ∀ filter, Sql.Query.ofText? text = some (.count filter) →
    answer = .ok (b.kept values filter).length

/-- The database answers a text that **shows rows**, if it is one, by those kept: it arranges them,
looks at them through the window, and shows their columns. -/
def Finds (text : String) (values : List Operand) (answer : Except Failure (List Book)) : Prop :=
  ∀ q, Sql.Query.ofText? text = some (.rows q) →
    ∃ ordered, b.Arranges q.key q.descending (b.kept values q.filter) ordered ∧
      answer = (q.window.view ordered).mapM (Statement.readRow q.columns)

/-- The rows that **match** a condition. -/
def matching (c : Condition) : List Row := b.rows.filter fun r => c.holds (b.leaf r)

variable {b} {d : Dialect} {s : Search} {c : Condition}

/-- The rows that the text of a condition keeps are those that match it. -/
theorem kept_read (h : ∀ f ∈ c.fields, Column.IsName f) (r : Rendering) :
    b.kept (c.compile r).values (Sql.read (r.words 1 c.template)) = b.matching c :=
  List.filter_congr fun row _ => Condition.keeps_read h r (b.leaf row)

/-- A count of columns is answered by the number of rows that match. -/
theorem Counts.eq_ok {answer : Except Failure Nat} (h : ∀ f ∈ c.fields, Column.IsName f)
    (hanswer : b.Counts (Statement.countText d c) (c.compile d.rendering).values answer) :
    answer = .ok (b.matching c).length := by
  rw [hanswer _ (Statement.ofText?_countText d h), kept_read h]

/-- A search of columns is answered by the rows that match, as the search wants to see them. -/
theorem Finds.exists_eq {w : Window} {answer : Except Failure (List Book)} (h : s.OfColumns)
    (hanswer : b.Finds (Statement.booksText d s w) (s.condition.compile d.rendering).values
      answer) :
    ∃ ordered, b.Arranges (Statement.orderColumn s) (Statement.isDescending s)
        (b.matching s.condition) ordered ∧
      answer = (w.view ordered).mapM (Statement.readRow (Statement.shownColumns s)) := by
  obtain ⟨ordered, harranges, heq⟩ := hanswer _ (Statement.ofText?_booksText d h w)
  rw [kept_read h.isName_of_mem_fields] at harranges
  exact ⟨ordered, harranges, heq⟩

end Database

/-! ### Tables -/

namespace Table

/-- The order of texts is that of their code points. -/
theorem textAtMost_iff (s t : String) : textAtMost s t = true ↔ s ≤ t := by
  rw [textAtMost, Bool.not_eq_true', decide_eq_false_iff_not, not_lt]

theorem textAtMost_trans {s t u : String} (hst : textAtMost s t = true)
    (htu : textAtMost t u = true) : textAtMost s u = true := by
  rw [textAtMost_iff] at hst htu ⊢
  exact hst.trans htu

theorem textAtMost_total (s t : String) : (textAtMost s t || textAtMost t s) = true := by
  rw [Bool.or_eq_true, textAtMost_iff, textAtMost_iff]
  exact le_total s t

/-- Of two rows one comes no later than the other. -/
theorem atMost_total (c : Column) (r s : Row) : (atMost c r s || atMost c s r) = true := by
  cases c with
  | id =>
    rw [atMost, atMost]
    cases r.id <;> cases s.id <;> simp [Int64.le_total]
  | title => exact textAtMost_total r.title s.title
  | author => exact textAtMost_total r.author s.author
  | summary => exact textAtMost_total r.summary s.summary

/-- The order of rows is transitive. -/
theorem atMost_trans (c : Column) (q r s : Row) (hqr : atMost c q r = true)
    (hrs : atMost c r s = true) : atMost c q s = true := by
  cases c with
  | id =>
    rw [atMost] at hqr hrs ⊢
    cases hq : q.id with
    | none => rfl
    | some k =>
      -- what comes after an identifier is one
      cases hr : r.id with
      | none => simp [hq, hr] at hqr
      | some m =>
        cases hs : s.id with
        | none => simp [hr, hs] at hrs
        | some n =>
          simp only [hq, hr, hs, decide_eq_true_eq] at hqr hrs ⊢
          exact Int64.le_trans hqr hrs
  | title => exact textAtMost_trans hqr hrs
  | author => exact textAtMost_trans hqr hrs
  | summary => exact textAtMost_trans hqr hrs

/-- The **database that a table is**, if all of its rows have identifiers. -/
def database (t : Table) (h : ∀ r ∈ t.rows, r.id.isSome) : Database where
  rows := t.rows
  numbered := h
  leaf := Row.predicate
  atMost c r s := atMost c r s = true

variable {t : Table} (ht : ∀ r ∈ t.rows, r.id.isSome) {d : Dialect}

/-- Sorted rows are arranged. -/
theorem arranges_sort (c : Column) (descending : Bool) {rows rows' : List Row}
    (h : rows'.Perm rows) :
    (t.database ht).Arranges c descending rows (sort c descending rows') := by
  cases descending with
  | true =>
    exact ⟨(List.mergeSort_perm rows' _).trans h,
      List.pairwise_mergeSort (fun q r s hqr hrs => atMost_trans c s r q hrs hqr)
        (fun r s => atMost_total c s r) rows'⟩
  | false =>
    exact ⟨(List.mergeSort_perm rows' _).trans h,
      List.pairwise_mergeSort (atMost_trans c) (atMost_total c) rows'⟩

/-- A statement that counts changes nothing. -/
theorem snd_executeOn_count (t : Table) (d : Dialect) (c : Condition) :
    ((Statement.count c).executeOn d t).2 = t := by
  rw [Statement.executeOn]
  split <;> rfl

/-- A statement that shows books changes nothing. -/
theorem snd_executeOn_books (t : Table) (d : Dialect) (s : Search) (w : Window) :
    ((Statement.books s w).executeOn d t).2 = t := by
  rw [Statement.executeOn]
  split <;> rfl

/-- **A table counts** what the text of a condition keeps. -/
theorem counts_executeOn {c : Condition} (h : ∀ f ∈ c.fields, Column.IsName f)
    (hfault : Statement.expressionFault? d c = none)
    (hgoes : Statement.countGivesUp c t = false) :
    (t.database ht).Counts (Statement.countText d c) (c.compile d.rendering).values
      ((Statement.count c).executeOn d t).1 := by
  intro filter hfilter
  rw [Statement.ofText?_countText d h] at hfilter
  cases hfilter
  rw [Database.kept_read h, Statement.executeOn, hfault, hgoes]
  rfl

/-- **A table finds** what the text of a search keeps. -/
theorem finds_executeOn {s : Search} {w : Window} (h : s.OfColumns)
    (hfault : ((Statement.expressionFault? d s.condition).or (Statement.widthFault? s)).or
      (Statement.windowFault? w) = none)
    (hgoes : Statement.searchGivesUp s w t = false) :
    (t.database ht).Finds (Statement.booksText d s w) (s.condition.compile d.rendering).values
      ((Statement.books s w).executeOn d t).1 := by
  intro q hq
  rw [Statement.ofText?_booksText d h w] at hq
  cases hq
  refine ⟨Statement.ordered s w t, ?_, ?_⟩
  · rw [Database.kept_read h.isName_of_mem_fields]
    exact arranges_sort ht _ _ (Plan.arrange_perm ..)
  · rw [Statement.executeOn, hfault, hgoes]
    rfl

end Table

end Store

end Catalogue
