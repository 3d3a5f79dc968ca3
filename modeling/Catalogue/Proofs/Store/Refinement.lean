import Catalogue.Proofs.Store.Run
import Catalogue.Proofs.Store.Shelf
import Catalogue.Proofs.Text.Trim
import Mathlib.Data.List.Basic
import Mathlib.Data.List.Nodup
import Mathlib.Data.List.TakeWhile

/-!
# The store is a shelf

Requests put to the store one after another do what calls do to a `Catalogue.Store.Shelf`. A table
is seen as a shelf by `Catalogue.Store.Table.shelf`, which loses nothing of a table that is
`Catalogue.Store.Table.Kept`: every row has an identifier, and no two rows have the same.

One call is answered by the store as it is by the shelf, and leaves a table that is seen as the
shelf is left (`Catalogue.Store.Session.exists_perform_onto`). So are the calls of any course
(`Catalogue.Store.Session.map_course_onto`), and with an empty table it may always begin.
-/

namespace Catalogue

namespace Store

/-! ### Drafts and revisions -/

/-- What a draft misses are the texts of which trimming leaves nothing. -/
theorem missing_eq (d : Draft) :
    d.missing =
      ([("title", d.title), ("author", d.author)].filter fun f => Text.trim f.2 = "").map
        Prod.fst := by
  simp only [Draft.missing, ← Text.trim_eq_empty_iff, List.filter_cons, List.filter_nil]
  by_cases htitle : Text.trim d.title = "" <;> by_cases hauthor : Text.trim d.author = "" <;>
    simp [htitle, hauthor]

/-- A draft misses something if its title or its author is blank. -/
theorem missing_isEmpty_iff (d : Draft) :
    d.missing.isEmpty = true ↔ ¬(Text.trim d.title = "" ∨ Text.trim d.author = "") := by
  rw [missing_eq]
  by_cases htitle : Text.trim d.title = "" <;> by_cases hauthor : Text.trim d.author = "" <;>
    simp [htitle, hauthor]

/-- A change takes place if there is a new text and it is not empty. -/
theorem amend_eq (old : String) (change : Option String) :
    Revision.amend old change = revisedText old change := by
  cases change with
  | none => rfl
  | some new =>
    rw [Revision.amend, revisedText, Option.filter_some]
    by_cases hnew : new = ""
    · simp [hnew]
    · simp [hnew, String.isEmpty_iff]

/-- A changed book is the book of the changed texts. -/
theorem apply_bookOf (r : Revision) (id : Int64) (x : Draft) :
    r.apply (bookOf id x) = bookOf id (revised r x) := by
  simp only [Revision.apply, bookOf, revised, amend_eq]

/-! ### Tables as shelves -/

/-- The texts of a row. -/
def Row.texts (r : Row) : Draft := ⟨r.title, r.author, r.summary⟩

namespace Table

/-- A table **as a shelf**. -/
def shelf (t : Table) : Shelf := ⟨fun id => (t.row? id).map Row.texts, t.lastId⟩

/-- A table is **kept** if it gives identifiers, and has given one of its own to each row. -/
structure Kept (t : Table) : Prop where
  /-- It gives identifiers. -/
  gives : t.givesIds = true
  /-- Every row has an identifier. -/
  numbered : ∀ r ∈ t.rows, ∃ id, r.id = some id
  /-- No two rows have the same. -/
  apart : (t.rows.map Row.id).Nodup

variable {t : Table}

theorem kept_empty : Kept (empty true) := ⟨rfl, nofun, List.nodup_nil⟩

theorem shelf_empty : (empty true).shelf = Shelf.empty := rfl

/-! ### Finding rows -/

/-- The row of an identifier is in the table. -/
theorem mem_of_row? {id : Int64} {r : Row} (h : t.row? id = some r) :
    r ∈ t.rows ∧ r.id = some id := by
  have hid := List.find?_some h
  exact ⟨List.mem_of_find?_eq_some h, of_decide_eq_true hid⟩

/-- A row is found by its identifier. -/
theorem Kept.row?_eq (h : t.Kept) {id : Int64} {r : Row} (hr : r ∈ t.rows) (hid : r.id = some id) :
    t.row? id = some r := by
  have hsome : (t.row? id).isSome := List.find?_isSome.mpr ⟨r, hr, decide_eq_true hid⟩
  obtain ⟨r', hr'⟩ := Option.isSome_iff_exists.mp hsome
  have hmem := mem_of_row? hr'
  rw [hr', List.inj_on_of_nodup_map h.apart hmem.1 hr (hmem.2.trans hid.symm)]

/-- A title of the table is one of the shelf. -/
theorem Kept.hasTitle_iff (h : t.Kept) (title : String) (except? : Option Int64) :
    t.hasTitle title except? = true ↔ t.shelf.HasTitle title except? := by
  simp only [hasTitle, List.any_eq_true, Bool.and_eq_true, Bool.or_eq_true, decide_eq_true_eq,
    Option.isNone_iff_eq_none, Shelf.HasTitle, shelf, Option.map_eq_some_iff]
  constructor
  · rintro ⟨r, hr, htitle, hexcept⟩
    obtain ⟨id, hid⟩ := h.numbered r hr
    refine ⟨id, r.texts, ⟨r, h.row?_eq hr hid, rfl⟩, htitle, fun heq => ?_⟩
    rcases hexcept with hnone | hne
    · cases hnone.symm.trans heq
    · exact hne (hid.trans heq.symm)
  · rintro ⟨id, x, ⟨r, hr, rfl⟩, htitle, hexcept⟩
    have hmem := mem_of_row? hr
    exact ⟨r, hmem.1, htitle, Or.inr fun heq => hexcept (heq.symm.trans hmem.2)⟩

/-- The titles of a kept table differ if those of its books do. -/
theorem Kept.nodup_titles (h : t.Kept) (hs : Shelf.TitlesDiffer t.shelf.texts) :
    (t.rows.map Row.title).Nodup := by
  refine List.pairwise_map.mpr ((List.pairwise_map.mp h.apart).imp_of_mem ?_)
  intro r r' hr hr' hne htitle
  obtain ⟨id, hid⟩ := h.numbered r hr
  obtain ⟨id', hid'⟩ := h.numbered r' hr'
  have htexts : t.shelf.texts id = some r.texts :=
    congrArg (Option.map Row.texts) (h.row?_eq hr hid)
  have htexts' : t.shelf.texts id' = some r'.texts :=
    congrArg (Option.map Row.texts) (h.row?_eq hr' hid')
  refine hne (hid.trans ?_)
  rw [hs id id' r.texts r'.texts htexts htexts' htitle, hid']

/-- A row of a kept table is read as the book of its texts. -/
theorem readRow_all {id : Int64} {r : Row} (h : r.id = some id) :
    Statement.readRow Column.all r = .ok (bookOf id r.texts) := by
  rw [Statement.readRow, h]
  rfl

/-! ### Changing rows -/

/-- Rows with other texts keep their identifiers. -/
theorem id_withBook (b : Book) (r : Row) :
    (if r.id = some b.id then r.withTexts b else r).id = r.id := by
  split_ifs
  · rfl
  · rfl

/-- The table with the row of a draft, under the next identifier. -/
def added (t : Table) (d : Draft) : Table :=
  { t with
    rows := t.rows ++ [⟨some (t.lastId + 1), d.title, d.author, d.summary⟩]
    lastId := t.lastId + 1 }

/-- The table with the texts of a book in its row. -/
def changed (t : Table) (b : Book) : Table :=
  { t with rows := t.rows.map fun r => if r.id = some b.id then r.withTexts b else r }

/-- A table that gives identifiers gives the next one to the row of a draft. -/
theorem insert?_eq (h : t.givesIds = true) (d : Draft) :
    t.insert? d =
      if t.hasTitle d.title none then none
      else some (⟨some (t.lastId + 1), d.title, d.author, d.summary⟩, t.added d) := by
  obtain ⟨rows, lastId, gives⟩ := t
  obtain rfl : gives = true := h
  rfl

/-- The table of which a row was changed, if it was. -/
theorem eq_changed_of_update? {b : Book} {t' : Table} (h : t.update? b = some t') :
    t' = t.changed b := by
  rw [update?] at h
  split_ifs at h
  exact (Option.some.inj h).symm

/-- Of two changes of a row the last one remains. -/
theorem changed_changed (id : Int64) (x y : Draft) :
    (t.changed (bookOf id x)).changed (bookOf id y) = t.changed (bookOf id y) := by
  simp only [changed, List.map_map]
  refine congrArg (Table.mk · t.lastId t.givesIds) (List.map_congr_left fun r _ => ?_)
  by_cases hr : r.id = some id
  · simp only [Function.comp_apply, Row.withTexts, bookOf, hr, if_true]
  · simp only [Function.comp_apply, bookOf, hr, if_false]

/-- The row of an identifier after a row is added. -/
theorem row?_added (d : Draft) (id : Int64) :
    (t.added d).row? id =
      (t.row? id).or
        (if t.lastId + 1 = id then some ⟨some (t.lastId + 1), d.title, d.author, d.summary⟩
          else none) := by
  rw [added, row?, List.find?_append, List.find?_singleton]
  simp only [Option.some.injEq, decide_eq_true_eq]
  rfl

/-- The row of an identifier after the texts of a row are changed. -/
theorem row?_changed (b : Book) (id : Int64) :
    (t.changed b).row? id =
      (t.row? id).map fun r => if r.id = some b.id then r.withTexts b else r := by
  -- rows are found by their identifiers, which other texts do not change
  have hkeep : ((fun r : Row => decide (r.id = some id)) ∘
      fun r : Row => if r.id = some b.id then r.withTexts b else r) =
        fun r => decide (r.id = some id) :=
    funext fun r => by rw [Function.comp_apply, id_withBook]
  rw [changed, row?, List.find?_map, hkeep]
  rfl

/-- The row of a book has its texts when they are changed. -/
theorem row?_changed_self {id : Int64} {r : Row} (h : t.row? id = some r) (x : Draft) :
    (t.changed (bookOf id x)).row? id = some (r.withTexts (bookOf id x)) := by
  have hown : r.id = some (bookOf id x).id := (mem_of_row? h).2
  rw [row?_changed, h, Option.map_some, if_pos hown]

/-- The other rows have the texts that they had. -/
theorem row?_changed_of_ne {b : Book} {id : Int64} (h : id ≠ b.id) :
    (t.changed b).row? id = t.row? id := by
  rw [row?_changed]
  cases hr : t.row? id with
  | none => rfl
  | some r =>
    have hne : r.id ≠ some b.id := fun heq =>
      h (Option.some.inj ((mem_of_row? hr).2.symm.trans heq))
    rw [Option.map_some, if_neg hne]

/-- The row of an identifier after a row is removed. -/
theorem row?_delete (gone id : Int64) :
    (t.delete gone).row? id = if id = gone then none else t.row? id := by
  rw [delete, row?, List.find?_filter]
  split_ifs with hid
  · rw [hid, List.find?_eq_none]
    intro r _ hr
    simp only [decide_eq_true_eq] at hr
    exact hr.1 hr.2
  · refine congrArg (fun p => List.find? p t.rows) (funext fun r => ?_)
    simp only [decide_eq_true_eq, decide_eq_decide, and_iff_right_iff_imp]
    intro hr hgone
    exact hid (Option.some.inj (hr.symm.trans hgone))

/-! ### Changing kept tables -/

/-- A kept table has its next identifier free, if it is seen as a sound shelf. -/
theorem row?_next (hs : t.shelf.Sound) (hid : t.lastId ≠ Int64.maxValue) :
    t.row? (t.lastId + 1) = none := by
  refine Option.eq_none_iff_forall_not_mem.mpr fun r hr => ?_
  have hgiven := hs.given (t.lastId + 1) r.texts (congrArg (Option.map Row.texts) hr)
  exact Int64.not_le.mpr (Shelf.lt_next hid) hgiven

/-- Adding a row adds a book. -/
theorem shelf_added (d : Draft) (hnext : t.row? (t.lastId + 1) = none) :
    (t.added d).shelf =
      { t.shelf.put (t.lastId + 1) (some d) with lastId := t.lastId + 1 } := by
  refine congrArg (Shelf.mk · (t.lastId + 1)) (funext fun id => ?_)
  rw [row?_added, Shelf.texts_put]
  split_ifs with hid hid' hid'
  · rw [← hid, hnext]
    rfl
  · exact absurd hid.symm hid'
  · exact absurd hid'.symm hid
  · rw [Option.or_none]
    rfl

/-- Changing a row changes its book. -/
theorem shelf_changed {id : Int64} {x : Draft} {r : Row} (hr : t.row? id = some r) :
    (t.changed (bookOf id x)).shelf = t.shelf.put id (some x) := by
  refine congrArg (Shelf.mk · t.lastId) (funext fun id' => ?_)
  change _ = (t.shelf.put id (some x)).texts id'
  rw [Shelf.texts_put]
  split_ifs with hid
  · rw [hid, row?_changed_self hr]
    rfl
  · rw [row?_changed_of_ne hid]
    rfl

/-- Removing a row removes its book. -/
theorem shelf_delete (id : Int64) : (t.delete id).shelf = t.shelf.put id none := by
  refine congrArg (Shelf.mk · t.lastId) (funext fun id' => ?_)
  change _ = (t.shelf.put id none).texts id'
  rw [row?_delete, Shelf.texts_put]
  split_ifs with hid
  · rfl
  · rfl

/-- A table is kept when a row is added under an identifier that is free. -/
theorem Kept.added (h : t.Kept) (d : Draft) (hnext : t.row? (t.lastId + 1) = none) :
    (t.added d).Kept where
  gives := h.gives
  numbered r hr := by
    rcases List.mem_append.mp hr with hr | hr
    · exact h.numbered r hr
    · exact ⟨t.lastId + 1, congrArg Row.id (List.mem_singleton.mp hr)⟩
  apart := by
    -- a row that had the new identifier already would be found by it
    rw [Table.added, List.map_append, List.map_singleton, List.nodup_append]
    refine ⟨h.apart, List.nodup_singleton _, fun id hid id' hid' heq => ?_⟩
    obtain ⟨r, hr, hrid⟩ := List.mem_map.mp hid
    have hfound := h.row?_eq hr ((hrid.trans heq).trans (List.mem_singleton.mp hid'))
    cases hnext.symm.trans hfound

/-- A table is kept when the texts of a row are changed. -/
theorem Kept.changed (h : t.Kept) (b : Book) : (t.changed b).Kept where
  gives := h.gives
  numbered r hr := by
    obtain ⟨r', hr', rfl⟩ := List.mem_map.mp hr
    rw [id_withBook]
    exact h.numbered r' hr'
  apart := by
    rw [Table.changed, List.map_map]
    exact (List.map_congr_left fun r _ => id_withBook b r) ▸ h.apart

/-- A table is kept when a row is removed. -/
theorem Kept.delete (h : t.Kept) (id : Int64) : (t.delete id).Kept where
  gives := h.gives
  numbered r hr := h.numbered r (List.mem_of_mem_filter hr)
  apart := h.apart.sublist (List.filter_sublist.map Row.id)

end Table

/-! ### Statements on kept tables -/

/-- A stored book takes a title that belongs to no other. -/
theorem Table.Kept.update?_eq {t : Table} (h : t.Kept) {id : Int64} {r : Row}
    (hr : t.row? id = some r) (x : Draft) [Decidable (t.shelf.HasTitle x.title (some id))] :
    t.update? (bookOf id x) =
      if t.shelf.HasTitle x.title (some id) then none else some (t.changed (bookOf id x)) := by
  have hrow : (t.row? (bookOf id x).id).isSome = true := congrArg Option.isSome hr
  have htitle : t.hasTitle (bookOf id x).title (some (bookOf id x).id) = true ↔ _ :=
    h.hasTitle_iff x.title (some id)
  simp only [update?, hrow, true_and, htitle]
  rfl

namespace Statement

variable {t : Table}

/-- What the database answers when it is asked for a book. -/
theorem executeOn_book (t : Table) (d : Dialect) (id : Int64) :
    executeOn d t (.book id) = (.ok ((t.shelf.texts id).map (bookOf id)), t) := by
  rw [executeOn]
  change _ = (Except.ok (((t.row? id).map Row.texts).map (bookOf id)), t)
  cases hr : t.row? id with
  | none => rfl
  | some r =>
    have hread := Table.readRow_all (Table.mem_of_row? hr).2
    exact congrArg (fun e => (Except.map some e, t)) hread

/-- What the database does when a book is added. -/
theorem executeOn_insert (h : t.Kept) (d : Dialect) (x : Draft)
    [Decidable (t.shelf.HasTitle x.title none)] :
    executeOn d t (.insert x) =
      if t.shelf.lastId = Int64.maxValue then (.error idsExhausted, t)
      else if t.shelf.HasTitle x.title none then (.error titleTaken, t)
      else (.ok (bookOf (t.lastId + 1) x), t.added x) := by
  rw [executeOn, Table.isExhausted, h.gives, Bool.true_and, Table.insert?_eq h.gives]
  change (if decide (t.shelf.lastId = Int64.maxValue) = true then _ else _) = _
  simp only [decide_eq_true_eq, h.hasTitle_iff]
  split_ifs with hid htitle
  · rfl
  · rfl
  · rfl

/-- What the database does when the texts of a book are replaced. -/
theorem executeOn_update (h : t.Kept) (d : Dialect) {id : Int64} {r : Row} (hr : t.row? id = some r)
    (x : Draft) [Decidable (t.shelf.HasTitle x.title (some id))] :
    executeOn d t (.update (bookOf id x)) =
      if t.shelf.HasTitle x.title (some id) then (.error titleTaken, t)
      else (.ok (), t.changed (bookOf id x)) := by
  rw [executeOn, h.update?_eq hr]
  split_ifs
  · rfl
  · rfl

/-- What the database does when a book is removed. -/
theorem executeOn_delete (t : Table) (d : Dialect) (id : Int64) :
    executeOn d t (.delete id) = (.ok (t.shelf.texts id).isSome, t.delete id) := by
  change (Except.ok (t.row? id).isSome, t.delete id) =
    (Except.ok ((t.row? id).map Row.texts).isSome, t.delete id)
  rw [Option.isSome_map]

end Statement

/-! ### Calls -/

/-- The request of a call. -/
def Call.request (d : Dialect) : Call → Request Reply
  | .create x => Reply.book <$> Request.create d x
  | .update id r => Reply.book <$> Request.update d id r
  | .delete id => Reply.removed <$> Request.delete d id
  | .find id => Reply.found <$> Request.book d id

namespace Session

/-- What a **call** does to a session, and what is answered. -/
def perform (s : Session) (c : Call) : Except Fault Reply × Session := s.run (c.request s.dialect)

/-- A session of SQLite with an **empty schema**: the table has just been made. -/
def schema : Session := ((fresh .sqlite).run (Request.ensureTable .sqlite)).2

/-- A session **as a shelf**. -/
def shelf (s : Session) : Shelf := (s.table.map Table.shelf).getD .empty

theorem schema_eq : schema = onto (.empty true) := rfl

variable {t : Table}

/-- A book is looked for on the shelf. -/
theorem run_book (t : Table) (id : Int64) :
    (onto t).run (Request.book .sqlite id) =
      (.ok ((t.shelf.texts id).map (bookOf id)), onto t) := by
  refine (run_perform t .findById (.book id) rfl).trans ?_
  rw [Statement.executeOn_book]
  rfl

open Classical in
/-- A book is added to the shelf. -/
theorem run_create (h : t.Kept) (x : Draft) :
    (onto t).run (Request.create .sqlite x) =
      if Text.trim x.title = "" ∨ Text.trim x.author = "" then
        (.error (Shelf.incomplete x), onto t)
      else if t.shelf.lastId = Int64.maxValue then (.error Shelf.exhausted, onto t)
      else if t.shelf.HasTitle x.title none then (.error (Shelf.titleTaken .create), onto t)
      else (.ok (bookOf (t.lastId + 1) x), onto (t.added x)) := by
  by_cases hblank : Text.trim x.title = "" ∨ Text.trim x.author = ""
  · have hmissing : ¬x.missing.isEmpty = true := fun h => (missing_isEmpty_iff x).mp h hblank
    refine (congrArg (onto t).run (if_neg hmissing)).trans ?_
    rw [if_pos hblank, run_throw, missing_eq]
    rfl
  · have hmissing : x.missing.isEmpty = true := (missing_isEmpty_iff x).mpr hblank
    refine (congrArg (onto t).run (if_pos hmissing)).trans ?_
    refine (run_perform t .create (.insert x) rfl).trans ?_
    rw [if_neg hblank, Statement.executeOn_insert h]
    split_ifs
    · rfl
    · rfl
    · rfl

open Classical in
/-- A book of the shelf is changed. -/
theorem run_update (h : t.Kept) (id : Int64) (r : Revision) :
    (onto t).run (Request.update .sqlite id r) =
      match t.shelf.texts id with
      | none => (.error (Shelf.notThere id), onto t)
      | some x =>
        if t.shelf.HasTitle (revised r x).title (some id) then
          (.error (Shelf.titleTaken .update), onto t)
        else (.ok (bookOf id (revised r x)), onto (t.changed (bookOf id (revised r x)))) := by
  rw [Request.update, run_bind, run_book]
  cases hx : t.shelf.texts id with
  | none => rfl
  | some x =>
    obtain ⟨row, hrow, -⟩ := Option.map_eq_some_iff.mp hx
    have hb := apply_bookOf r id x
    dsimp only [Option.map_some]
    -- the type of an answer depends on its statement, so the book cannot be rewritten in place
    generalize r.apply (bookOf id x) = b at hb ⊢
    subst hb
    refine (run_perform_bind t .update (.update (bookOf id (revised r x))) rfl _).trans ?_
    rw [Statement.executeOn_update h .sqlite hrow]
    split_ifs
    · rfl
    · rfl

/-- A book of the shelf is removed. -/
theorem run_delete (t : Table) (id : Int64) :
    (onto t).run (Request.delete .sqlite id) =
      (.ok (t.shelf.texts id).isSome, onto (t.delete id)) := by
  refine (run_perform t .delete (.delete id) rfl).trans ?_
  rw [Statement.executeOn_delete]
  rfl

/-! ### Courses -/

/-- **A call is answered by the store as by the shelf**, and leaves a kept table, which is seen as
the shelf is left. The table is the same if the answer is a fault. -/
theorem exists_perform_onto (h : t.Kept) (hs : t.shelf.Sound) (c : Call) :
    ∃ t', (onto t).perform c = ((t.shelf.perform c).1, onto t') ∧
      t'.shelf = (t.shelf.perform c).2 ∧ t'.Kept ∧
      ∀ f, (t.shelf.perform c).1 = .error f → t' = t := by
  cases c with
  | create x =>
    have hstore : (onto t).perform (.create x) = _ :=
      (run_map _ _ _).trans (congrArg (fun e => (e.1.map Reply.book, e.2)) (run_create h x))
    rw [hstore, Shelf.perform]
    -- both sides make the same three tests, and only behind the last of them a row is added
    split_ifs with hblank hid htitle
    · exact ⟨t, rfl, rfl, h, fun _ _ => rfl⟩
    · exact ⟨t, rfl, rfl, h, fun _ _ => rfl⟩
    · exact ⟨t, rfl, rfl, h, fun _ _ => rfl⟩
    · have hnext := Table.row?_next hs hid
      exact ⟨t.added x, rfl, Table.shelf_added x hnext, h.added x hnext,
        fun _ hf => hf.elim⟩
  | update id r =>
    have hstore : (onto t).perform (.update id r) = _ :=
      (run_map _ _ _).trans (congrArg (fun e => (e.1.map Reply.book, e.2)) (run_update h id r))
    rw [hstore, Shelf.perform]
    cases hx : t.shelf.texts id with
    | none => exact ⟨t, rfl, rfl, h, fun _ _ => rfl⟩
    | some x =>
      obtain ⟨row, hrow, -⟩ := Option.map_eq_some_iff.mp hx
      dsimp only
      split_ifs with htitle
      · exact ⟨t, rfl, rfl, h, fun _ _ => rfl⟩
      · exact ⟨_, rfl, Table.shelf_changed hrow, h.changed _, fun _ hf => hf.elim⟩
  | delete id =>
    have hstore : (onto t).perform (.delete id) = _ :=
      (run_map _ _ _).trans (congrArg (fun e => (e.1.map Reply.removed, e.2)) (run_delete t id))
    rw [hstore]
    refine ⟨_, rfl, Table.shelf_delete id, h.delete id, fun _ hf => ?_⟩
    cases hf
  | find id =>
    have hstore : (onto t).perform (.find id) = _ :=
      (run_map _ _ _).trans (congrArg (fun e => (e.1.map Reply.found, e.2)) (run_book t id))
    rw [hstore]
    exact ⟨t, rfl, rfl, h, fun _ _ => rfl⟩

/-- A course of the store, seen on the shelf, is the course of the shelf. -/
theorem map_course_onto (h : t.Kept) (hs : t.shelf.Sound) (calls : List Call) :
    (course perform (onto t) calls).map (Turn.map shelf) =
      course Shelf.perform t.shelf calls := by
  induction calls generalizing t with
  | nil => rfl
  | cons c calls ih =>
    obtain ⟨t', hstep, hshelf, hkept, -⟩ := exists_perform_onto h hs c
    have hsound := hs.perform c
    rw [course, course, List.map_cons, turn, turn, hstep]
    rw [← hshelf] at hsound ⊢
    exact congrArg _ (ih hkept hsound)

/-- Every turn of a course leaves a kept table, seen as a sound shelf; a turn that ends in a fault
leaves what it found. -/
theorem course_onto (h : t.Kept) (hs : t.shelf.Sound) (calls : List Call) :
    ∀ turn ∈ course perform (onto t) calls,
      (∃ table, turn.after = onto table ∧ table.Kept ∧ table.shelf.Sound) ∧
      ∀ f, turn.reply = .error f → turn.after = turn.before := by
  induction calls generalizing t with
  | nil => exact fun _ hturn => absurd hturn List.not_mem_nil
  | cons c calls ih =>
    obtain ⟨t', hstep, hshelf, hkept, hstay⟩ := exists_perform_onto h hs c
    have hsound := hs.perform c
    rw [← hshelf] at hsound
    rw [course, turn, hstep]
    refine List.forall_mem_cons.mpr ⟨⟨⟨t', rfl, hkept, hsound⟩, fun f hf => ?_⟩, ih hkept hsound⟩
    exact congrArg onto (hstay f hf)

end Session

/-- **The store refines the shelf.** However books are added, changed, removed and looked for, one
call after another, beginning with an empty schema: every call is answered by the store as it is by
the shelf, and leaves what the shelf is then.

At every turn each row has an identifier and a title of its own, and a call that ends in a fault
leaves everything as it was. The identifiers that are given grow, so that none is given again. That
there is none left happens only after as many calls as there are identifiers. -/
theorem course_refines_shelf (calls : List Call) :
    (course Session.perform Session.schema calls).map (Turn.map Session.shelf) =
      course Shelf.perform Shelf.empty calls ∧
    (∀ turn ∈ course Session.perform Session.schema calls,
      (∃ table, turn.after = Session.onto table ∧ table.Kept ∧
        (table.rows.map Row.title).Nodup) ∧
      (∀ f, turn.reply = .error f → turn.after = turn.before) ∧
      (turn.reply = .error Shelf.exhausted → Int64.maxValue.toInt ≤ calls.length)) ∧
    ((course Session.perform Session.schema calls).filterMap Turn.given?).Pairwise (· < ·) := by
  rw [Session.schema_eq]
  have hmap := Session.map_course_onto Table.kept_empty Shelf.sound_empty calls
  rw [Table.shelf_empty] at hmap
  refine ⟨hmap, fun turn hturn => ?_, ?_⟩
  · obtain ⟨⟨table, hafter, hkept, hsound⟩, hstay⟩ :=
      Session.course_onto Table.kept_empty Shelf.sound_empty calls turn hturn
    refine ⟨⟨table, hafter, hkept, hkept.nodup_titles hsound.titles⟩, hstay, fun hreply => ?_⟩
    have hseen : turn.map Session.shelf ∈ course Shelf.perform Shelf.empty calls :=
      hmap ▸ List.mem_map_of_mem hturn
    have hcount := Shelf.le_length_of_exhausted calls _ hseen hreply
    rwa [show Shelf.empty.lastId.toInt = 0 from rfl, Int.zero_add] at hcount
  · -- what is given can be seen in the calls and the replies alone
    have hseen : Turn.given? ∘ Turn.map Session.shelf = Turn.given? :=
      funext (Turn.given?_map Session.shelf)
    have hgiven := Shelf.pairwise_given Shelf.empty calls
    rwa [← hmap, List.filterMap_map, hseen] at hgiven

end Store

end Catalogue
