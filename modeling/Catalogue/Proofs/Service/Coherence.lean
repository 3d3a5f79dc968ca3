import Catalogue.Proofs.Store.Among
import Catalogue.Proofs.Service.Listing

/-!
# Lists among writes

A list is made by two statements, and nothing keeps other requests from putting theirs in between.
So the count and the data of a list may speak of different tables: the count of the one that the
first statement found, the data of the one that the second found. This file says how far they may
be apart (`Catalogue.Service.list_among_writes`).

What one statement may leave of a table is said once (`Catalogue.Store.Table.Leaves`). It adds at
most one row to those that match a condition, and only if it writes
(`Catalogue.Store.Session.length_matching_put`). That relies on identifiers belonging to one row
each (`Catalogue.Store.Table.Numbered`), which every statement keeps.
-/

namespace Catalogue

namespace Store

variable {α β : Type}

/-! ### What a statement leaves -/

/-- What a statement may **leave** of a table. -/
inductive Table.Leaves (t : Table) : Statement → Table → Prop where
  /-- It leaves the table as it is. -/
  | same (st : Statement) : Leaves t st t
  /-- It adds a row. -/
  | added {x : Draft} {row : Row} {t' : Table} (hleft : t.isExhausted = false)
      (h : t.insert? x = some (row, t')) : Leaves t (.insert x) t'
  /-- It replaces the texts of a row. -/
  | changed (b : Book) : Leaves t (.update b) (t.changed b)
  /-- It removes a row. -/
  | removed (id : Int64) : Leaves t (.delete id) (t.delete id)

theorem Table.leaves_executeOn (t : Table) (d : Dialect) (st : Statement) :
    t.Leaves st (st.executeOn d t).2 := by
  cases st with
  | ensureTable => exact .same _
  | ping => exact .same _
  | book id => rw [Statement.executeOn_book]; exact .same _
  | books s w => rw [snd_executeOn_books]; exact .same _
  | count c => rw [snd_executeOn_count]; exact .same _
  | insert x =>
    rw [Statement.executeOn]
    split_ifs with hexhausted
    · exact .same _
    · split
      · exact .same _
      · rename_i hinsert
        exact .added (Bool.eq_false_iff.mpr hexhausted) hinsert
  | update b =>
    rw [Statement.executeOn]
    split
    · exact .same _
    · rename_i hupdate
      rw [eq_changed_of_update? hupdate]
      exact .changed b
  | delete id => exact .removed id

namespace Session

variable {s : Session}

/-- What is put leaves what a statement may leave of the table. -/
theorem exists_leaves_put {t : Table} (ht : s.table = some t) (st : Statement) :
    ∃ t', (s.put st).2.table = some t' ∧ t.Leaves st t' := by
  rcases table_put ht st with hsame | hnew
  · exact ⟨t, hsame, .same st⟩
  · exact ⟨_, hnew, t.leaves_executeOn s.dialect st⟩

/-- What is put before there is a table leaves one without rows, or none. -/
theorem table_put_of_none (ht : s.table = none) (st : Statement) :
    (s.put st).2.table = none ∨ ∃ givesIds, (s.put st).2.table = some (.empty givesIds) := by
  cases hfree : s.availability.failure? with
  | some f =>
    rw [put, (s.note st).execute_of_failure hfree]
    exact Or.inl ht
  | none =>
    have hput : (s.put st).2.table = (st.executeWithout s.dialect).2 := by
      have hnoted : (s.note st).availability.failure? = none := hfree
      have hnone : (s.note st).table = none := ht
      rw [put, execute, hnoted, hnone]
      rfl
    rw [hput]
    cases st with
    | ensureTable => exact Or.inr ⟨_, rfl⟩
    | _ => exact Or.inl rfl

end Session

/-! ### Numbered rows -/

/-- A table is **numbered** if no identifier belongs to two of its rows, and all of them have been
given. Rows may be without one. -/
structure Table.Numbered (t : Table) : Prop where
  /-- No two rows have the same identifier. -/
  apart : (t.rows.filterMap Row.id).Nodup
  /-- Identifiers have been given. -/
  given : ∀ id ∈ t.rows.filterMap Row.id, id ≤ t.lastId

namespace Table

variable {t t' : Table}

theorem numbered_empty (givesIds : Bool) : Numbered (empty givesIds) := ⟨List.nodup_nil, nofun⟩

/-- A row that is added gets an identifier of its own, or none. -/
theorem Numbered.insert? (h : t.Numbered) (hleft : t.isExhausted = false) {x : Draft} {row : Row}
    (hinsert : t.insert? x = some (row, t')) : t'.Numbered := by
  rw [Table.insert?] at hinsert
  split_ifs at hinsert with htitle hgives
  · obtain ⟨rfl, rfl⟩ := Prod.mk.inj (Option.some.inj hinsert)
    -- the next identifier is greater than all that have been given
    have hlt : t.lastId < t.lastId + 1 := by
      refine Shelf.lt_next fun hgreatest => ?_
      rw [isExhausted, hgives, hgreatest] at hleft
      cases hleft
    have hrows : (t.rows ++ [t.rowOf x]).filterMap Row.id =
        t.rows.filterMap Row.id ++ [t.lastId + 1] := by
      rw [List.filterMap_append, rowOf, if_pos hgives]
      rfl
    refine ⟨?_, ?_⟩
    · refine hrows ▸ List.nodup_append.mpr ⟨h.apart, List.nodup_singleton _, ?_⟩
      rintro id hid _ hnew rfl
      rw [List.mem_singleton.mp hnew] at hid
      exact Int64.not_lt.mpr (h.given _ hid) hlt
    · intro id hid
      rcases List.mem_append.mp (hrows ▸ hid) with hold | hnew
      · exact Int64.le_trans (h.given id hold) (Int64.le_of_lt hlt)
      · rw [List.mem_singleton.mp hnew]
        exact Int64.le_refl _
  · obtain ⟨rfl, rfl⟩ := Prod.mk.inj (Option.some.inj hinsert)
    have hsame : (t.rows ++ [t.rowOf x]).filterMap Row.id = t.rows.filterMap Row.id := by
      rw [List.filterMap_append, rowOf, if_neg hgives]
      exact List.append_nil _
    exact ⟨hsame ▸ h.apart, hsame ▸ h.given⟩

/-- **Every statement leaves** numbered rows numbered. -/
theorem Numbered.leaves (h : t.Numbered) {st : Statement} (hleaves : t.Leaves st t') :
    t'.Numbered := by
  cases hleaves with
  | same => exact h
  | added hleft hinsert => exact h.insert? hleft hinsert
  | changed b =>
    -- other texts change no identifier
    have hsame : (t.changed b).rows.filterMap Row.id = t.rows.filterMap Row.id := by
      rw [changed, List.filterMap_map]
      exact congrFun (congrArg _ (funext (id_withBook b))) t.rows
    exact ⟨hsame ▸ h.apart, hsame ▸ h.given⟩
  | removed id =>
    have hfewer : ((t.delete id).rows.filterMap Row.id).Sublist (t.rows.filterMap Row.id) :=
      List.filter_sublist.filterMap Row.id
    exact ⟨hfewer.nodup h.apart, fun id' hid' => h.given id' (hfewer.subset hid')⟩

/-- At most one row has a given identifier. -/
theorem Numbered.countP_le_one (h : t.Numbered) (id : Int64) :
    t.rows.countP (fun r => r.id == some id) ≤ 1 := by
  have hcount := List.nodup_iff_count_le_one.mp h.apart id
  rwa [List.count_filterMap] at hcount

end Table

/-! ### What a statement adds -/

/-- What satisfies one of two conditions is counted by one of them. -/
theorem countP_le_add {p q r : α → Bool} (l : List α)
    (h : ∀ a, p a = true → q a = true ∨ r a = true) : l.countP p ≤ l.countP q + l.countP r := by
  rw [List.countP_eq_countP_filter_add l p q]
  refine Nat.add_le_add ?_ ?_
  · exact List.countP_le_length.trans_eq List.countP_eq_length_filter.symm
  · rw [List.countP_filter]
    refine List.countP_mono_left fun a _ ha => ?_
    rw [Bool.and_eq_true, Bool.not_eq_true'] at ha
    exact (h a ha.1).resolve_left (Bool.eq_false_iff.mp ha.2)

/-- A statement **writes** if it adds a row or replaces the texts of one. -/
def Statement.writes : Statement → Bool
  | .insert _ => true
  | .update _ => true
  | _ => false

namespace Table

variable {t t' : Table} {c : Condition}

/-- If the texts of one row are replaced, at most one more matches. -/
theorem Numbered.length_select_changed_le (h : t.Numbered) (b : Book) :
    ((t.changed b).select c).length ≤ (t.select c).length + 1 := by
  rw [select, select, ← List.countP_eq_length_filter, ← List.countP_eq_length_filter, changed,
    List.countP_map]
  refine (countP_le_add _ fun r hr => ?_).trans
    (Nat.add_le_add_left (h.countP_le_one b.id) _)
  -- a row that matches did so before, unless it is the one with the new texts
  by_cases hid : r.id = some b.id
  · exact Or.inr (beq_iff_eq.mpr hid)
  · rw [Function.comp_apply, if_neg hid] at hr
    exact Or.inl hr

/-- **A statement adds at most one row** to those that match, and none unless it writes. -/
theorem Numbered.length_select_le (h : t.Numbered) (c : Condition) {st : Statement}
    (hleaves : t.Leaves st t') :
    (t'.select c).length ≤ (t.select c).length + if st.writes then 1 else 0 := by
  cases hleaves with
  | same => exact Nat.le_add_right _ _
  | added _ hinsert =>
    rw [select, rows_of_insert? hinsert, List.filter_append, List.length_append]
    exact Nat.add_le_add_left (List.length_filter_le _ [_]) _
  | changed b => exact h.length_select_changed_le b
  | removed id => exact (List.filter_sublist.filter _).length_le

end Table

namespace Session

variable {s : Session}

/-- The rows that **match** a condition, if there is a table. -/
def matching (s : Session) (c : Condition) : List Row := (s.table.map fun t => t.select c).getD []

/-- The table is numbered, if there is one. -/
def Numbered (s : Session) : Prop := ∀ t, s.table = some t → t.Numbered

theorem numbered_fresh (d : Dialect) : (fresh d).Numbered := nofun

/-- Every statement keeps the rows numbered. -/
theorem Numbered.put (h : s.Numbered) (st : Statement) : (s.put st).2.Numbered := by
  intro t₁ ht₁
  cases ht : s.table with
  | none =>
    rcases table_put_of_none ht st with hnone | ⟨givesIds, hempty⟩
    · cases hnone.symm.trans ht₁
    · obtain rfl := Option.some.inj (hempty.symm.trans ht₁)
      exact Table.numbered_empty givesIds
  | some t =>
    obtain ⟨t', ht', hleaves⟩ := exists_leaves_put ht st
    obtain rfl := Option.some.inj (ht'.symm.trans ht₁)
    exact (h t ht).leaves hleaves

/-- **A statement that is put adds at most one row** to those that match, and none unless it
writes. -/
theorem length_matching_put (h : s.Numbered) (c : Condition) (st : Statement) :
    ((s.put st).2.matching c).length ≤ (s.matching c).length + if st.writes then 1 else 0 := by
  rw [matching, matching]
  cases ht : s.table with
  | none =>
    rcases table_put_of_none ht st with hnone | ⟨givesIds, hempty⟩
    · rw [hnone]
      exact Nat.zero_le _
    · rw [hempty]
      exact Nat.zero_le _
  | some t =>
    obtain ⟨t', ht', hleaves⟩ := exists_leaves_put ht st
    rw [ht']
    exact (h t ht).length_select_le c hleaves

/-- Put some **statements, one after another**. -/
def putAll (s : Session) (sts : List Statement) : Session :=
  sts.foldl (fun s st => (s.put st).2) s

/-- **Statements add no more rows** to those that match than write. -/
theorem length_matching_putAll (h : s.Numbered) (c : Condition) (sts : List Statement) :
    ((s.putAll sts).matching c).length ≤ (s.matching c).length + sts.countP Statement.writes := by
  induction sts generalizing s with
  | nil => exact Nat.le_refl _
  | cons st sts ih =>
    rw [List.countP_cons]
    calc ((s.putAll (st :: sts)).matching c).length
        ≤ ((s.put st).2.matching c).length + sts.countP Statement.writes := ih (h.put st)
      _ ≤ (s.matching c).length + (if st.writes then 1 else 0) + sts.countP Statement.writes :=
          Nat.add_le_add_right (length_matching_put h c st) _
      _ = (s.matching c).length + (sts.countP Statement.writes + if st.writes then 1 else 0) := by
          omega

end Session

/-- What some processes do meanwhile comes down to **statements**, all of which are of a kind if the
processes put only such. -/
theorem Meanwhile.exists_putAll {x y : Session × List (Process α)} (h : Meanwhile x y)
    {P : Statement → Prop} (hP : ∀ p ∈ x.2, p.Only P) :
    ∃ sts, y.1 = x.1.putAll sts ∧ ∀ st ∈ sts, P st := by
  induction h with
  | refl => exact ⟨[], rfl, nofun⟩
  | tail hmeanwhile hstep ih =>
    obtain ⟨sts, hsts, hkind⟩ := ih
    have honly := Meanwhile.only hmeanwhile hP
    cases hstep with
    | put s before after statement next =>
      have hself := honly (.ask statement next) (List.mem_append_right _ List.mem_cons_self)
      refine ⟨sts ++ [statement], ?_, ?_⟩
      · rw [Session.putAll, List.foldl_append]
        exact congrArg (fun s => (Session.put s statement).2) hsts
      · rw [List.forall_mem_append, List.forall_mem_singleton]
        cases hself with
        | ask here rest => exact ⟨hkind, here⟩

/-! ### What the statements of a list find -/

/-- Nothing is lost or added when every element comes to something. -/
theorem length_of_mapM_ok {ε : Type} {f : α → Except ε β} {l : List α} {l' : List β}
    (h : l.mapM f = .ok l') : l'.length = l.length := by
  induction l generalizing l' with
  | nil =>
    cases h
    rfl
  | cons a l ih =>
    rw [List.mapM_cons] at h
    cases ha : f a with
    | error e =>
      rw [ha] at h
      cases h
    | ok b =>
      cases hl : l.mapM f with
      | error e =>
        rw [ha, hl] at h
        cases h
      | ok bs =>
        rw [ha, hl] at h
        cases h
        exact congrArg Nat.succ (ih hl)

/-- Sorting loses or adds no row. -/
theorem Table.sort_perm (c : Column) (descending : Bool) (rows : List Row) :
    (Table.sort c descending rows).Perm rows := by
  rw [Table.sort]
  split_ifs
  · exact List.mergeSort_perm rows _
  · exact List.mergeSort_perm rows _

/-- The order of a search loses or adds no row. -/
theorem Statement.ordered_perm (s : Search) (w : Window) (t : Table) :
    (ordered s w t).Perm (t.select s.condition) :=
  (Table.sort_perm _ _ _).trans (Plan.arrange_perm ..)

namespace Session

variable {s : Session}

/-- A count that has come to something is that of the rows that match. -/
theorem count_of_put_ok {c : Condition} {n : Nat} (h : (s.put (.count c)).1 = .ok n) :
    n = (s.matching c).length := by
  obtain ⟨t, ht, hcount, -⟩ := executed_of_put_ok h nofun
  rw [matching, ht]
  rw [Statement.executeOn] at hcount
  split at hcount
  · cases hcount
  · split_ifs at hcount with hgives
    exact (Except.ok.inj hcount).symm

/-- Books that have come are as many as lie in the window of the rows that match. -/
theorem length_of_put_ok {search : Search} {w : Window} {data : List Book}
    (h : (s.put (.books search w)).1 = .ok data) :
    data.length = min w.limit ((s.matching search.condition).length - w.offset) := by
  obtain ⟨t, ht, hbooks, -⟩ := executed_of_put_ok h nofun
  rw [matching, ht]
  rw [Statement.executeOn] at hbooks
  split at hbooks
  · cases hbooks
  · cases hgives : Statement.searchGivesUp search w t with
    | true =>
      rw [hgives] at hbooks
      cases hbooks
    | false =>
      rw [hgives] at hbooks
      change Statement.found search w t = .ok data at hbooks
      rw [length_of_mapM_ok hbooks, w.length_view,
        (Statement.ordered_perm search w t).length_eq]
      rfl

end Session

end Store

namespace Service

open Store

variable {d : Dialect} {s : Search} {w : Window}

/-! ### The statements of a list -/

/-- How a list ends when its books have been **fetched**. -/
def havingFetched (d : Dialect) (count : Nat) :
    Except Failure (List Book) → Process (Except Fault (Listing Book))
  | .error f => .done (.error (.ofStore (.ofFailure d .findAll f)))
  | .ok data => .done (.ok ⟨count, data⟩)

/-- To **fetch** the books of a list, unless the search speaks of something that is no column. -/
def fetching (d : Dialect) (s : Search) (w : Window) (count : Nat) :
    Process (Except Fault (Listing Book)) :=
  match Store.Request.unknownColumn? s.columns with
  | some name =>
    .done (.error (.ofStore (.general .findAll .invalidQuery ("unknown column: " ++ name))))
  | none => .ask (.books s w) (havingFetched d count)

/-- How a list goes on when its books have been **counted**. -/
def havingCounted (d : Dialect) (s : Search) (w : Window) :
    Except Failure Nat → Process (Except Fault (Listing Book))
  | .error f => .done (.error (.ofStore (.ofFailure d .count f)))
  | .ok count => fetching d s w count

theorem fetching_eq (d : Dialect) (s : Search) (w : Window) (count : Nat) :
    ExceptT.run (do
      let data ← Request.ofStore (Store.Request.books d s w)
      pure (⟨count, data⟩ : Listing Book)) = fetching d s w count := by
  rw [fetching, Store.Request.books, Store.Request.checkColumns]
  cases Store.Request.unknownColumn? s.columns with
  | some name => rfl
  | none =>
    refine congrArg (Process.ask (.books s w)) (funext fun answer => ?_)
    rcases answer with f | data
    · rfl
    · rfl

/-- To **list** books: they are counted, and then those in the window are fetched. -/
theorem list_eq (d : Dialect) (s : Search) (w : Window) :
    ExceptT.run (Request.list d s w) =
      match Store.Request.unknownColumn? s.condition.fields with
      | some name =>
        .done (.error (.ofStore (.general .count .invalidQuery ("unknown column: " ++ name))))
      | none => .ask (.count s.condition) (havingCounted d s w) := by
  rw [Request.list, Store.Request.count, Store.Request.checkColumns]
  cases Store.Request.unknownColumn? s.condition.fields with
  | some name => rfl
  | none =>
    refine congrArg (Process.ask (.count s.condition)) (funext fun answer => ?_)
    rcases answer with f | count
    · rfl
    · exact fetching_eq d s w count

section Among

variable {α : Type} {σ σ' : Session} {others : List (Process α)} {moments : List Session}
  {count : Nat} {l : Listing Book}

/-- The books of a list that has come were fetched from what the others had left. -/
theorem among_fetching (h : Among σ others (fetching d s w count) moments (.ok l) σ') :
    ∃ fetched others₁, moments = [fetched] ∧ Meanwhile (σ, others) (fetched, others₁) ∧
      l.count = count ∧ (fetched.put (.books s w)).1 = .ok l.data := by
  rw [fetching] at h
  split at h
  · cases h.of_done.2.1
  · obtain ⟨fetched, others₁, moments₁, rfl, hwait, hfetched⟩ := h.of_ask
    cases hanswer : (fetched.put (.books s w)).1 with
    | error f =>
      rw [hanswer] at hfetched
      cases hfetched.of_done.2.1
    | ok data =>
      rw [hanswer] at hfetched
      obtain ⟨rfl, hl, -⟩ := hfetched.of_done
      obtain rfl := Except.ok.inj hl
      exact ⟨fetched, others₁, rfl, hwait, rfl, hanswer⟩

/-- **A list that has come** was counted at one moment and fetched at another. -/
theorem among_list (h : Among σ others (ExceptT.run (Request.list d s w)) moments (.ok l) σ') :
    ∃ counted others₁ fetched others₂, moments = [counted, fetched] ∧
      Meanwhile (σ, others) (counted, others₁) ∧
      (counted.put (.count s.condition)).1 = .ok l.count ∧
      Meanwhile ((counted.put (.count s.condition)).2, others₁) (fetched, others₂) ∧
      (fetched.put (.books s w)).1 = .ok l.data := by
  rw [list_eq] at h
  split at h
  · cases h.of_done.2.1
  · obtain ⟨counted, others₁, moments₁, rfl, hwait, hcounted⟩ := h.of_ask
    cases hanswer : (counted.put (.count s.condition)).1 with
    | error f =>
      rw [hanswer] at hcounted
      cases hcounted.of_done.2.1
    | ok count =>
      rw [hanswer] at hcounted
      obtain ⟨fetched, others₂, rfl, hwait', rfl, hbooks⟩ := among_fetching hcounted
      exact ⟨counted, others₁, fetched, others₂, rfl, hwait, hanswer, hwait', hbooks⟩

end Among

/-- **How far a list is coherent among writes.** While it is made, other requests may add, change,
remove and look for books. Its count is that of the rows which matched when they were counted, its
data are as many as lay in the window of those which matched when they were fetched. Between these
moments the others put some statements, and the data are at most as many as the count and those of
these statements that write. -/
theorem list_among_writes {σ σ' : Session} {calls : List Call} {moments : List Session}
    {l : Listing Book} (hσ : σ.Numbered)
    (h : Among σ (calls.map fun c => ExceptT.run (c.request d))
      (ExceptT.run (Request.list d s w)) moments (.ok l) σ') :
    ∃ counted fetched between, moments = [counted, fetched] ∧
      fetched = (counted.put (.count s.condition)).2.putAll between ∧
      (∀ st ∈ between, ∃ c ∈ calls, c.Asks st) ∧
      l.count = (counted.matching s.condition).length ∧
      l.data.length = min w.limit ((fetched.matching s.condition).length - w.offset) ∧
      l.data.length ≤ l.count + between.countP Statement.writes := by
  obtain ⟨counted, others₁, fetched, others₂, rfl, hwait, hcount, hwait', hdata⟩ := among_list h
  have hothers : ∀ p ∈ calls.map fun c => ExceptT.run (c.request d),
      p.Only fun st => ∃ c ∈ calls, c.Asks st := by
    rw [List.forall_mem_map]
    intro c hc
    exact (c.only_request d).mono (fun st hst => ⟨c, hc, hst⟩) fun _ h => h
  obtain ⟨between, hbetween, hasked⟩ := hwait'.exists_putAll (hwait.only hothers)
  change fetched = (counted.put (.count s.condition)).2.putAll between at hbetween
  -- the rows are numbered when they are counted, and counting leaves them as they are
  have hnumbered : counted.Numbered :=
    (hwait.keeps (I := Session.Numbered) (fun _ st _ hx => hx.put st) hσ hothers).1
  have hcounted := Session.length_matching_put hnumbered s.condition (.count s.condition)
  have hfetched := Session.length_matching_putAll (hnumbered.put (.count s.condition))
    s.condition between
  have hn := Session.count_of_put_ok hcount
  have hlength := Session.length_of_put_ok hdata
  refine ⟨counted, fetched, between, rfl, hbetween, hasked, hn, hlength, ?_⟩
  calc l.data.length
      ≤ (fetched.matching s.condition).length := by omega
    _ ≤ ((counted.put (.count s.condition)).2.matching s.condition).length +
          between.countP Statement.writes := hbetween ▸ hfetched
    _ ≤ l.count + between.countP Statement.writes :=
        Nat.add_le_add_right (hn ▸ hcounted) _

/-- A book that is added while a list is made. -/
def lateBook : Draft := ⟨"Tintin in Tibet", "Herge", ""⟩

/-- The table with this book alone. -/
def lateTable : Table := ⟨[⟨some 1, "Tintin in Tibet", "Herge", ""⟩], 1, true⟩

/-- The session in which the books of the list are fetched. -/
def lateMoment : Session := ⟨.sqlite, some lateTable, .free, ["SELECT COUNT(*) FROM books"]⟩

/-- The only book is fetched. -/
theorem put_lateMoment :
    lateMoment.put (.books .everything .default) =
      (.ok [⟨1, "Tintin in Tibet", "Herge", ""⟩],
        lateMoment.note (.books .everything .default)) := by
  have hordered : Statement.ordered .everything .default lateTable = lateTable.rows :=
    List.perm_singleton.mp (Statement.ordered_perm .everything .default lateTable)
  have hfound : Statement.found .everything .default lateTable =
      .ok [⟨1, "Tintin in Tibet", "Herge", ""⟩] := by
    rw [Statement.found, hordered]
    rfl
  exact Prod.ext hfound rfl

/-- It is added after none was counted. -/
theorem among_late_book :
    Among .schema ([.create lateBook].map fun c : Call => ExceptT.run (c.request .sqlite))
      (ExceptT.run (Request.list .sqlite .everything .default)) [.schema, lateMoment]
      (.ok ⟨0, [⟨1, "Tintin in Tibet", "Herge", ""⟩]⟩)
      (lateMoment.note (.books .everything .default)) := by
  have hother : Meanwhile
      ((Session.put .schema (.count Search.everything.condition)).2,
        [ExceptT.run (Call.request .sqlite (.create lateBook))])
      (lateMoment, _) :=
    meanwhile_run [] [] (ExceptT.run (Call.request .sqlite (.create lateBook))) _
  have hfetched : Among (Session.put .schema (.count Search.everything.condition)).2
      [ExceptT.run (Call.request .sqlite (.create lateBook))]
      (.ask (.books .everything .default) (havingFetched .sqlite 0)) [lateMoment]
      (.ok ⟨0, [⟨1, "Tintin in Tibet", "Herge", ""⟩]⟩)
      (lateMoment.note (.books .everything .default)) := by
    refine .ask hother ?_
    rw [put_lateMoment]
    exact .done _ _ _
  rw [list_eq]
  exact .ask .refl hfetched

/-- The books of an empty table are counted, and one is added before they are fetched. -/
theorem list_among_writes_late :
    Session.schema.Numbered ∧
    ∃ between, lateMoment =
        (Session.put .schema (.count Search.everything.condition)).2.putAll between ∧
      (∀ st ∈ between, ∃ c ∈ [Call.create lateBook], c.Asks st) ∧
      1 ≤ 0 + between.countP Statement.writes := by
  have hnumbered : Session.schema.Numbered :=
    (Session.numbered_fresh .sqlite).put .ensureTable
  obtain ⟨counted, fetched, between, hmoments, hbetween, hasked, -, -, hle⟩ :=
    list_among_writes hnumbered among_late_book
  obtain ⟨rfl, hrest⟩ := List.cons.inj hmoments
  obtain ⟨rfl, -⟩ := List.cons.inj hrest
  exact ⟨hnumbered, between, hbetween, hasked, hle⟩

/-- **A list may show more books than it counts**, if one is added between its statements. -/
theorem late_book_outnumbers_count :
    Among .schema ([.create lateBook].map fun c : Call => ExceptT.run (c.request .sqlite))
      (ExceptT.run (Request.list .sqlite .everything .default)) [.schema, lateMoment]
      (.ok ⟨0, [⟨1, "Tintin in Tibet", "Herge", ""⟩]⟩)
      (lateMoment.note (.books .everything .default)) ∧
    ¬[(⟨1, "Tintin in Tibet", "Herge", ""⟩ : Book)].length ≤ 0 :=
  ⟨among_late_book, by decide⟩

end Service

end Catalogue
