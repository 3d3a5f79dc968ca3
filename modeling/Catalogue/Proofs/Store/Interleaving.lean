import Catalogue.Proofs.Store.Refinement

/-!
# Two requests at a time

The store executes each statement at once, but nothing keeps the statements of a request together.
`Catalogue.Store.Interleaved` is what two requests may come to when their statements are executed in
any order; running one after the other is a case of it (`Catalogue.Store.interleaved_run`).

A book is changed by reading it and writing all of its texts. So when two changes of a book are
interleaved, what the last one writes is what remains
(`Catalogue.Store.Interleaved.of_update_update`): if it had read the book before the other one
wrote, then the other change is lost, although both were answered as if they had taken place.
-/

namespace Catalogue

/-! ### Texts by their columns -/

/-- The text of a draft in a column; an identifier is no text. -/
def Draft.text? (x : Draft) : Column → Option String
  | .id => none
  | .title => some x.title
  | .author => some x.author
  | .summary => some x.summary

/-- The text that a revision puts into a column, if it **changes** it. -/
def Revision.text? (r : Revision) : Column → Option String
  | .id => none
  | .title => r.title.filter (· ≠ "")
  | .author => r.author.filter (· ≠ "")
  | .summary => r.summary.filter (· ≠ "")

namespace Store

/-! ### Interleaving -/

/-- One of **two requests**. -/
inductive Side where
  /-- The first. -/
  | first
  /-- The second. -/
  | second
  deriving DecidableEq

namespace Side

/-- The other one. -/
def other : Side → Side
  | .first => .second
  | .second => .first

/-- What belongs to one of two. -/
def pick {α : Type} : Side → α → α → α
  | .first, a, _ => a
  | .second, _, b => b

/-- The other one of the other one is the one itself. -/
theorem other_other (side : Side) : side.other.other = side := by
  cases side with
  | first => rfl
  | second => rfl

/-- When the two are exchanged twice, the order is the same. -/
theorem map_other_map_other (order : List Side) : (order.map other).map other = order := by
  have hid : other ∘ other = id := funext other_other
  rw [List.map_map, hid, List.map_id]

/-- An order of the two is another order of the two when they are exchanged. -/
theorem eq_of_map_other {order order' : List Side} (h : order.map other = order') :
    order = order'.map other := by
  rw [← h, map_other_map_other]

/-- All of its statements come **before** those of the other one. -/
def Before (side : Side) (order : List Side) : Prop :=
  order.Pairwise fun a b => b = side → a = side

instance (side : Side) (order : List Side) : Decidable (side.Before order) :=
  inferInstanceAs (Decidable (order.Pairwise _))

end Side

variable {α β : Type}

/-- Two processes are **interleaved**: in a given order their statements are executed, each of them
at once, until both have ended. -/
inductive Interleaved : Session → Process α → Process β → List Side → α → β → Session → Prop where
  /-- Both have ended. -/
  | done (s : Session) (a : α) (b : β) : Interleaved s (.done a) (.done b) [] a b s
  /-- The first puts a statement. -/
  | first {s s' : Session} {statement : Statement}
      {next : Except Failure statement.Answer → Process α} {q : Process β} {order : List Side}
      {a : α} {b : β}
      (rest : Interleaved ((s.note statement).execute statement).2
        (next ((s.note statement).execute statement).1) q order a b s') :
      Interleaved s (.ask statement next) q (.first :: order) a b s'
  /-- The second puts a statement. -/
  | second {s s' : Session} {statement : Statement}
      {next : Except Failure statement.Answer → Process β} {p : Process α} {order : List Side}
      {a : α} {b : β}
      (rest : Interleaved ((s.note statement).execute statement).2 p
        (next ((s.note statement).execute statement).1) order a b s') :
      Interleaved s p (.ask statement next) (.second :: order) a b s'

/-- It does not matter which of two processes is called the first. -/
theorem Interleaved.symm {s s' : Session} {p : Process α} {q : Process β} {order : List Side}
    {a : α} {b : β} (h : Interleaved s p q order a b s') :
    Interleaved s q p (order.map Side.other) b a s' := by
  induction h with
  | done s a b => exact .done s b a
  | first rest ih => exact .second ih
  | second rest ih => exact .first ih

/-- A process beside one that has ended runs alone. -/
theorem interleaved_done (a : α) (q : Process β) (s : Session) :
    ∃ n, Interleaved s (.done a) q (List.replicate n .second) a (q.run s).1 (q.run s).2 := by
  induction q generalizing s with
  | done b => exact ⟨0, .done s a b⟩
  | ask statement next ih =>
    obtain ⟨n, h⟩ := ih ((s.note statement).execute statement).1
      ((s.note statement).execute statement).2
    exact ⟨n + 1, .second h⟩

/-- **Running one process after the other** is a way to interleave them. -/
theorem interleaved_run (p : Process α) (q : Process β) (s : Session) :
    ∃ m n, Interleaved s p q (List.replicate m .first ++ List.replicate n .second) (p.run s).1
      (q.run (p.run s).2).1 (q.run (p.run s).2).2 := by
  induction p generalizing s with
  | done a =>
    obtain ⟨n, h⟩ := interleaved_done a q s
    exact ⟨0, n, h⟩
  | ask statement next ih =>
    obtain ⟨m, n, h⟩ := ih ((s.note statement).execute statement).1
      ((s.note statement).execute statement).2
    exact ⟨m + 1, n, .first h⟩

/-! ### Which statement comes next -/

section Next

variable {s s' : Session} {statement other : Statement} {a a' : α} {b b' : β} {order : List Side}
  {next : Except Failure statement.Answer → Process α}
  {next' : Except Failure other.Answer → Process β}

/-- A process that has ended comes to what it has ended with. -/
theorem Interleaved.eq_of_done {q : Process β} (h : Interleaved s (.done a) q order a' b' s') :
    a' = a := by
  generalize hp : Process.done a = p at h
  induction h with
  | done s a b => exact (Process.done.inj hp).symm
  | first rest ih => cases hp
  | second rest ih => exact ih hp

/-- Nothing is left when both have ended. -/
theorem Interleaved.of_done (h : Interleaved s (.done a) (.done b) order a' b' s') :
    order = [] ∧ s' = s := by
  cases h with
  | done => exact ⟨rfl, rfl⟩

/-- The first goes on if the second has ended. -/
theorem Interleaved.of_ask_done
    (h : Interleaved s (.ask statement next) (.done b) order a' b' s') :
    ∃ rest, order = .first :: rest ∧ Interleaved ((s.note statement).execute statement).2
      (next ((s.note statement).execute statement).1) (.done b) rest a' b' s' := by
  cases h with
  | first rest => exact ⟨_, rfl, rest⟩

/-- One of the two goes on. -/
theorem Interleaved.of_ask_ask
    (h : Interleaved s (.ask statement next) (.ask other next') order a' b' s') :
    (∃ rest, order = .first :: rest ∧ Interleaved ((s.note statement).execute statement).2
      (next ((s.note statement).execute statement).1) (.ask other next') rest a' b' s') ∨
    (∃ rest, order = .second :: rest ∧ Interleaved ((s.note other).execute other).2
      (.ask statement next) (next' ((s.note other).execute other).1) rest a' b' s') := by
  cases h with
  | first rest => exact Or.inl ⟨_, rfl, rest⟩
  | second rest => exact Or.inr ⟨_, rfl, rest⟩

end Next

/-! ### What a change does, statement by statement -/

/-- How a change ends when the book has been **written**. -/
def havingWritten (d : Dialect) (b : Book) : Except Failure Unit → Process (Except Fault Book)
  | .error f => .done (.error (.ofFailure d .update f))
  | .ok _ => .done (.ok b)

/-- To **write** a book: its texts are put into its row. -/
def writing (d : Dialect) (b : Book) : Process (Except Fault Book) :=
  .ask (.update b) (havingWritten d b)

/-- How a change goes on when the book has been **read**. -/
def havingRead (d : Dialect) (id : Int64) (r : Revision) :
    Except Failure (Option Book) → Process (Except Fault Book)
  | .error f => .done (.error (.ofFailure d .findById f))
  | .ok none => .done (.error (Shelf.notThere id))
  | .ok (some b) => writing d (r.apply b)

/-- To **change** a book: it is read, and then written with the changes. -/
theorem update_eq (d : Dialect) (id : Int64) (r : Revision) :
    ExceptT.run (Request.update d id r) = .ask (.book id) (havingRead d id r) := by
  refine congrArg (Process.ask (.book id)) (funext fun answer => ?_)
  rcases answer with f | _ | b
  · rfl
  · rfl
  · refine congrArg (Process.ask (.update (r.apply b))) (funext fun answer => ?_)
    rcases answer with f | a
    · rfl
    · rfl

section Statements

variable {s s' : Session} {t : Table} {d : Dialect} {id : Int64} {r : Revision} {row : Row}
  {b b' b₁ b₂ : Book} {q : Process β} {y y' : β} {order : List Side}

/-- A request that reads a stored book, and comes to something, goes on to write it. -/
theorem Interleaved.of_havingRead (ht : s.table = some t) (hrow : t.row? id = some row)
    (h : Interleaved ((s.note (.book id)).execute (.book id)).2
      (havingRead d id r ((s.note (.book id)).execute (.book id)).1) q order (.ok b₁) y s') :
    Interleaved s (writing d (bookOf id (revised r row.texts))) q order (.ok b₁) y s' := by
  have hnote : s.note (.book id) = s := s.note_eq_self rfl
  have hbook : (t.shelf.texts id).map (bookOf id) = some (bookOf id row.texts) :=
    congrArg (fun e => (e.map Row.texts).map (bookOf id)) hrow
  rw [hnote] at h
  cases hfree : s.availability.failure? with
  | some f =>
    rw [s.execute_of_failure hfree] at h
    cases h.eq_of_done
  | none =>
    have hexec : s.execute (.book id) = (.ok (some (bookOf id row.texts)), s) := by
      rw [s.execute_of_table hfree ht, Statement.executeOn_book, hbook, ← ht]
    rw [hexec] at h
    rw [← apply_bookOf]
    exact h

/-- A request that writes a book, and comes to something, has put its texts into its row. -/
theorem Interleaved.of_havingWritten (ht : s.table = some t)
    (h : Interleaved ((s.note (.update b)).execute (.update b)).2
      (havingWritten d b ((s.note (.update b)).execute (.update b)).1) q order (.ok b₁) y s') :
    ∃ s₁ : Session, s₁.table = some (t.changed b) ∧
      Interleaved s₁ (.done (Except.ok b)) q order (Except.ok b₁ : Except Fault Book) y s' := by
  have hnote : s.note (.update b) = s := s.note_eq_self rfl
  rw [hnote] at h
  cases hfree : s.availability.failure? with
  | some f =>
    rw [s.execute_of_failure hfree] at h
    cases h.eq_of_done
  | none =>
    rw [s.execute_of_table hfree ht] at h
    cases hupdate : t.update? b with
    | none =>
      have hon : (Statement.update b).executeOn s.dialect t = (.error Statement.titleTaken, t) := by
        rw [Statement.executeOn, hupdate]
      rw [hon] at h
      cases h.eq_of_done
    | some t' =>
      have hon : (Statement.update b).executeOn s.dialect t = (.ok (), t') := by
        rw [Statement.executeOn, hupdate]
      rw [hon] at h
      exact ⟨{ s with table := some t' }, congrArg some (Table.eq_changed_of_update? hupdate), h⟩

/-! ### Two changes -/

/-- A request that writes beside one that has ended. -/
theorem Interleaved.of_writing_done (ht : s.table = some t)
    (h : Interleaved s (writing d b) (.done y) order (.ok b₁) y' s') :
    order = [.first] ∧ s'.table = some (t.changed b) := by
  obtain ⟨rest, rfl, hwrite⟩ := h.of_ask_done
  obtain ⟨s₁, ht₁, hend⟩ := hwrite.of_havingWritten ht
  obtain ⟨rfl, rfl⟩ := hend.of_done
  exact ⟨rfl, ht₁⟩

/-- A change beside a request that has ended. -/
theorem Interleaved.of_update_done (ht : s.table = some t) (hrow : t.row? id = some row)
    (h : Interleaved s (.ask (.book id) (havingRead d id r)) (.done y) order (.ok b₁) y' s') :
    order = [.first, .first] ∧
      s'.table = some (t.changed (bookOf id (revised r row.texts))) := by
  obtain ⟨rest, rfl, hread⟩ := h.of_ask_done
  obtain ⟨rfl, ht'⟩ := (hread.of_havingRead ht hrow).of_writing_done ht
  exact ⟨rfl, ht'⟩

/-- Two requests that write the same book: what is written last remains. -/
theorem Interleaved.of_writing_writing {x y : Draft} (ht : s.table = some t)
    (h : Interleaved s (writing d (bookOf id x)) (writing d (bookOf id y)) order (.ok b₁) (.ok b₂)
      s') :
    (order = [.first, .second] ∧ s'.table = some (t.changed (bookOf id y))) ∨
      (order = [.second, .first] ∧ s'.table = some (t.changed (bookOf id x))) := by
  rcases h.of_ask_ask with ⟨rest, rfl, hfirst⟩ | ⟨rest, rfl, hsecond⟩
  · obtain ⟨s₁, ht₁, hend⟩ := hfirst.of_havingWritten ht
    obtain ⟨horder, ht'⟩ := hend.symm.of_writing_done ht₁
    rw [Table.changed_changed] at ht'
    exact Or.inl ⟨congrArg _ (Side.eq_of_map_other horder), ht'⟩
  · obtain ⟨s₁, ht₁, hend⟩ := hsecond.symm.of_havingWritten ht
    obtain ⟨horder, ht'⟩ := hend.symm.of_writing_done ht₁
    rw [Side.map_other_map_other] at horder
    rw [Table.changed_changed] at ht'
    exact Or.inr ⟨congrArg _ horder, ht'⟩

/-- A request that writes, and a change: it is a change of what was written if it reads that. -/
theorem Interleaved.of_writing_update {x : Draft} (ht : s.table = some t)
    (hrow : t.row? id = some row)
    (h : Interleaved s (writing d (bookOf id x)) (.ask (.book id) (havingRead d id r)) order
      (.ok b₁) (.ok b₂) s') :
    ∃ y, s'.table = some (t.changed (bookOf id y)) ∧
      ((order = [.first, .second, .second] ∧ y = revised r x) ∨
        (order = [.second, .first, .second] ∧ y = revised r row.texts) ∨
        (order = [.second, .second, .first] ∧ y = x)) := by
  rcases h.of_ask_ask with ⟨rest, rfl, hfirst⟩ | ⟨rest, rfl, hsecond⟩
  · -- the change reads what was written
    obtain ⟨s₁, ht₁, hend⟩ := hfirst.of_havingWritten ht
    obtain ⟨horder, ht'⟩ := hend.symm.of_update_done ht₁ (Table.row?_changed_self hrow x)
    rw [Table.changed_changed] at ht'
    exact ⟨_, ht', Or.inl ⟨congrArg _ (Side.eq_of_map_other horder), rfl⟩⟩
  · -- the change has read the old texts before anything was written
    have hread := (hsecond.symm.of_havingRead ht hrow).symm
    rw [Side.map_other_map_other] at hread
    rcases hread.of_writing_writing ht with ⟨rfl, ht'⟩ | ⟨rfl, ht'⟩
    · exact ⟨_, ht', Or.inr (Or.inl ⟨rfl, rfl⟩)⟩
    · exact ⟨_, ht', Or.inr (Or.inr ⟨rfl, rfl⟩)⟩

variable {r₁ r₂ : Revision}

/-- **Two changes of a book**, one of which reads it first: in which orders their statements may
come, and which texts remain. -/
theorem Interleaved.of_update_update (ht : s.table = some t) (hrow : t.row? id = some row)
    (h : Interleaved s (ExceptT.run (Request.update d id r₁)) (ExceptT.run (Request.update d id r₂))
      order (.ok b₁) (.ok b₂) s') :
    ∃ (side : Side) (y : Draft), s'.table = some (t.changed (bookOf id y)) ∧
      ((order = [side, side, side.other, side.other] ∧
          y = revised (side.other.pick r₁ r₂) (revised (side.pick r₁ r₂) row.texts)) ∨
        (order = [side, side.other, side, side.other] ∧
          y = revised (side.other.pick r₁ r₂) row.texts) ∨
        (order = [side, side.other, side.other, side] ∧
          y = revised (side.pick r₁ r₂) row.texts)) := by
  rw [update_eq, update_eq] at h
  rcases h.of_ask_ask with ⟨rest, rfl, hfirst⟩ | ⟨rest, rfl, hsecond⟩
  · obtain ⟨y, ht', hy⟩ := (hfirst.of_havingRead ht hrow).of_writing_update ht hrow
    -- the first request reads the book first
    refine ⟨.first, y, ht', ?_⟩
    rcases hy with ⟨rfl, rfl⟩ | ⟨rfl, rfl⟩ | ⟨rfl, rfl⟩
    · exact Or.inl ⟨rfl, rfl⟩
    · exact Or.inr (Or.inl ⟨rfl, rfl⟩)
    · exact Or.inr (Or.inr ⟨rfl, rfl⟩)
  · obtain ⟨y, ht', hy⟩ := (hsecond.symm.of_havingRead ht hrow).of_writing_update ht hrow
    -- the same with the two exchanged
    refine ⟨.second, y, ht', ?_⟩
    rcases hy with ⟨horder, rfl⟩ | ⟨horder, rfl⟩ | ⟨horder, rfl⟩
    · exact Or.inl ⟨congrArg _ (Side.eq_of_map_other horder), rfl⟩
    · exact Or.inr (Or.inl ⟨congrArg _ (Side.eq_of_map_other horder), rfl⟩)
    · exact Or.inr (Or.inr ⟨congrArg _ (Side.eq_of_map_other horder), rfl⟩)

end Statements

/-! ### What remains of two changes -/

/-- A revision leaves the columns that it does not change. -/
theorem text?_revised (r : Revision) (x : Draft) (c : Column) :
    (revised r x).text? c = (r.text? c).or (x.text? c) := by
  cases c with
  | id => rfl
  | title => exact (Option.or_some ..).symm
  | author => exact (Option.or_some ..).symm
  | summary => exact (Option.or_some ..).symm

/-- The texts are those after a change. -/
def HasChange (r : Revision) (x y : Draft) : Prop :=
  ∀ c, y.text? c = (r.text? c).or (x.text? c)

/-- The texts are those after **both changes**. -/
def HasBoth (r₁ r₂ : Revision) (x y : Draft) : Prop :=
  ∀ c, y.text? c = ((r₁.text? c).or (r₂.text? c)).or (x.text? c)

/-- Two changes of different columns, one after the other, are both of them. -/
theorem hasBoth_revised {r₁ r₂ : Revision} {x : Draft} (side : Side)
    (h : ∀ c, r₁.text? c = none ∨ r₂.text? c = none) :
    HasBoth r₁ r₂ x (revised (side.other.pick r₁ r₂) (revised (side.pick r₁ r₂) x)) := by
  intro c
  rw [text?_revised, text?_revised]
  cases side with
  | first =>
    rcases h c with hnone | hnone
    · rw [Side.pick, Side.other, Side.pick, hnone, Option.none_or, Option.none_or]
    · rw [Side.pick, Side.other, Side.pick, hnone, Option.none_or, Option.or_none]
  | second => exact Option.or_assoc.symm

/-- **What remains of two changes of a book** that change different columns, and are both answered
as if they had taken place.

If all of the one takes place before the other, both changes remain. If they overlap, then both have
read the book before any of them wrote it, and what remains is the change of the one that wrote
last. Columns that none of them changes, and other books, are left as they were. -/
theorem interleaved_updates {s s' : Session} {t : Table} {d : Dialect} {id : Int64} {row : Row}
    {r₁ r₂ : Revision} {order : List Side} {b₁ b₂ : Book} (ht : s.table = some t)
    (hrow : t.row? id = some row)
    (hdisjoint : ∀ c, r₁.text? c = none ∨ r₂.text? c = none)
    (h : Interleaved s (ExceptT.run (Request.update d id r₁)) (ExceptT.run (Request.update d id r₂))
      order (.ok b₁) (.ok b₂) s') :
    ∃ t' row', s'.table = some t' ∧ t'.row? id = some row' ∧
      (∀ id', id' ≠ id → t'.row? id' = t.row? id') ∧
      (Side.Before .first order ∨ Side.Before .second order →
        HasBoth r₁ r₂ row.texts row'.texts) ∧
      (¬(Side.Before .first order ∨ Side.Before .second order) →
        ∃ last, order.getLast? = some last ∧ HasChange (last.pick r₁ r₂) row.texts row'.texts) := by
  obtain ⟨side, y, ht', hy⟩ := h.of_update_update ht hrow
  refine ⟨_, _, ht', Table.row?_changed_self hrow y, fun id' hid' => Table.row?_changed_of_ne hid',
    fun hbefore => ?_, fun hoverlap => ?_⟩
  · change HasBoth r₁ r₂ row.texts y
    rcases hy with ⟨rfl, rfl⟩ | ⟨rfl, -⟩ | ⟨rfl, -⟩
    · exact hasBoth_revised side hdisjoint
    · exact absurd hbefore (by cases side <;> decide)
    · exact absurd hbefore (by cases side <;> decide)
  · change ∃ last, _ ∧ HasChange _ row.texts y
    rcases hy with ⟨rfl, -⟩ | ⟨rfl, rfl⟩ | ⟨rfl, rfl⟩
    · exact absurd hoverlap (by cases side <;> decide)
    · exact ⟨side.other, rfl, text?_revised _ _⟩
    · exact ⟨side, rfl, text?_revised _ _⟩

/-- A table with one book. -/
def oneBook (title author : String) : Table := ⟨[⟨some 1, title, author, "Yeti"⟩], 1, true⟩

/-- A change of the title. -/
def retitle : Revision := ⟨some "Tintin in America", none, none⟩

/-- A change of the author. -/
def reattribute : Revision := ⟨none, some "Georges Remi", none⟩

/-- The title is changed, and then the author is. -/
theorem interleaved_updates_in_turn :
    Interleaved (.onto (oneBook "Tintin in Tibet" "Herge"))
      (ExceptT.run (Request.update .sqlite 1 retitle))
      (ExceptT.run (Request.update .sqlite 1 reattribute)) [.first, .first, .second, .second]
      (.ok ⟨1, "Tintin in America", "Herge", "Yeti"⟩)
      (.ok ⟨1, "Tintin in America", "Georges Remi", "Yeti"⟩)
      (.onto (oneBook "Tintin in America" "Georges Remi")) ∧
    ∃ row', (oneBook "Tintin in America" "Georges Remi").row? 1 = some row' ∧
      HasBoth retitle reattribute ⟨"Tintin in Tibet", "Herge", "Yeti"⟩ row'.texts := by
  have hrun : Interleaved (.onto (oneBook "Tintin in Tibet" "Herge"))
      (ExceptT.run (Request.update .sqlite 1 retitle))
      (ExceptT.run (Request.update .sqlite 1 reattribute)) [.first, .first, .second, .second]
      (.ok ⟨1, "Tintin in America", "Herge", "Yeti"⟩)
      (.ok ⟨1, "Tintin in America", "Georges Remi", "Yeti"⟩)
      (.onto (oneBook "Tintin in America" "Georges Remi")) := by
    rw [update_eq, update_eq]
    exact .first (.first (.second (.second (.done _ _ _))))
  have hdisjoint : ∀ c, retitle.text? c = none ∨ reattribute.text? c = none :=
    fun c => by cases c <;> decide
  obtain ⟨t', row', ht', hrow', -, hboth, -⟩ := interleaved_updates rfl rfl hdisjoint hrun
  obtain rfl : oneBook "Tintin in America" "Georges Remi" = t' := Option.some.inj ht'
  exact ⟨hrun, row', hrow', hboth (Or.inl (by decide))⟩

/-- **A change is lost** when two changes of a book overlap. One changes the title and the other the
author, and both are answered as if they had taken place, but the title is the old one. -/
theorem overlapping_updates_lose_title :
    (∀ c, retitle.text? c = none ∨ reattribute.text? c = none) ∧
    Interleaved (.onto (oneBook "Tintin in Tibet" "Herge"))
      (ExceptT.run (Request.update .sqlite 1 retitle))
      (ExceptT.run (Request.update .sqlite 1 reattribute)) [.first, .second, .first, .second]
      (.ok ⟨1, "Tintin in America", "Herge", "Yeti"⟩)
      (.ok ⟨1, "Tintin in Tibet", "Georges Remi", "Yeti"⟩)
      (.onto (oneBook "Tintin in Tibet" "Georges Remi")) ∧
    ¬HasBoth retitle reattribute ⟨"Tintin in Tibet", "Herge", "Yeti"⟩
      ⟨"Tintin in Tibet", "Georges Remi", "Yeti"⟩ := by
  refine ⟨fun c => by cases c <;> decide, ?_, fun h => absurd (h .title) (by decide)⟩
  rw [update_eq, update_eq]
  exact .first (.second (.first (.second (.done _ _ _))))

end Store

end Catalogue
