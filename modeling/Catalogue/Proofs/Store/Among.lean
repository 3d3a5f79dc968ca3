import Catalogue.Proofs.Store.Answers
import Catalogue.Proofs.Store.Refinement
import Mathlib.Logic.Relation

/-!
# A request among others

Whenever a request is about to put a statement, any number of others may put some of theirs first.
`Catalogue.Store.Meanwhile` is what they may do in between, and `Catalogue.Store.Among` is what the
request may come to; that nobody else does anything is a case of it (`Catalogue.Store.among_run`).

Nothing is known of the others but what kind of statements they put (`Catalogue.Store.Process.Only`,
`Catalogue.Store.Call.only_request`). What every statement of that kind keeps is kept meanwhile
(`Catalogue.Store.Meanwhile.keeps`): a row, for example, by all statements but the one that removes
it (`Catalogue.Store.Session.isSome_row?_put`).
-/

namespace Catalogue

namespace Store

variable {α β : Type}

/-- Put a statement to the database: it is noted, and executed. -/
def Session.put (s : Session) (statement : Statement) :
    Except Failure statement.Answer × Session :=
  (s.note statement).execute statement

/-! ### What is put -/

section Only

variable {P : Statement → Prop}

theorem only_bind {r : Request α} {f : α → Request β} (hr : (ExceptT.run r).Only P)
    (hf : ∀ a, (ExceptT.run (f a)).Only P) : (ExceptT.run (r >>= f)).Only P := by
  refine Process.KeepsTo.bind (f := ExceptT.bindCont f) hr fun answer _ => ?_
  cases answer with
  | error e => exact .done trivial
  | ok a => exact hf a

theorem only_map {r : Request α} (f : α → β) (hr : (ExceptT.run r).Only P) :
    (ExceptT.run (f <$> r)).Only P :=
  only_bind (f := fun a => pure (f a)) hr fun _ => .done trivial

theorem only_perform {d : Dialect} {op : Operation} {st : Statement} (h : P st) :
    (ExceptT.run (Request.perform d op st)).Only P :=
  Process.KeepsTo.bind (.ask h fun _ => .done trivial) fun _ _ => .done trivial

end Only

/-- A statement that a call **asks** the database. -/
def Call.Asks (st : Statement) : Call → Prop
  | .create x => st = .insert x
  | .update id _ => st = .book id ∨ ∃ b, st = .update b
  | .delete id => st = .delete id
  | .find id => st = .book id

/-- **The statements of a call** are those that it asks. -/
theorem Call.only_request (d : Dialect) (c : Call) :
    (ExceptT.run (c.request d)).Only fun st => c.Asks st := by
  cases c with
  | create x =>
    refine only_map _ ?_
    by_cases hmissing : x.missing.isEmpty = true
    · have hput : Request.create d x = Request.perform d .create (.insert x) := if_pos hmissing
      rw [hput]
      exact only_perform rfl
    · have hrefused : Request.create d x = throw _ := if_neg hmissing
      rw [hrefused]
      exact .done trivial
  | update id r =>
    refine only_map _ (only_bind (only_perform (Or.inl rfl)) fun found => ?_)
    cases found with
    | none => exact .done trivial
    | some b => exact only_bind (only_perform (Or.inr ⟨r.apply b, rfl⟩)) fun _ => .done trivial
  | delete id => exact only_map _ (only_perform rfl)
  | find id => exact only_map _ (only_perform rfl)

/-- Only the call that removes a book puts the statement that removes its row. -/
theorem Call.only_request_of_ne (d : Dialect) {c : Call} {id : Int64} (hc : c ≠ .delete id) :
    (ExceptT.run (c.request d)).Only fun st => st ≠ .delete id := by
  refine (c.only_request d).mono ?_ fun _ h => h
  rintro st hst rfl
  cases c with
  | create x => cases hst
  | update id' r =>
    rcases hst with hst | ⟨b, hst⟩
    · cases hst
    · cases hst
  | delete id' => exact hc (congrArg Call.delete (Statement.delete.inj hst).symm)
  | find id' => cases hst

/-! ### Meanwhile -/

/-- One of some processes **puts its next statement**. -/
inductive Advance : Session × List (Process α) → Session × List (Process α) → Prop where
  /-- It goes on with the answer. -/
  | put (s : Session) (before after : List (Process α)) (statement : Statement)
      (next : Except Failure statement.Answer → Process α) :
      Advance (s, before ++ .ask statement next :: after)
        ((s.put statement).2, before ++ next (s.put statement).1 :: after)

/-- What some processes do **meanwhile**: they put any number of statements, in any order. -/
def Meanwhile : Session × List (Process α) → Session × List (Process α) → Prop :=
  Relation.ReflTransGen Advance

/-- One of them may run from its beginning to its end. -/
theorem meanwhile_run (before after : List (Process α)) (p : Process α) (s : Session) :
    Meanwhile (s, before ++ p :: after)
      ((p.run s).2, before ++ .done (p.run s).1 :: after) := by
  induction p generalizing s with
  | done a => exact .refl
  | ask statement next ih =>
    exact .head (.put s before after statement next) (ih _ (s.put statement).2)

section Keeps

variable {P : Statement → Prop} {I : Session → Prop}

/-- What statements of a kind keep is kept by a process that puts only such. -/
theorem Advance.keeps (hI : ∀ s st, P st → I s → I (s.put st).2)
    {x y : Session × List (Process α)} (h : Advance x y) (hx : I x.1) (hP : ∀ p ∈ x.2, p.Only P) :
    I y.1 ∧ ∀ p ∈ y.2, p.Only P := by
  cases h with
  | put s before after statement next =>
    rw [List.forall_mem_append, List.forall_mem_cons] at hP
    obtain ⟨hbefore, hself, hafter⟩ := hP
    -- the statement is of the kind, and so is what the process puts from then on
    cases hself with
    | ask here rest =>
      refine ⟨hI s statement here hx, ?_⟩
      rw [List.forall_mem_append, List.forall_mem_cons]
      exact ⟨hbefore, rest _, hafter⟩

/-- **What statements of a kind keep is kept meanwhile** by processes that put only such. -/
theorem Meanwhile.keeps (hI : ∀ s st, P st → I s → I (s.put st).2)
    {x y : Session × List (Process α)} (h : Meanwhile x y) (hx : I x.1)
    (hP : ∀ p ∈ x.2, p.Only P) : I y.1 ∧ ∀ p ∈ y.2, p.Only P := by
  induction h with
  | refl => exact ⟨hx, hP⟩
  | tail _ hstep ih => exact hstep.keeps hI ih.1 ih.2

/-- Processes that put only statements of a kind still do so after a while. -/
theorem Meanwhile.only {x y : Session × List (Process α)} (h : Meanwhile x y)
    (hP : ∀ p ∈ x.2, p.Only P) : ∀ p ∈ y.2, p.Only P :=
  (h.keeps (I := fun _ => True) (fun _ _ _ _ => trivial) trivial hP).2

end Keeps

/-! ### Among others -/

/-- A process **among others**: before each of its statements they may do something. The *moments*
are the sessions that its statements found, and the last session is the one that its last statement
left. -/
inductive Among :
    Session → List (Process β) → Process α → List Session → α → Session → Prop where
  /-- It has ended. -/
  | done (s : Session) (others : List (Process β)) (a : α) : Among s others (.done a) [] a s
  /-- The others do something, and then it puts a statement. -/
  | ask {s s₁ s' : Session} {others others₁ : List (Process β)} {statement : Statement}
      {next : Except Failure statement.Answer → Process α} {moments : List Session} {a : α}
      (wait : Meanwhile (s, others) (s₁, others₁))
      (rest : Among (s₁.put statement).2 others₁ (next (s₁.put statement).1) moments a s') :
      Among s others (.ask statement next) (s₁ :: moments) a s'

/-- A process may be left alone by the others. -/
theorem among_run (p : Process α) (others : List (Process β)) (s : Session) :
    ∃ moments, Among s others p moments (p.run s).1 (p.run s).2 := by
  induction p generalizing s with
  | done a => exact ⟨[], .done s others a⟩
  | ask statement next ih =>
    obtain ⟨moments, h⟩ := ih (s.put statement).1 (s.put statement).2
    exact ⟨s :: moments, .ask .refl h⟩

section Ends

variable {s s' : Session} {others : List (Process β)} {moments : List Session} {a a' : α}

/-- A process that has ended comes to what it has ended with, and does nothing any more. -/
theorem Among.of_done (h : Among s others (.done a) moments a' s') :
    moments = [] ∧ a' = a ∧ s' = s := by
  cases h with
  | done => exact ⟨rfl, rfl, rfl⟩

/-- A process that puts a statement finds what the others have left. -/
theorem Among.of_ask {statement : Statement} {next : Except Failure statement.Answer → Process α}
    (h : Among s others (.ask statement next) moments a s') :
    ∃ s₁ others₁ moments₁, moments = s₁ :: moments₁ ∧ Meanwhile (s, others) (s₁, others₁) ∧
      Among (s₁.put statement).2 others₁ (next (s₁.put statement).1) moments₁ a s' := by
  cases h with
  | ask wait rest => exact ⟨_, _, _, rfl, wait, rest⟩

end Ends

/-! ### Rows -/

/-- A row that is added comes behind the others. -/
theorem Table.rows_of_insert? {t t' : Table} {x : Draft} {row : Row}
    (h : t.insert? x = some (row, t')) : t'.rows = t.rows ++ [row] := by
  rw [insert?] at h
  by_cases htitle : t.hasTitle x.title none = true
  · rw [if_pos htitle] at h
    cases h
  · rw [if_neg htitle] at h
    obtain ⟨rfl, rfl⟩ := Prod.mk.inj (Option.some.inj h)
    rfl

/-- All statements keep the row of an identifier, except the one that removes it. -/
theorem Table.isSome_row?_executeOn {t : Table} {id : Int64} {st : Statement} (d : Dialect)
    (hst : st ≠ .delete id) (h : (t.row? id).isSome) :
    ((st.executeOn d t).2.row? id).isSome := by
  cases st with
  | ensureTable => exact h
  | ping => exact h
  | book id' => rwa [Statement.executeOn_book]
  | books search window => rwa [snd_executeOn_books]
  | count condition => rwa [snd_executeOn_count]
  | insert x =>
    rw [Statement.executeOn]
    split
    · exact h
    · split
      · exact h
      · rename_i row t' hinsert
        -- the new row comes last, and what is looked for is found before it
        change (t'.row? id).isSome
        rw [row?, rows_of_insert? hinsert, List.find?_append, Option.isSome_or, Bool.or_eq_true]
        exact Or.inl h
  | update b =>
    rw [Statement.executeOn]
    split
    · exact h
    · rename_i t' ht'
      rw [eq_changed_of_update? ht', row?_changed, Option.isSome_map]
      exact h
  | delete gone =>
    have hne : id ≠ gone := fun heq => hst (congrArg Statement.delete heq.symm)
    change ((t.delete gone).row? id).isSome
    rw [row?_delete, if_neg hne]
    exact h

namespace Session

variable {s : Session}

/-- The **row** of an identifier, if there is a table and a row in it. -/
def row? (s : Session) (id : Int64) : Option Row := s.table.bind fun t => t.row? id

/-- A statement that is not noted is just executed. -/
theorem put_eq {st : Statement} (h : st.text? s.dialect = none) : s.put st = s.execute st := by
  rw [put, note_eq_self s h]

/-- A statement that has come to something found a connection, and a table unless it can do
without. -/
theorem executed_of_put_ok {st : Statement} {a : st.Answer} (h : (s.put st).1 = .ok a)
    (hwithout : ∀ a, (st.executeWithout s.dialect).1 ≠ .ok a) :
    ∃ t, s.table = some t ∧ (st.executeOn s.dialect t).1 = .ok a ∧
      (s.put st).2 = { s.note st with table := some (st.executeOn s.dialect t).2 } := by
  have hnoted : (s.note st).availability = s.availability ∧ (s.note st).table = s.table :=
    ⟨rfl, rfl⟩
  rw [put] at h ⊢
  cases hfree : s.availability.failure? with
  | some f =>
    rw [(s.note st).execute_of_failure hfree] at h
    cases h
  | none =>
    cases ht : s.table with
    | none =>
      rw [execute, hnoted.1, hnoted.2, hfree, ht] at h
      exact absurd h (hwithout a)
    | some t =>
      rw [(s.note st).execute_of_table hfree ht] at h ⊢
      exact ⟨t, rfl, h, rfl⟩

/-- Putting a statement leaves the table, or what the statement makes of it. -/
theorem table_put {t : Table} (ht : s.table = some t) (st : Statement) :
    (s.put st).2.table = some t ∨ (s.put st).2.table = some (st.executeOn s.dialect t).2 := by
  cases hfree : s.availability.failure? with
  | some f =>
    rw [put, (s.note st).execute_of_failure hfree]
    exact Or.inl ht
  | none =>
    rw [put, (s.note st).execute_of_table hfree ht]
    exact Or.inr rfl

/-- **A row is kept** by all statements but the one that removes it. -/
theorem isSome_row?_put {id : Int64} {st : Statement} (hst : st ≠ .delete id)
    (h : (s.row? id).isSome) : ((s.put st).2.row? id).isSome := by
  cases ht : s.table with
  | none =>
    rw [row?, ht] at h
    cases h
  | some t =>
    rw [row?, ht] at h
    rcases table_put ht st with hsame | hnew
    · rw [row?, hsame]
      exact h
    · rw [row?, hnew]
      exact Table.isSome_row?_executeOn s.dialect hst h

end Session

end Store

end Catalogue
