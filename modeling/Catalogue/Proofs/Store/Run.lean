import Catalogue.Store.Request

/-!
# Running requests

A request runs its parts one after another: `Catalogue.Store.Session.run_bind` and
`Catalogue.Store.Session.run_map` say so, and `Catalogue.Store.Session.run_perform` says what
becomes of a single statement. A request without a connection, or before there is a table, fails at
its first statement; `Catalogue.Store.Session.onto` is a session in which neither is the case.

A request may also be followed from answer to answer, with no session at all
(`Catalogue.Store.Process.answered`). For one that changes nothing that is the same
(`Catalogue.Store.Process.Looks.run_eq`).
-/

namespace Catalogue

namespace Store

variable {α β : Type}

/-- A process that goes on as another runs both of them. -/
theorem Process.run_bind (p : Process α) (f : α → Process β) (s : Session) :
    (p.bind f).run s = (f (p.run s).1).run (p.run s).2 := by
  induction p generalizing s with
  | done a => rfl
  | ask statement next ih => exact ih _ _

/-! ### Answers -/

section Answers

variable {ε : Type} (answer : (s : Statement) → Except Failure s.Answer)

/-- What a process comes to if its statements are **answered** like this. -/
def Process.answered : Process α → α
  | .done a => a
  | .ask s next => (next (answer s)).answered

theorem Process.answered_bind (p : Process α) (f : α → Process β) :
    (p.bind f).answered answer = (f (p.answered answer)).answered answer := by
  induction p with
  | done a => rfl
  | ask s next ih => exact ih (answer s)

/-- A request is answered after another if that one came to something. -/
theorem answered_run_bind (r : ExceptT ε Process α) (f : α → ExceptT ε Process β) :
    (ExceptT.run (r >>= f)).answered answer =
      ((ExceptT.run r).answered answer).bind fun a => (ExceptT.run (f a)).answered answer := by
  refine (Process.answered_bind answer (ExceptT.run r) (ExceptT.bindCont f)).trans ?_
  rcases (ExceptT.run r).answered answer with e | a
  · rfl
  · rfl

end Answers

/-! ### Sessions -/

namespace Session

/-- A session of SQLite with a **table** and free connections, in which no search was put yet. -/
def onto (t : Table) : Session := ⟨.sqlite, some t, .free, []⟩

variable (s : Session)

/-- A request runs after another if that one came to something. -/
theorem run_bind (r : Request α) (f : α → Request β) :
    s.run (r >>= f) =
      match s.run r with
      | (.ok a, s') => s'.run (f a)
      | (.error e, s') => (.error e, s') := by
  have hrun : s.run (r >>= f) = (ExceptT.bindCont f (s.run r).1).run (s.run r).2 :=
    Process.run_bind (ExceptT.run r) (ExceptT.bindCont f) s
  rw [hrun]
  rcases hr : s.run r with ⟨e | a, s'⟩
  · rfl
  · rfl

/-- What a request comes to may be read in another way. -/
theorem run_map (f : α → β) (r : Request α) :
    s.run (f <$> r) = ((s.run r).1.map f, (s.run r).2) := by
  have hrun : s.run (f <$> r) = s.run (r >>= fun a => pure (f a)) := rfl
  rw [hrun, run_bind]
  rcases hr : s.run r with ⟨e | a, s'⟩
  · rfl
  · rfl

/-- A request that refuses puts nothing. -/
theorem run_throw (e : Fault) : s.run (throw e : Request α) = (.error e, s) := rfl

/-- Without a connection nothing is executed. -/
theorem execute_of_failure {f : Failure} (h : s.availability.failure? = some f)
    (statement : Statement) : s.execute statement = (.error f, s) := by
  rw [execute, h]

/-- With a connection a statement is executed on the table. -/
theorem execute_of_table {t : Table} (h : s.availability.failure? = none) (ht : s.table = some t)
    (statement : Statement) :
    s.execute statement =
      ((statement.executeOn s.dialect t).1,
        { s with table := some (statement.executeOn s.dialect t).2 }) := by
  rw [execute, h, ht]
  rfl

/-- Only statements that depend on what a client sent leave a trace in the log. -/
theorem note_eq_self {statement : Statement} (h : statement.text? s.dialect = none) :
    s.note statement = s := by
  rw [note, h]
  rfl

/-- A statement is executed on the table of a session with a connection. -/
theorem execute_onto (t : Table) (statement : Statement) :
    (onto t).execute statement =
      ((statement.executeOn .sqlite t).1, onto (statement.executeOn .sqlite t).2) :=
  (onto t).execute_of_table rfl rfl statement

/-- **A statement that is not noted** is executed on the table, and nothing else happens. -/
theorem run_perform (t : Table) (op : Operation) (statement : Statement)
    (h : statement.text? .sqlite = none) :
    (onto t).run (Request.perform .sqlite op statement) =
      ((statement.executeOn .sqlite t).1.mapError (Fault.ofFailure .sqlite op),
        onto (statement.executeOn .sqlite t).2) := by
  have hask : (Process.perform statement).run (onto t) = (onto t).execute statement := by
    change ((onto t).note statement).execute statement = _
    rw [note_eq_self (onto t) h]
  refine (Process.run_bind _ _ _).trans ?_
  rw [hask, execute_onto]
  rcases statement.executeOn .sqlite t with ⟨f | a, t'⟩
  · rfl
  · rfl

/-- A request that begins with a statement that is not noted goes on with the answer to it. -/
theorem run_perform_bind (t : Table) (op : Operation) (statement : Statement)
    (h : statement.text? .sqlite = none) (f : statement.Answer → Request β) :
    (onto t).run (Request.perform .sqlite op statement >>= f) =
      match statement.executeOn .sqlite t with
      | (.ok a, t') => (onto t').run (f a)
      | (.error e, t') => (.error (Fault.ofFailure .sqlite op e), onto t') := by
  rw [run_bind, run_perform t op statement h]
  rcases statement.executeOn .sqlite t with ⟨e | a, t'⟩
  · rfl
  · rfl

end Session

/-! ### Requests that change nothing -/

namespace Process

/-- A process **only looks** at a table: none of its statements changes it. -/
inductive Looks (d : Dialect) (t : Table) : Process α → Prop
  /-- It has ended. -/
  | done (a : α) : Looks d t (.done a)
  /-- Its statement changes nothing, and it only looks from then on. -/
  | ask {s : Statement} {next : Except Failure s.Answer → Process α} :
    (s.executeOn d t).2 = t → Looks d t (next (s.executeOn d t).1) → Looks d t (.ask s next)

variable {d : Dialect} {t : Table}

theorem Looks.bind {p : Process α} {f : α → Process β} (hp : p.Looks d t)
    (hf : ∀ a, (f a).Looks d t) : (p.bind f).Looks d t := by
  induction hp with
  | done a => exact hf a
  | ask hsame _ ih => exact .ask hsame ih

/-- **A process that only looks** comes to the same as if one table answered all of its
statements. -/
theorem Looks.run_eq {p : Process α} (h : p.Looks d t) {s : Session} (hd : s.dialect = d)
    (hfree : s.availability.failure? = none) (ht : s.table = some t) :
    (p.run s).1 = p.answered fun statement => (statement.executeOn d t).1 := by
  induction h generalizing s with
  | done a => rfl
  | @ask statement next hsame _ ih =>
    subst hd
    rw [run, (s.note statement).execute_of_table hfree ht statement]
    exact ih rfl hfree (congrArg some hsame)

end Process

end Store

end Catalogue
