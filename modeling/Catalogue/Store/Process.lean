import Catalogue.Store.Statement

/-!
# Requests as processes

A request to the store is a `Catalogue.Store.Process`: it puts statements to the database, one after
another, and each answer decides how it goes on. Nothing holds the statements of a request together,
so that those of other requests may come between them; what a request does is therefore said apart
from when its statements are executed.

`Catalogue.Store.Process.run` executes a request alone, on a `Catalogue.Store.Session`. What can be
said of a request without any session is which statements it puts and what it comes to, whatever it
is answered (`Catalogue.Store.Process.KeepsTo`).
-/

namespace Catalogue

namespace Store

/-- A **request in progress**. -/
inductive Process (α : Type) where
  /-- It has ended. -/
  | done (a : α)
  /-- It puts a statement, and goes on with the answer. -/
  | ask (s : Statement) (next : Except Failure s.Answer → Process α)

namespace Process

variable {α β : Type}

/-- One process after another. -/
def bind : Process α → (α → Process β) → Process β
  | .done a, f => f a
  | .ask s next, f => .ask s fun answer => (next answer).bind f

instance : Monad Process where
  pure := .done
  bind := bind

/-- Put a single statement. -/
def perform (s : Statement) : Process (Except Failure s.Answer) := .ask s .done

end Process

/-! ### Sessions -/

/-- Whether a request **gets a connection**. -/
inductive Availability where
  /-- It does. -/
  | free
  /-- Others have taken them all. -/
  | taken
  /-- There are none any more. -/
  | closed
  deriving DecidableEq

/-- The failure of every statement without a connection. -/
def Availability.failure? : Availability → Option Failure
  | .free => none
  | .taken => some .timedOut
  | .closed => some (.disconnected "attempted to acquire a connection on a closed pool")

/-- The **database and the connections** to it. -/
structure Session where
  /-- How statements are written. -/
  dialect : Dialect
  /-- The table, if there is one. -/
  table : Option Table
  /-- Whether requests get connections. -/
  availability : Availability
  /-- The texts of the searches that were put, the last one first. -/
  log : List String

namespace Session

/-- A session with an empty database. -/
def fresh (d : Dialect) : Session := ⟨d, none, .free, []⟩

/-- The session with a statement in its log. -/
def note (s : Session) (statement : Statement) : Session :=
  { s with log := (statement.text? s.dialect).toList ++ s.log }

/-- Execute a statement. -/
def execute (s : Session) (statement : Statement) : Except Failure statement.Answer × Session :=
  match s.availability.failure? with
  | some f => (.error f, s)
  | none =>
    match statement.execute s.dialect s.table with
    | (answer, t) => (answer, { s with table := t })

end Session

/-- **Run** a process alone. -/
def Process.run {α : Type} : Process α → Session → α × Session
  | .done a, s => (a, s)
  | .ask statement next, s =>
    match (s.note statement).execute statement with
    | (answer, s) => (next answer).run s

/-! ### What a process keeps to -/

namespace Process

variable {α β : Type} {A B : Statement → Prop} {P : α → Prop} {Q : β → Prop}

/-- A process **keeps to** kinds of statements and of ends: whatever it is answered, it puts only
such statements, and it comes to such an end. -/
inductive KeepsTo (A : Statement → Prop) (P : α → Prop) : Process α → Prop where
  /-- It has come to its end. -/
  | done {a : α} (h : P a) : KeepsTo A P (.done a)
  /-- It puts a statement of the kind, and keeps to it after every answer. -/
  | ask {statement : Statement} {next : Except Failure statement.Answer → Process α}
      (here : A statement) (rest : ∀ answer, KeepsTo A P (next answer)) :
      KeepsTo A P (.ask statement next)

/-- A process **puts only statements of a kind**. -/
def Only (A : Statement → Prop) (p : Process α) : Prop := p.KeepsTo A fun _ => True

/-- A process **comes to** something of a kind. -/
def ComesTo (P : α → Prop) (p : Process α) : Prop := p.KeepsTo (fun _ => True) P

theorem KeepsTo.mono {P' : α → Prop} {p : Process α} (h : p.KeepsTo A P)
    (hA : ∀ statement, A statement → B statement) (hP : ∀ a, P a → P' a) : p.KeepsTo B P' := by
  induction h with
  | done h => exact .done (hP _ h)
  | ask here _ ih => exact .ask (hA _ here) ih

/-- A process **goes on from what it has come to**. -/
theorem KeepsTo.bind {p : Process α} {f : α → Process β} (hp : p.KeepsTo A P)
    (hf : ∀ a, P a → (f a).KeepsTo A Q) : (p.bind f).KeepsTo A Q := by
  induction hp with
  | done h => exact hf _ h
  | ask here _ ih => exact .ask here ih

/-- Every process keeps to something. -/
theorem keepsTo_true (p : Process α) : p.KeepsTo (fun _ => True) fun _ => True := by
  induction p with
  | done a => exact .done trivial
  | ask statement next ih => exact .ask trivial ih

/-- What a process comes to when it is run alone is of the kind. -/
theorem KeepsTo.run {p : Process α} (h : p.KeepsTo A P) (s : Session) : P (p.run s).1 := by
  induction h generalizing s with
  | done h => exact h
  | ask _ _ ih => exact ih _ _

end Process

end Store

end Catalogue
