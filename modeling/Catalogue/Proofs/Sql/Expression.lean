import Catalogue.Condition.Meaning
import Catalogue.Proofs.Sql.Token

/-!
# Boolean expressions of SQL

The grammar of the expressions that stand behind `WHERE`: comparisons of a column with a
placeholder, joined by `OR`, which binds least, by `AND`, and by `NOT`, which binds most, with
parentheses around anything. `Catalogue.Sql.Derives` is the grammar, one level for each strength of
binding; of two equal words the one on the left binds first.

A database has to make one expression of a text, so the grammar must not allow two. That is shown by
a reader which goes through the tokens once from left to right and keeps what is open on a stack
(`Catalogue.Sql.Reading`): whatever the grammar derives is what the reader comes to
(`Catalogue.Sql.Derives.read_eq`), hence there is only one such thing
(`Catalogue.Sql.Derives.unique`).
-/

namespace Catalogue

namespace Sql

/-! ### Expressions -/

/-- How a **comparison** is written. -/
inductive Form where
  /-- The column equals the value. -/
  | equal
  /-- The column matches the pattern. -/
  | like
  /-- The column matches the pattern by an operator that disregards the letter case. -/
  | ilike
  /-- The column in lower case matches the pattern in lower case. -/
  | lowered
  deriving DecidableEq

/-- A **placeholder** of a value. -/
inductive Mark where
  /-- A question mark. -/
  | question
  /-- A dollar sign and a number. -/
  | numbered (n : Nat)
  deriving DecidableEq

/-- An **atom**: one comparison. -/
structure Atom where
  /-- The column. -/
  column : Column
  /-- How it is compared. -/
  form : Form
  /-- The placeholder of the value. -/
  mark : Mark
  deriving DecidableEq

/-- The tokens of a placeholder. -/
def Mark.tokens : Mark → List Token
  | .question => [.word .mark]
  | .numbered n => [.word .dollar, .numeral n]

/-- The **tokens of an atom**, without spaces. -/
def Atom.tokens (a : Atom) : List Token :=
  match a.form with
  | .equal => .word (.column a.column) :: .word .equals :: a.mark.tokens
  | .like => .word (.column a.column) :: .word .like :: a.mark.tokens
  | .ilike => .word (.column a.column) :: .word .ilike :: a.mark.tokens
  | .lowered =>
    .word .lower :: .word .opened :: .word (.column a.column) :: .word .closed :: .word .like ::
      .word .lower :: .word .opened :: (a.mark.tokens ++ [.word .closed])

/-- A **boolean expression**. -/
inductive Expression where
  /-- A comparison. -/
  | atom (a : Atom)
  /-- A negation. -/
  | not (e : Expression)
  /-- Both of two. -/
  | and (e f : Expression)
  /-- One of two. -/
  | or (e f : Expression)

namespace Expression

/-- The atoms, from left to right. -/
def atoms : Expression → List Atom
  | .atom a => [a]
  | .not e => e.atoms
  | .and e f => e.atoms ++ f.atoms
  | .or e f => e.atoms ++ f.atoms

/-- The **truth** of an expression, given that of each atom by its place; the first atom is the
`n`-th. -/
def truth (v : Nat → Truth) : Nat → Expression → Truth
  | n, .atom _ => v n
  | n, .not e => (e.truth v n).not
  | n, .and e f => (e.truth v n).and (f.truth v (n + e.atoms.length))
  | n, .or e f => (e.truth v n).or (f.truth v (n + e.atoms.length))

end Expression

/-! ### The grammar -/

/-- How strongly an expression **holds together**. -/
inductive Level where
  /-- It may have `OR` outside of parentheses. -/
  | disjunction
  /-- It may have `AND` outside of parentheses, but not `OR`. -/
  | conjunction
  /-- It has neither. -/
  | negation

/-- The **grammar**: the tokens, without spaces, make the expression. -/
inductive Derives : Level → List Token → Expression → Prop
  /-- A comparison. -/
  | atom (a : Atom) : Derives .negation a.tokens (.atom a)
  /-- Anything in parentheses. -/
  | enclosed {ts : List Token} {e : Expression} :
    Derives .disjunction ts e → Derives .negation (.word .opened :: (ts ++ [.word .closed])) e
  /-- A negation. -/
  | not {ts : List Token} {e : Expression} :
    Derives .negation ts e → Derives .negation (.word .not :: ts) (.not e)
  /-- What holds together more strongly is a conjunction of one. -/
  | conjunct {ts : List Token} {e : Expression} :
    Derives .negation ts e → Derives .conjunction ts e
  /-- One more conjunct. -/
  | and {ts us : List Token} {e f : Expression} :
    Derives .conjunction ts e → Derives .negation us f →
      Derives .conjunction (ts ++ .word .and :: us) (.and e f)
  /-- What holds together more strongly is a disjunction of one. -/
  | disjunct {ts : List Token} {e : Expression} :
    Derives .conjunction ts e → Derives .disjunction ts e
  /-- One more disjunct. -/
  | or {ts us : List Token} {e f : Expression} :
    Derives .disjunction ts e → Derives .conjunction us f →
      Derives .disjunction (ts ++ .word .or :: us) (.or e f)

/-! ### A reader -/

/-- The placeholder that tokens are. -/
def Mark.ofTokens? : List Token → Option Mark
  | [.word .mark] => some .question
  | [.word .dollar, .numeral n] => some (.numbered n)
  | _ => none

/-- The atom that tokens are. -/
def Atom.ofTokens? : List Token → Option Atom
  | .word (.column c) :: .word .equals :: ts => (Mark.ofTokens? ts).map (⟨c, .equal, ·⟩)
  | .word (.column c) :: .word .like :: ts => (Mark.ofTokens? ts).map (⟨c, .like, ·⟩)
  | .word (.column c) :: .word .ilike :: ts => (Mark.ofTokens? ts).map (⟨c, .ilike, ·⟩)
  | .word .lower :: .word .opened :: .word (.column c) :: .word .closed :: .word .like ::
      .word .lower :: .word .opened :: ts =>
    if ts.getLast? = some (.word .closed) then
      (Mark.ofTokens? ts.dropLast).map (⟨c, .lowered, ·⟩)
    else none
  | _ => none

/-- What is open **between two parentheses**: the disjuncts that are complete, the conjuncts of the
last one, and how many negations wait for what comes next. -/
structure Frame where
  /-- The disjuncts that are complete. -/
  either : Option Expression
  /-- The conjuncts of the disjunct that is not. -/
  both : Option Expression
  /-- The negations that wait. -/
  nots : Nat

namespace Frame

/-- Nothing has been read yet. -/
def start : Frame := ⟨none, none, 0⟩

/-- An expression behind others, if there are others. -/
def behind (op : Expression → Expression → Expression) : Option Expression → Expression → Expression
  | none, e => e
  | some d, e => op d e

/-- An expression under so many negations. -/
def negated : Nat → Expression → Expression
  | 0, e => e
  | n + 1, e => negated n (.not e)

/-- One more operand. -/
def add (f : Frame) (e : Expression) : Frame :=
  ⟨f.either, some (behind .and f.both (negated f.nots e)), 0⟩

/-- What has been read. -/
def value (f : Frame) : Option Expression := f.both.map (behind .or f.either)

/-- The last disjunct is complete. -/
def turn (f : Frame) : Frame := ⟨f.value, none, 0⟩

/-- One more negation. -/
def negate (f : Frame) : Frame := { f with nots := f.nots + 1 }

end Frame

/-- The **state of the reader**, between the innermost parentheses that are open and in those
around them. -/
inductive Reading where
  /-- An operand is due, of which some tokens have been read. -/
  | operand (pending : List Token) (inner : Frame) (outer : List Frame)
  /-- A word between operands is due, or an end. -/
  | operator (inner : Frame) (outer : List Frame)

namespace Reading

/-- One more token of a comparison. -/
def compare (pending : List Token) (t : Token) (inner : Frame) (outer : List Frame) : Reading :=
  match Atom.ofTokens? (pending ++ [t]) with
  | some a => .operator (inner.add (.atom a)) outer
  | none => .operand (pending ++ [t]) inner outer

/-- **Take one token**. -/
def step : Reading → Token → Option Reading
  | .operand [] inner outer, .word .not => some (.operand [] inner.negate outer)
  | .operand [] inner outer, .word .opened => some (.operand [] .start (inner :: outer))
  | .operand pending inner outer, t => some (compare pending t inner outer)
  | .operator inner outer, .word .and => some (.operand [] inner outer)
  | .operator inner outer, .word .or => some (.operand [] inner.turn outer)
  | .operator inner (f :: outer), .word .closed =>
    inner.value.map fun e => .operator (f.add e) outer
  | .operator _ _, _ => none

/-- Take tokens, one after another. -/
def run : Reading → List Token → Option Reading
  | s, [] => some s
  | s, t :: ts => (s.step t).bind fun s => s.run ts

end Reading

/-- The expression that the **reader** comes to. -/
def read (ts : List Token) : Option Expression :=
  match Reading.run (.operand [] .start []) ts with
  | some (.operator inner []) => inner.value
  | _ => none

/-! ### The reader follows the grammar -/

/-- The reader takes a comparison for what it is. -/
theorem run_atom (a : Atom) (inner : Frame) (outer : List Frame) (rest : List Token) :
    Reading.run (.operand [] inner outer) (a.tokens ++ rest) =
      Reading.run (.operator (inner.add (.atom a)) outer) rest := by
  obtain ⟨c, form, mark⟩ := a
  cases form <;> cases mark <;> rfl

/-- What the **reader does with a derivation**: it takes its tokens and comes to its expression, as
one more operand, as a chain of conjuncts, or as all there is between two parentheses. -/
def Follows : Level → List Token → Expression → Prop
  | .negation, ts, e => ∀ inner outer rest,
    Reading.run (.operand [] inner outer) (ts ++ rest) =
      Reading.run (.operator (inner.add e) outer) rest
  | .conjunction, ts, e => ∀ either outer rest,
    Reading.run (.operand [] ⟨either, none, 0⟩ outer) (ts ++ rest) =
      Reading.run (.operator ⟨either, some e, 0⟩ outer) rest
  | .disjunction, ts, e => ∃ either both, Frame.behind .or either both = e ∧ ∀ outer rest,
    Reading.run (.operand [] .start outer) (ts ++ rest) =
      Reading.run (.operator ⟨either, some both, 0⟩ outer) rest

/-- **The reader follows every derivation.** -/
theorem Derives.follows {l : Level} {ts : List Token} {e : Expression} (h : Derives l ts e) :
    Follows l ts e := by
  induction h with
  | atom a => exact run_atom a
  | enclosed _ ih =>
    -- what is open around the parentheses waits on the stack
    obtain ⟨either, both, rfl, hrun⟩ := ih
    intro inner outer rest
    rw [List.cons_append, List.append_assoc, List.singleton_append]
    exact hrun (inner :: outer) (.word .closed :: rest)
  | not _ ih =>
    intro inner outer rest
    exact ih inner.negate outer rest
  | conjunct _ ih =>
    intro either outer rest
    exact ih ⟨either, none, 0⟩ outer rest
  | and _ _ ih ih' =>
    intro either outer rest
    rw [List.append_assoc, List.cons_append, ih]
    exact ih' ⟨either, some _, 0⟩ outer rest
  | disjunct _ ih => exact ⟨none, _, rfl, ih none⟩
  | @or ts us e f _ _ ih ih' =>
    -- the disjunct before the word is complete, and joins those before it
    obtain ⟨either, both, rfl, hrun⟩ := ih
    refine ⟨some (Frame.behind .or either both), f, rfl, fun outer rest => ?_⟩
    rw [List.append_assoc, List.cons_append, hrun]
    exact ih' _ outer rest

/-- The reader comes to the expression that the grammar derives. -/
theorem Derives.read_eq {ts : List Token} {e : Expression} (h : Derives .disjunction ts e) :
    read ts = some e := by
  obtain ⟨either, both, rfl, hrun⟩ := h.follows
  have hend := hrun [] []
  rw [List.append_nil] at hend
  rw [read, hend]
  rfl

/-- **The grammar is unambiguous.** -/
theorem Derives.unique {ts : List Token} {e f : Expression} (h : Derives .disjunction ts e)
    (h' : Derives .disjunction ts f) : e = f :=
  Option.some.inj (h.read_eq.symm.trans h'.read_eq)

end Sql

end Catalogue
