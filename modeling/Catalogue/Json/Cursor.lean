import Catalogue.Json.Fault
import Catalogue.Text.Symbol

/-!
# A place in the middle of a text

A `Catalogue.Json.Cursor` is what is left of a text and the place reached in it. Faults are noticed
at one of two places: *here*, `Catalogue.Json.Cursor.position`, behind everything that was read, or
one byte further, `Catalogue.Json.Cursor.next`, on the byte that was looked at and found wrong; at
the end of the text the two are the same.

A `Catalogue.Json.Reader` reads a value off the front of a text, or says what is wrong with it.
-/

namespace Catalogue

/-! ### Places -/

namespace Position

/-- The start of a text. -/
def start : Position := ⟨1, 0⟩

/-- The place behind a symbol. -/
def after (p : Position) (s : Symbol) : Position :=
  if s = .char '\n' then ⟨p.line + 1, 0⟩ else ⟨p.line, p.column + s.size⟩

/-- The place behind the first `n` bytes of a symbol, or behind all of it. -/
def into (p : Position) (s : Symbol) (n : Nat) : Position :=
  if s.size ≤ n then p.after s else ⟨p.line, p.column + n⟩

/-- The place so many bytes before, on the same line. -/
def before (p : Position) (n : Nat) : Position := ⟨p.line, p.column - n⟩

end Position

namespace Json

/-! ### Cursors -/

/-- A **place in the middle of a text**. -/
structure Cursor where
  /-- What is left of the text. -/
  rest : List Symbol
  /-- The place reached. -/
  position : Position

namespace Cursor

/-- The start of a sequence of symbols. -/
def start (symbols : List Symbol) : Cursor := ⟨symbols, .start⟩

/-- The place one byte further, or the end of the text. -/
def next (c : Cursor) : Position :=
  match c.rest with
  | [] => c.position
  | .char '\n' :: _ => ⟨c.position.line + 1, 0⟩
  | _ => ⟨c.position.line, c.position.column + 1⟩

/-- Read one symbol. -/
def advance (c : Cursor) : Cursor :=
  match c.rest with
  | [] => c
  | s :: rest => ⟨rest, c.position.after s⟩

/-- A malformation noticed here. -/
def faultHere {α : Type} (c : Cursor) (m : Malformation) : Except Fault α :=
  .error (.malformed m c.position)

/-- A malformation noticed at the byte that follows. -/
def faultNext {α : Type} (c : Cursor) (m : Malformation) : Except Fault α :=
  .error (.malformed m c.next)

/-- Refuse what follows: one malformation at the end of the text, another at any other byte. -/
def refuse {α : Type} (c : Cursor) (atEnd otherwise : Malformation) : Except Fault α :=
  c.faultNext (if c.rest.isEmpty then atEnd else otherwise)

/-! ### Spaces -/

/-- A character that may stand between the parts of a JSON text. -/
def isSpace (c : Char) : Bool := c = ' ' || c = '\n' || c = '\t' || c = '\r'

/-- The cursor behind the spaces at the front of a text. -/
def skipSpaceFrom : List Symbol → Position → Cursor
  | .char c :: rest, p =>
    if isSpace c then skipSpaceFrom rest (p.after (.char c)) else ⟨.char c :: rest, p⟩
  | rest, p => ⟨rest, p⟩

/-- Pass over spaces. -/
def skipSpace (c : Cursor) : Cursor := skipSpaceFrom c.rest c.position

/-! ### Digits -/

/-- The value of a digit. -/
def digit? (c : Char) : Option Nat :=
  if '0' ≤ c ∧ c ≤ '9' then some (c.toNat - 48) else none

/-- The digits at the front of a text, behind those given in reverse, and the cursor behind them. -/
def digitsFrom (ds : List Nat) : List Symbol → Position → List Nat × Cursor
  | .char c :: rest, p =>
    match digit? c with
    | some d => digitsFrom (d :: ds) rest (p.after (.char c))
    | none => (ds.reverse, ⟨.char c :: rest, p⟩)
  | rest, p => (ds.reverse, ⟨rest, p⟩)

/-- Read digits, as many as there are. -/
def digits (c : Cursor) : List Nat × Cursor := digitsFrom [] c.rest c.position

end Cursor

/-- A **reader** of values off the front of a text. -/
abbrev Reader (α : Type) := Cursor → Except Fault (α × Cursor)

end Json

end Catalogue
