/-!
# Windows

A `Catalogue.Window` is the part of a list of rows that a client wants to see: so many rows are
passed over, and at most so many are shown.
-/

namespace Catalogue

/-- A **window** on a list of rows. -/
structure Window where
  /-- The number of rows passed over. -/
  offset : Nat
  /-- The greatest number of rows shown. -/
  limit : Nat
  deriving DecidableEq

namespace Window

/-- The first rows. -/
def first (limit : Nat) : Window := ⟨0, limit⟩

/-- The limit where none is asked for. -/
def defaultLimit : Nat := 1000

/-- The window where none is asked for. -/
def default : Window := first defaultLimit

/-- The window, with the limit **capped**. -/
def clamp (w : Window) (most : Nat) : Window := ⟨w.offset, min w.limit most⟩

/-- The part of a statement that chooses rows by their places. -/
def clause (w : Window) : String :=
  " LIMIT " ++ String.ofList (Nat.toDigits 10 w.limit) ++ " OFFSET " ++
    String.ofList (Nat.toDigits 10 w.offset)

/-- The rows that are seen **through the window**. -/
def view {α : Type} (w : Window) (rows : List α) : List α := (rows.drop w.offset).take w.limit

end Window

end Catalogue
