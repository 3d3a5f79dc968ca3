/-!
# Blank characters and trimming

A character is *blank* when it has the Unicode property `White_Space`; trimming a text removes the
blank characters at both of its ends and nothing else. `Catalogue.Text.trim` is the one trimming
rule of the service: paging parameters, book identifiers and the required fields of a new book are
all read through it.

The table `Catalogue.Text.blankRanges` is the whole property. It holds the no-break space and the
ideographic space, and it does not hold the zero-width space or the byte order mark.
-/

namespace Catalogue

namespace Text

/-! ### The property -/

/-- The ranges of code points with the property `White_Space`, in ascending order. -/
def blankRanges : List (Nat × Nat) :=
  [(0x9, 0xD), (0x20, 0x20), (0x85, 0x85), (0xA0, 0xA0), (0x1680, 0x1680), (0x2000, 0x200A),
    (0x2028, 0x2029), (0x202F, 0x202F), (0x205F, 0x205F), (0x3000, 0x3000)]

/-- A code point lies in one of the ranges. -/
def inRanges (ranges : List (Nat × Nat)) (n : Nat) : Bool :=
  ranges.any fun r => r.1 ≤ n && n ≤ r.2

/-- A **blank** character: one with the property `White_Space`. -/
def isBlank (c : Char) : Bool := inRanges blankRanges c.toNat

/-- Every space of ASCII text is blank. -/
theorem isBlank_of_isWhitespace {c : Char} (h : c.isWhitespace = true) : isBlank c = true := by
  simp only [Char.isWhitespace, Bool.or_eq_true, decide_eq_true_eq] at h
  rcases h with ((rfl | rfl) | rfl) | rfl <;> decide

/-! ### Trimming -/

/-- The characters without the blank ones at either end. -/
def trimBlank (cs : List Char) : List Char :=
  ((cs.dropWhile isBlank).reverse.dropWhile isBlank).reverse

/-- The text **without the blank characters at its ends**. -/
def trim (s : String) : String := String.ofList (trimBlank s.toList)

/-- A text of which trimming leaves nothing. -/
def isBlankText (s : String) : Bool := s.toList.all isBlank

end Text

end Catalogue
