/-!
# Words

Whole numbers that fit a machine word. Unsigned words of 16, 32 and 64 bits have their sizes in the
library already; `Catalogue.Word.IsSigned` says that a number fits a signed word of 64 bits.
-/

namespace Catalogue

namespace Word

/-- How many signed words of 64 bits are **not negative**. -/
def half : Nat := 0x8000000000000000

/-- A whole number fits a **signed word** of 64 bits. -/
abbrev IsSigned (n : Int) : Prop := -(half : Int) ≤ n ∧ n < (half : Int)

/-- A signed word is found again from its number. -/
theorem isSigned_toInt (n : Int64) : IsSigned n.toInt :=
  ⟨n.le_toInt, n.toInt_lt⟩

end Word

end Catalogue
