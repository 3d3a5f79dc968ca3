import Catalogue.Word

/-!
# Floating-point numbers taken apart

`Catalogue.Binary.ofFloat` reads a binary64 number off its bits: a sign, and a magnitude
`mantissa * 2 ^ exponent` with whole-number mantissa. The decimal modules work on these two numbers
alone, in exact arithmetic.
-/

namespace Catalogue

/-- A binary64 number **taken apart**. -/
inductive Binary where
  /-- Not a number. -/
  | nan
  /-- An infinity. -/
  | infinite (negative : Bool)
  /-- The number of magnitude `mantissa * 2 ^ exponent`. -/
  | finite (negative : Bool) (mantissa : Nat) (exponent : Int)
  deriving DecidableEq

namespace Binary

/-- The bit of a mantissa that is set but not kept, except in the smallest numbers. -/
def leadingBit : Nat := 0x10000000000000

/-- The parts of a number, from its sign bit, its eleven exponent bits and its fraction. -/
def ofFloat (x : Float) : Binary :=
  let bits := x.toBits.toNat
  let negative := bits / Word.half == 1
  let biased : Nat := bits / leadingBit % 2048
  let fraction := bits % leadingBit
  if biased = 2047 then if fraction = 0 then .infinite negative else .nan
  else if biased = 0 then .finite negative fraction (-1074)
  else .finite negative (leadingBit + fraction) ((biased : Int) - 1075)

end Binary

end Catalogue
