import Catalogue.Decimal.Binary

/-!
# Decimal digits of a magnitude

The magnitude `m * 2 ^ q` of a floating-point number has many decimal texts. Two choices of digits
are made here, both in exact arithmetic on natural numbers:

* `Catalogue.Digits.shortest` takes the **fewest digits that read back**: among the numbers that
  round to the same float, one on the coarsest decimal grid, the nearest one if the grid offers two,
  the even one on a tie. For each number of digits only the two neighbours of the magnitude on that
  grid have to be tested, for if any point of the grid lies in the interval of numbers that round to
  the float, so does one of those two.
* `Catalogue.Digits.rounded` takes a fixed number of significant digits, a half going away from
  zero.
-/

namespace Catalogue

/-- The decimal number `significand * 10 ^ exponent`. -/
structure Digits where
  /-- The digits, read as a whole number. -/
  significand : Nat
  /-- The power of ten of the last digit. -/
  exponent : Int
  deriving DecidableEq

namespace Digits

/-! ### Scaling -/

/-- How many decimal digits a number has; one for zero. -/
def count (n : Nat) : Nat := (Nat.toDigits 10 n).length

/-- Drop the zeros at the end of the significand, at most `fuel` of them. -/
def stripZeros : Nat → Digits → Digits
  | 0, d => d
  | fuel + 1, d =>
    if d.significand ≠ 0 ∧ d.significand % 10 = 0 then
      stripZeros fuel ⟨d.significand / 10, d.exponent + 1⟩
    else d

/-- The power of ten of the first digit. -/
def leading (d : Digits) : Int := d.exponent + count d.significand - 1

/-- The power of ten of the first digit of `m * 2 ^ q`, for a positive `m` and a `q` of at least
`-1074`: that many digits come before the point once the number is moved 340 places up. -/
def leadingOf (m : Nat) (q : Int) : Int :=
  (count (m * Nat.pow 10 340 * Nat.pow 2 q.toNat / Nat.pow 2 (-q).toNat) : Int) - 341

/-- The whole multiples of `10 ^ p` set against `m * 2 ^ q`: multiplying the first by
`unit p q` and the second by `weight p q` makes both whole numbers of one scale. -/
def unit (p q : Int) : Nat := Nat.pow 10 p.toNat * Nat.pow 2 (-q).toNat

/-- The factor of the binary magnitude on the scale of `Catalogue.Digits.unit`. -/
def weight (p q : Int) : Nat := Nat.pow 2 q.toNat * Nat.pow 10 (-p).toNat

/-! ### The fewest digits that read back -/

/-- The best number with `n` digits that rounds to the float of magnitude `m * 2 ^ q`, if there is
one. The interval of numbers that round to it has its ends half a unit away, a quarter below a power
of two, and contains them if `m` is even. -/
def withDigits? (m : Nat) (q : Int) (n : Nat) : Option Digits :=
  let p := leadingOf m q + 1 - n
  let unit := unit p (q - 2)
  let weight := weight p (q - 2)
  let value := 4 * m * weight
  let low := (4 * m - if m = Binary.leadingBit ∧ -1074 < q then 1 else 2) * weight
  let high := (4 * m + 2) * weight
  let below := value / unit
  let inside (k : Nat) : Bool :=
    if m % 2 = 0 then low ≤ k * unit && k * unit ≤ high else low < k * unit && k * unit < high
  let down := value - below * unit
  let up := (below + 1) * unit - value
  let downFirst := if down = up then below % 2 = 0 else down < up
  if inside below ∧ below ≠ 0 ∧ (downFirst ∨ ¬inside (below + 1)) then some ⟨below, p⟩
  else if inside (below + 1) then some ⟨below + 1, p⟩
  else none

/-- The **fewest digits that read back** as the float of magnitude `m * 2 ^ q`. Seventeen always
suffice. -/
def shortest (m : Nat) (q : Int) : Digits :=
  if m = 0 then ⟨0, 0⟩
  else stripZeros 20 <| ((List.range 17).findSome? fun n => withDigits? m q (n + 1)).getD ⟨m, 0⟩

/-! ### A fixed number of digits -/

/-- The magnitude `m * 2 ^ q` **rounded to `n` significant digits**, a half going up. -/
def rounded (n m : Nat) (q : Int) : Digits :=
  if m = 0 then ⟨0, 0⟩
  else
    let p := leadingOf m q + 1 - n
    let unit := unit p q
    let value := m * weight p q
    stripZeros (n + 1) ⟨(2 * value + unit) / (2 * unit), p⟩

end Digits

end Catalogue
