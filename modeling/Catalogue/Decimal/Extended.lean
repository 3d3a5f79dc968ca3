import Catalogue.Decimal.Digits

/-!
# Numbers with 64 binary digits

Between decimal texts and floating-point numbers, SQL calculates with numbers that have 64 binary
digits, and every product is rounded to that many (`Catalogue.Extended.mul`). A number is brought
into a fixed range by powers of ten, each step is rounded, and its digits are read off there
(`Catalogue.Extended.digits`); the other way round, digits are multiplied by powers of ten until the
exponent is used up (`Catalogue.Extended.ofDecimal`). Neither of the two always finds the nearest
number, so the steps are part of the result.
-/

namespace Catalogue

/-- The number `significand * 2 ^ exponent`, where the significand has 64 binary digits. -/
structure Extended where
  /-- The digits, read as a whole number. -/
  significand : Nat
  /-- The power of two of the last digit. -/
  exponent : Int
  deriving DecidableEq

namespace Extended

/-! ### Rounding -/

/-- A number with its last `k` binary digits dropped, rounded to the nearest, a half to the even
neighbour. -/
def dropBits (n k : Nat) : Nat :=
  let unit := Nat.pow 2 k
  let whole := n / unit
  let rest := n % unit
  if unit < 2 * rest ∨ (2 * rest = unit ∧ whole % 2 = 1) then whole + 1 else whole

/-- The positive number `n * 2 ^ q`, **rounded**. A significand that is rounded up to 65 digits
loses its last one, which is a zero. -/
def round (n : Nat) (q : Int) : Extended :=
  if n.log2 ≤ 63 then ⟨n * Nat.pow 2 (63 - n.log2), q - ((63 - n.log2 : Nat) : Int)⟩
  else
    let k := n.log2 - 63
    let m := dropBits n k
    if m.log2 ≤ 63 then ⟨m, q + k⟩ else ⟨m / 2, q + k + 1⟩

/-- The **product** of two numbers. -/
def mul (x y : Extended) : Extended :=
  round (x.significand * y.significand) (x.exponent + y.exponent)

/-- A power of ten. A negative one is divided out to more digits than are kept, and the last digit
says whether there was a remainder. -/
def powerOfTen (k : Int) : Extended :=
  if 0 ≤ k then round (Nat.pow 10 k.toNat) 0
  else
    let d := Nat.pow 10 k.natAbs
    let n := Nat.pow 2 (d.log2 + 70)
    round (2 * (n / d) + if n % d = 0 then 0 else 1) (-((d.log2 + 71 : Nat) : Int))

/-- One number is at most another. -/
def atMost (x y : Extended) : Bool :=
  x.exponent < y.exponent || (x.exponent = y.exponent && x.significand ≤ y.significand)

/-- The whole part. -/
def floor (x : Extended) : Nat :=
  x.significand * Nat.pow 2 x.exponent.toNat / Nat.pow 2 (-x.exponent).toNat

/-! ### To digits -/

/-- A number that is multiplied by `10 ^ -k` as long as it is at least `10 ^ top`, and the sum of
the `k`. -/
def lower (top k : Int) : Nat → Extended × Int → Extended × Int
  | 0, x => x
  | fuel + 1, (x, e) =>
    if (powerOfTen top).atMost x then lower top k fuel (x.mul (powerOfTen (-k)), e + k) else (x, e)

/-- A number that is multiplied by `10 ^ k` as long as it is below `10 ^ bottom`, and the sum of the
`-k`. -/
def raise (bottom k : Int) : Nat → Extended × Int → Extended × Int
  | 0, x => x
  | fuel + 1, (x, e) =>
    if (powerOfTen bottom).atMost x then (x, e)
    else raise bottom k fuel (x.mul (powerOfTen k), e - k)

/-- A number between `10 ^ 17` and `10 ^ 19`, and the power of ten that makes it the given one. The
steps are hundreds of powers of ten, then tens, then single ones; there are never more than `32` of
a kind. -/
def inRange (x : Extended) : Extended × Int :=
  if (powerOfTen 19).atMost x then lower 19 1 32 (lower 29 10 32 (lower 119 100 32 (x, 0)))
  else raise 17 1 32 (raise 7 10 32 (raise (-97) 100 32 (x, 0)))

/-- The first `n` **digits** of the magnitude `m * 2 ^ q`, for an `n` below 17, rounded by the digit
behind them. -/
def digits (n m : Nat) (q : Int) : Digits :=
  if m = 0 then ⟨0, 0⟩
  else
    let (x, e) := inRange (round m q)
    let v := x.floor
    let more := Digits.count v - n
    .stripZeros (n + 1) ⟨(v / Nat.pow 10 (more - 1) + 5) / 10, e + more⟩

/-! ### From digits -/

/-- The least number that no further digit is added to. -/
def fullSignificand : Nat := (18446744073709551615 - 9) / 10

/-- Digits without those that a significand has no room for. -/
def cut : Nat → Digits → Digits
  | 0, d => d
  | fuel + 1, d =>
    if fullSignificand ≤ d.significand / 10 then cut fuel ⟨d.significand / 10, d.exponent + 1⟩
    else d

/-- Digits with zeros at the end in place of a positive exponent, as far as there is room. -/
def widen : Nat → Digits → Digits
  | 0, d => d
  | fuel + 1, d =>
    if 0 < d.exponent ∧ d.significand < 18446744073709551615 / 10 then
      widen fuel ⟨d.significand * 10, d.exponent - 1⟩
    else d

/-- Digits without zeros at the end, as far as there is a negative exponent. -/
def narrow : Nat → Digits → Digits
  | 0, d => d
  | fuel + 1, d =>
    if d.exponent < 0 ∧ d.significand % 10 = 0 then
      narrow fuel ⟨d.significand / 10, d.exponent + 1⟩
    else d

/-- A number multiplied by `10 ^ k`, so many times. -/
def scaled (k : Int) : Nat → Extended → Extended
  | 0, x => x
  | n + 1, x => scaled k n (x.mul (powerOfTen k))

/-- The **number of digits**, for a positive one: by hundreds of powers of ten, then by tens, then
by single ones. -/
def ofDecimal (d : Digits) : Extended :=
  let d := narrow 20 (widen 20 (cut (Digits.count d.significand) d))
  let sign : Int := if d.exponent < 0 then -1 else 1
  let e := d.exponent.natAbs
  scaled sign (e % 10) (scaled (10 * sign) (e / 10 % 10) (scaled (100 * sign) (e / 100)
    (round d.significand 0)))

/-- A number equals a whole one when 53 of its binary digits are kept. -/
def nearInteger (x : Extended) (n : Nat) : Bool :=
  let m := dropBits x.significand 11
  let q := x.exponent + 11
  m * Nat.pow 2 q.toNat == n * Nat.pow 2 (-q).toNat

end Extended

end Catalogue
