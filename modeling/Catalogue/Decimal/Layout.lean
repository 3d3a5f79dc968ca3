import Catalogue.Decimal.Digits

/-!
# How a number is laid out in digits

A `Catalogue.Layout` fixes everything about the text of a floating-point number but its digits:
which powers of ten are written out in place, whether a whole number keeps a point and a zero, and
how an exponent is written. `Catalogue.Layout.write` does the writing. The layouts themselves are
values of the modules whose output they describe.
-/

namespace Catalogue

/-- The decisions of a **number format**. -/
structure Layout where
  /-- The powers of ten of the first digit that are written in place, without an exponent. -/
  inPlace : Int → Bool
  /-- A whole number written in place ends in `.0`. -/
  pointed : Bool
  /-- A single digit before an exponent is followed by `.0`. -/
  pointedMantissa : Bool
  /-- The least number of digits of an exponent. -/
  exponentWidth : Nat

namespace Layout

/-- `n` zeros. -/
def zeros (n : Nat) : List Char := List.replicate n '0'

/-- The digits written in place. -/
def positional (l : Layout) (d : Digits) : List Char :=
  let ds := Nat.toDigits 10 d.significand
  if 0 ≤ d.exponent then
    ds ++ zeros d.exponent.toNat ++ (if l.pointed then ['.', '0'] else [])
  else
    let places := (-d.exponent).toNat
    if places < ds.length then
      ds.take (ds.length - places) ++ '.' :: ds.drop (ds.length - places)
    else '0' :: '.' :: zeros (places - ds.length) ++ ds

/-- The digits written as one digit, the others behind a point, and an exponent with its sign. -/
def scientific (l : Layout) (d : Digits) : List Char :=
  let ds := Nat.toDigits 10 d.significand
  let mantissa := match ds with
    | [] => []
    | [c] => if l.pointedMantissa then [c, '.', '0'] else [c]
    | c :: cs => c :: '.' :: cs
  let e := d.leading
  let es := Nat.toDigits 10 e.natAbs
  mantissa ++ 'e' :: (if e < 0 then '-' else '+') :: zeros (l.exponentWidth - es.length) ++ es

/-- The **text of a number** with the given sign and digits. -/
def write (l : Layout) (negative : Bool) (d : Digits) : String :=
  let body := if l.inPlace d.leading then l.positional d else l.scientific d
  String.ofList (if negative then '-' :: body else body)

end Layout

/-! ### The plain form -/

namespace Decimal

/-- The plain form has no exponent, and a whole number has no point. -/
def plainLayout : Layout := ⟨fun _ => true, false, false, 1⟩

/-- The **plain form** of a number: the fewest digits that read back, in place. -/
def plain (x : Float) : String :=
  match Binary.ofFloat x with
  | .nan => "NaN"
  | .infinite negative => if negative then "-inf" else "inf"
  | .finite negative m q => plainLayout.write negative (Digits.shortest m q)

end Decimal

end Catalogue
