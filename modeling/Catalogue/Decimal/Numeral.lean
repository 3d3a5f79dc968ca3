/-!
# Reading numerals

How a whole text is read as a number. `Catalogue.Numeral.nat?` and `Catalogue.Numeral.int?` read
decimal digits behind an optional sign; `Catalogue.Numeral.real?` reads a decimal fraction with an
optional exponent, and `Catalogue.Numeral.nearest` turns what it read into the nearest
floating-point number. Only ASCII digits count as digits, and no blank is skipped.
-/

namespace Catalogue

namespace Numeral

/-! ### Whole numbers -/

/-- An ASCII digit. -/
def isDigit (c : Char) : Bool := '0' ≤ c && c ≤ '9'

/-- The number that digits write, after the number `n` that the digits before them write. -/
def value (n : Nat) (ds : List Char) : Nat := ds.foldl (fun n c => n * 10 + (c.toNat - 48)) n

/-- The number written by one or more digits. -/
def digits? (cs : List Char) : Option Nat :=
  if cs ≠ [] ∧ cs.all isDigit then some (value 0 cs) else none

/-- A number written by digits, perhaps after a plus sign. -/
def nat? (s : String) : Option Nat :=
  match s.toList with
  | '+' :: cs => digits? cs
  | cs => digits? cs

/-- A number written by digits, perhaps after a plus or minus sign. -/
def int? (s : String) : Option Int :=
  match s.toList with
  | '+' :: cs => (digits? cs).map Int.ofNat
  | '-' :: cs => (digits? cs).map fun n => -(Int.ofNat n)
  | cs => (digits? cs).map Int.ofNat

/-! ### Decimal fractions -/

/-- A **decimal fraction** `± significand * 10 ^ exponent`. -/
structure Fraction where
  /-- A minus sign stands in front. -/
  negative : Bool
  /-- All digits, read as a whole number. -/
  significand : Nat
  /-- The power of ten of the last digit. -/
  exponent : Int

/-- The exponent part: nothing, or `e` and a whole number. -/
def exponent? : List Char → Option Int
  | [] => some 0
  | e :: cs =>
    if e = 'e' ∨ e = 'E' then
      match cs with
      | '+' :: ds => (digits? ds).map Int.ofNat
      | '-' :: ds => (digits? ds).map fun n => -(Int.ofNat n)
      | ds => (digits? ds).map Int.ofNat
    else none

/-- Digits with an optional point, at least one of them, and an optional exponent. -/
def unsigned? (negative : Bool) (cs : List Char) : Option Fraction :=
  let whole := cs.takeWhile isDigit
  let rest := cs.dropWhile isDigit
  let (part, rest) := match rest with
    | '.' :: rest => (rest.takeWhile isDigit, rest.dropWhile isDigit)
    | rest => ([], rest)
  if whole = [] ∧ part = [] then none
  else (exponent? rest).map fun e => ⟨negative, value 0 (whole ++ part), e - part.length⟩

/-- A decimal fraction, perhaps after a sign. -/
def fraction? : List Char → Option Fraction
  | '+' :: cs => unsigned? false cs
  | '-' :: cs => unsigned? true cs
  | cs => unsigned? false cs

/-! ### The nearest floating-point number -/

/-- Positive infinity. -/
def infinity : Float := 1.0 / 0.0

/-- The float **nearest** to `significand * 10 ^ exponent`. Numbers far beyond either end of the
range are settled without computing the power. -/
def nearestMagnitude (significand : Nat) (exponent : Int) : Float :=
  let magnitude := ((Nat.toDigits 10 significand).length : Int) + exponent
  if significand = 0 ∨ magnitude < -330 then 0.0
  else if 320 < magnitude then infinity
  else if exponent < 0 then Float.ofScientific significand true exponent.natAbs
  else Float.ofScientific significand false exponent.toNat

/-- The float nearest to a decimal fraction; a minus sign also makes a negative zero. -/
def nearest (f : Fraction) : Float :=
  let x := nearestMagnitude f.significand f.exponent
  if f.negative then -x else x

/-- A text read as a floating-point number: a decimal fraction, or in any letter case `inf`,
`infinity` or `nan`, perhaps after a sign. -/
def real? (s : String) : Option Float :=
  let (negative, body) := match s.toList with
    | '+' :: cs => (false, cs)
    | '-' :: cs => (true, cs)
    | cs => (false, cs)
  let word := String.ofList (body.map Char.toLower)
  let magnitude? : Option Float :=
    if word = "inf" ∨ word = "infinity" then some infinity
    else if word = "nan" then some (0.0 / 0.0)
    else (unsigned? false body).map nearest
  magnitude?.map fun x => if negative then -x else x

end Numeral

end Catalogue
