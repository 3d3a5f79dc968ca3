import Catalogue.Json.Cursor
import Catalogue.Word

/-!
# Numbers as they are written

A `Catalogue.Json.Figure` holds the digits of a number as a text writes them, and
`Catalogue.Json.Figure.value` is the number they stand for. Without a fraction and an exponent that
is a whole number, as long as it fits a 64-bit word. Every other number is a floating-point one:
the leading digits that fit 64 bits are scaled by a power of ten, with one rounding for each factor,
so that the last digit of a long numeral need not be the nearest one. A number beyond the greatest
finite one is refused.
-/

namespace Catalogue

namespace Json

/-- The digits of a **number as written**. -/
structure Figure where
  /-- A minus sign stands in front. -/
  negative : Bool
  /-- The digits before the point. -/
  whole : List Nat
  /-- The digits behind the point. -/
  fraction : List Nat
  /-- The exponent: whether it is negative, and its digits. -/
  exponent : Option (Bool × List Nat)

namespace Figure

/-! ### Digits that fit -/

/-- The number that the digits write behind those that wrote `n`, as far as it stays below `bound`,
and the digits from the first that does not fit. -/
def fitting (bound n : Nat) : List Nat → Nat × List Nat
  | [] => (n, [])
  | d :: ds => if n * 10 + d < bound then fitting bound (n * 10 + d) ds else (n, d :: ds)

/-! ### Scaling -/

/-- The power of ten nearest to `10 ^ n`. -/
def powerOfTen (n : Nat) : Float := Float.ofScientific 1 false n

/-- The number `x * 10 ^ exponent`, by factors of at most `10 ^ 308`; none beyond the range. A
number of 64 bits vanishes with the second factor `10 ^ -308`, and that ends the scaling, so a
`fuel` of four is as good as any. -/
def scaled : Nat → Float → Int → Option Float
  | 0, x, _ => some x
  | fuel + 1, x, exponent =>
    if exponent.natAbs ≤ 308 then
      some <| if 0 ≤ exponent then x * powerOfTen exponent.natAbs
        else x / powerOfTen exponent.natAbs
    else if x == 0.0 then some x
    else if 0 < exponent then none
    else scaled fuel (x / powerOfTen 308) (exponent + 308)

/-- A floating-point number `± significand * 10 ^ exponent`. -/
def real? (negative : Bool) (significand : Nat) (exponent : Int) : Option Json :=
  (scaled 4 (Float.ofScientific significand false 0) exponent).bind fun x =>
    (FiniteFloat.ofFloat? (if negative then -x else x)).map .real

/-! ### The number -/

/-- The greatest exponent that is computed with. -/
def exponentBound : Nat := 0x80000000

/-- An exponent brought into the range of those that are computed with. -/
def clampExponent (e : Int) : Int :=
  max (-(exponentBound : Int)) (min (exponentBound - 1 : Int) e)

/-- A whole number of at most 64 bits; a negative one below the signed words, and zero behind a
minus sign, are floating-point numbers. -/
def wholeNumber (negative : Bool) (n : Nat) : Option Json :=
  if !negative then some (.integer n)
  else if 0 < n ∧ n ≤ Word.half then some (.integer (-n))
  else real? true n 0

/-- The **value** of a number as written. One that is too large says how many digits of its exponent
show that. -/
def value (f : Figure) : Except Nat Json :=
  let (n, beyond) := fitting UInt64.size 0 f.whole
  if beyond = [] ∧ f.fraction = [] ∧ f.exponent = none then
    (wholeNumber f.negative n).elim (.error 0) .ok
  else
    let (significand, unread) := fitting UInt64.size n f.fraction
    let places : Int := (beyond.length : Int) - (f.fraction.length - unread.length : Nat)
    match f.exponent with
    | none => (real? f.negative significand places).elim (.error 0) .ok
    | some (down, ds) =>
      let (e, unread) := fitting exponentBound 0 ds
      if unread ≠ [] then
        if significand ≠ 0 ∧ !down then .error (ds.length - unread.length + 1)
        else (real? f.negative 0 0).elim (.error 0) .ok
      else
        (real? f.negative significand
          (clampExponent (if down then places - e else places + e))).elim (.error ds.length) .ok

end Figure

/-! ### Reading -/

namespace Figure

/-- Digits, at least one. -/
def someDigits (atEnd : Malformation) : Reader (List Nat) := fun c =>
  match c.digits with
  | ([], c) => c.refuse atEnd .badNumber
  | (ds, c) => .ok (ds, c)

/-- The digits before the point: a zero stands alone. -/
def readWhole (atEnd : Malformation) : Reader (List Nat) := fun c =>
  match c.digits with
  | ([], c) => c.refuse atEnd .badNumber
  | (0 :: _ :: _, _) => c.advance.faultNext .badNumber
  | (ds, c) => .ok (ds, c)

/-- The digits behind the point, if there is one. -/
def readFraction (atEnd : Malformation) : Reader (List Nat) := fun c =>
  match c.rest with
  | .char '.' :: _ => someDigits atEnd c.advance
  | _ => .ok ([], c)

/-- The sign of an exponent. -/
def readSign (c : Cursor) : Bool × Cursor :=
  match c.rest with
  | .char '+' :: _ => (false, c.advance)
  | .char '-' :: _ => (true, c.advance)
  | _ => (false, c)

/-- The exponent, if there is one. -/
def readExponent (atEnd : Malformation) : Reader (Option (Bool × List Nat)) := fun c =>
  match c.rest with
  | .char e :: _ =>
    if e = 'e' ∨ e = 'E' then
      let (down, c) := readSign c.advance
      match someDigits atEnd c with
      | .error f => .error f
      | .ok (ds, c) => .ok (some (down, ds), c)
    else .ok (none, c)
  | _ => .ok (none, c)

/-- The **digits of a number**, behind its sign. Where a digit is due and the text ends, the fault
is `atEnd`. -/
def read (atEnd : Malformation) (negative : Bool) : Reader Figure := fun c =>
  match readWhole atEnd c with
  | .error f => .error f
  | .ok (whole, c) =>
    match readFraction atEnd c with
    | .error f => .error f
    | .ok (fraction, c) =>
      match readExponent atEnd c with
      | .error f => .error f
      | .ok (exponent, c) => .ok (⟨negative, whole, fraction, exponent⟩, c)

/-- The place at which a number shows itself too large, for the cursor behind it and the number of
digits of its exponent that show it. -/
def tooLargeAt (f : Figure) (shown : Nat) (c : Cursor) : Position :=
  match f.exponent with
  | none => c.position
  | some (_, ds) => ⟨c.position.line, c.position.column - (ds.length - shown)⟩

/-- Read a number behind its sign. -/
def readValue (negative : Bool) : Reader Json := fun c =>
  match read .endInValue negative c with
  | .error f => .error f
  | .ok (f, c) =>
    match f.value with
    | .ok v => .ok (v, c)
    | .error shown => .error (.malformed .numberTooLarge (f.tooLargeAt shown c))

end Figure

end Json

end Catalogue
