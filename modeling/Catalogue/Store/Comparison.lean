import Catalogue.Book
import Catalogue.Condition.Meaning
import Catalogue.Decimal.Extended
import Catalogue.Decimal.Numeral
import Catalogue.Store.Pattern
import Catalogue.Word

/-!
# Comparing columns with values

Every value is compared with every column, whatever kind of value it is. The identifier is a number,
so a text is compared with it as the number that it writes, if it writes one. The other columns are
texts, so a number is compared with them as the text that SQL writes for it. What is not a number
is the missing value, and a comparison with a missing value is neither true nor false.
-/

namespace Catalogue

namespace Store

/-- A **row** of the table of books. -/
structure Row where
  /-- The identifier, which a row of a table without generated identifiers does not have. -/
  id : Option Int64
  /-- The title. -/
  title : String
  /-- The author. -/
  author : String
  /-- The summary. -/
  summary : String
  deriving DecidableEq

namespace Comparison

/-! ### Numbers as texts -/

/-- SQL writes a floating-point number with fifteen digits, always with a point. -/
def realLayout : Layout := ⟨fun e => -4 ≤ e && e ≤ 14, true, true, 2⟩

/-- The text that SQL writes for a floating-point number; none for what is not a number. -/
def realText? (x : Float) : Option String :=
  match Binary.ofFloat x with
  | .nan => none
  | .infinite negative => some (if negative then "-Inf" else "Inf")
  | .finite negative m q => some (realLayout.write (negative && m ≠ 0) (Extended.digits 15 m q))

/-- The text of a whole number. -/
def wholeText (n : Int64) : String := String.ofList (Json.integerChars n.toInt)

/-- The text that a column of texts sees of a value. -/
def textOf? : Operand → Option String
  | .text s => some s
  | .integer n => some (wholeText n)
  | .real x => realText? x

/-! ### Texts as numbers -/

/-- A character that may stand around a number. -/
def isPadding (c : Char) : Bool := c = ' ' || (0x09 ≤ c.toNat && c.toNat ≤ 0x0D)

/-- The text without padding at its ends. -/
def unpadded (s : String) : List Char :=
  ((s.toList.dropWhile isPadding).reverse.dropWhile isPadding).reverse

/-- A text writes a number, perhaps with padding around it. -/
def isNumeral (cs : List Char) : Bool :=
  let cs := unpadded (String.ofList cs)
  (Numeral.int? (String.ofList cs)).isSome || (Numeral.fraction? cs).isSome

/-- A whole number equals a floating-point one, exactly. -/
def equalsReal (n : Int64) (x : Float) : Bool :=
  match Binary.ofFloat x with
  | .finite negative m q =>
    let magnitude : Int := m * Nat.pow 2 q.toNat
    n.toInt * Nat.pow 2 (-q).toNat == (if negative then -magnitude else magnitude)
  | _ => false

/-- A whole number equals a decimal fraction. Fractions with more than three hundred digits on
either side of the point are far from every whole number but zero. -/
def equalsFraction (n : Int64) (f : Numeral.Fraction) : Bool :=
  let d : Digits := ⟨f.significand, f.exponent⟩
  if d.significand = 0 then n == 0
  else (n < 0) == f.negative && d.leading.natAbs < 300 &&
    (Extended.ofDecimal d).nearInteger n.toInt.natAbs

/-- A whole number equals the number that a text writes, if it writes one. -/
def equalsText (n : Int64) (s : String) : Bool :=
  let cs := unpadded s
  match (Numeral.int? (String.ofList cs)).filter (Word.IsSigned ·) with
  | some k => n.toInt == k
  | none => ((Numeral.fraction? cs).map (equalsFraction n)).getD false

/-- The whole number that a column of identifiers sees of a value, if it sees one. -/
def wholeOf? : Operand → Option Int64
  | .integer n => some n
  | .text s =>
    ((Numeral.int? (String.ofList (unpadded s))).filter (Word.IsSigned ·)).map Int64.ofInt
  | .real x =>
    match Binary.ofFloat x with
    | .finite negative m q =>
      let magnitude : Int := m * Nat.pow 2 q.toNat / Nat.pow 2 (-q).toNat
      let n := if negative then -magnitude else magnitude
      if Word.IsSigned n ∧ equalsReal (Int64.ofInt n) x then some (Int64.ofInt n) else none
    | _ => none

/-! ### Comparisons -/

/-- The identifier **equals** a value. -/
def idEquals (id : Option Int64) (v : Operand) : Truth :=
  match id, v with
  | none, _ => .unknown
  | some n, .text s => .ofBool (equalsText n s)
  | some n, .integer k => .ofBool (n == k)
  | some n, .real x => if x.isNaN then .unknown else .ofBool (equalsReal n x)

/-- A text **equals** a value. -/
def textEquals (s : String) (v : Operand) : Truth :=
  match textOf? v with
  | none => .unknown
  | some t => .ofBool (s == t)

/-- What may be missing **matches** a pattern. -/
def matchesText (s : Option String) (v : Operand) : Truth :=
  match s, textOf? v with
  | some s, some pattern => .ofBool (Pattern.matchesAll pattern s)
  | _, _ => .unknown

end Comparison

namespace Row

/-- What a pattern sees of a column. -/
def text? (r : Row) : Column → Option String
  | .id => r.id.map Comparison.wholeText
  | .title => some r.title
  | .author => some r.author
  | .summary => some r.summary

/-- A column **equals** a value. -/
def equals (r : Row) (c : Column) (v : Operand) : Truth :=
  match c with
  | .id => Comparison.idEquals r.id v
  | .title => Comparison.textEquals r.title v
  | .author => Comparison.textEquals r.author v
  | .summary => Comparison.textEquals r.summary v

/-- The **truth of a predicate** about a row. Patterns match in either letter case anyway, so both
comparisons with a pattern say the same. -/
def predicate (r : Row) (p : Predicate) : Truth :=
  match Column.ofName? p.field with
  | none => .unknown
  | some c =>
    match p.comparison with
    | .equal => r.equals c p.operand
    | _ => Comparison.matchesText (r.text? c) p.operand

/-- The row **satisfies** a condition: it is true of it, or there is nothing to check. -/
def satisfies (r : Row) (c : Condition) : Bool :=
  match c.meaning (.truth r.predicate) with
  | none => true
  | some t => t = .yes

end Row

end Store

end Catalogue
