import Catalogue.Decimal.Layout
import Catalogue.Json.Basic
import Catalogue.Text.Quoted

/-!
# JSON text

`Catalogue.Json.compact` writes a value without any blank. A string escapes the quote, the backslash
and the ASCII controls, by a letter where there is one and by four hexadecimal digits otherwise, and
holds all else as it is. A floating-point number has the fewest digits that read back, and always a
point or an exponent (`Catalogue.Json.realLayout`), so that it reads back as one.
-/

namespace Catalogue

namespace Json

/-! ### Numbers -/

/-- Floating-point numbers are written in place when their first digit stands from the fifth place
behind the point to the sixteenth before it; a whole number then ends in `.0`. -/
def realLayout : Layout := ⟨fun e => -5 ≤ e && e ≤ 15, true, false, 1⟩

/-- The JSON text of a floating-point number; `null` if it is not finite. -/
def realText (x : Float) : String :=
  match Binary.ofFloat x with
  | .finite negative m q => realLayout.write negative (Digits.shortest m q)
  | _ => "null"

/-- A whole number in digits. -/
def integerChars (n : Int) : List Char :=
  if n < 0 then '-' :: Nat.toDigits 10 n.natAbs else Nat.toDigits 10 n.natAbs

/-! ### Strings -/

/-- How a character is written inside a string. -/
def escapeChar (c : Char) : List Char :=
  if c = '"' then ['\\', '"']
  else if c = '\\' then ['\\', '\\']
  else if c.toNat < 0x20 then
    if c.toNat = 0x08 then ['\\', 'b']
    else if c = '\t' then ['\\', 't']
    else if c = '\n' then ['\\', 'n']
    else if c.toNat = 0x0C then ['\\', 'f']
    else if c = '\r' then ['\\', 'r']
    else ['\\', 'u', '0', '0', Text.hexDigit (c.toNat / 16), Text.hexDigit (c.toNat % 16)]
  else [c]

/-- A string between quotes. -/
def stringChars (s : String) : List Char := '"' :: s.toList.flatMap escapeChar ++ ['"']

/-! ### Values -/

mutual

/-- The characters of the compact text of a value. -/
def chars : Json → List Char
  | .null => "null".toList
  | .bool b => (if b then "true" else "false").toList
  | .integer n => integerChars n
  | .real x => (realText x.value).toList
  | .text s => stringChars s
  | .array items => '[' :: itemChars items ++ [']']
  | .object members => '\x7b' :: memberChars members ++ ['\x7d']

/-- The items of an array, with commas between them. -/
def itemChars : List Json → List Char
  | [] => []
  | [v] => chars v
  | v :: w :: rest => chars v ++ ',' :: itemChars (w :: rest)

/-- The members of an object, with commas between them. -/
def memberChars : List (String × Json) → List Char
  | [] => []
  | [(k, v)] => stringChars k ++ ':' :: chars v
  | (k, v) :: m :: rest => stringChars k ++ ':' :: (chars v ++ ',' :: memberChars (m :: rest))

end

/-- The **compact text** of a value. -/
def compact (j : Json) : String := String.ofList j.chars

end Json

end Catalogue
