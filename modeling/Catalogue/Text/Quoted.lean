import Catalogue.Text.Blank
import Catalogue.Text.Unprintable

/-!
# Quoted text

`Catalogue.Text.quote` writes a text between double quotes so that it can be told apart from what
surrounds it in a message: the quote and the backslash are written after a backslash, tab, line
feed, carriage return and NUL by a letter, and every other character without a picture of its own
(`Catalogue.Text.isUnprintable`) by its number in hexadecimal, between braces. All else is written
as it is.
-/

namespace Catalogue

namespace Text

/-! ### Which characters are written by number -/

/-- A character that has **no picture of its own**: an ASCII control, or a member of
`Catalogue.Text.unprintableRanges`. -/
def isUnprintable (c : Char) : Bool :=
  if c.toNat < 0x80 then c.toNat < 0x20 || c.toNat == 0x7F
  else unprintableRanges.any fun r => r.1 ≤ c.toNat && c.toNat ≤ r.2

/-- The digit of a value below sixteen, in lower case. -/
def hexDigit (n : Nat) : Char := Char.ofNat (if n < 10 then 48 + n else 87 + n)

/-- A number in hexadecimal, in lower case and without leading zeros. -/
def hex (n : Nat) : String := String.ofList ((Nat.toDigits 16 n).map Char.toLower)

/-! ### Quoting -/

/-- How a character is written inside a quoted text. -/
def quoteChar (c : Char) : String :=
  if c = '"' then "\\\""
  else if c = '\\' then "\\\\"
  else if c = '\t' then "\\t"
  else if c = '\n' then "\\n"
  else if c = '\r' then "\\r"
  else if c.toNat = 0 then "\\0"
  else if isUnprintable c then "\\u\x7b" ++ hex c.toNat ++ "\x7d"
  else c.toString

/-- The **quoted form** of a text. -/
def quote (s : String) : String :=
  s.toList.foldl (fun out c => out ++ quoteChar c) "\"" ++ "\""

end Text

end Catalogue
