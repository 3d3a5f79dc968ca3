import Catalogue.Json.Verbatim
import Catalogue.Text.Parts

/-!
# Percent signs

In an address a percent sign and two hexadecimal digits stand for a byte. A percent sign before
anything else stands for itself.
-/

namespace Catalogue

namespace Text

/-- The bytes that the characters of an address stand for. -/
def percentDecode : List Char → List UInt8
  | [] => []
  | '%' :: a :: b :: rest =>
    match Json.hexValue? a, Json.hexValue? b with
    | some m, some n => UInt8.ofNat (m * 16 + n) :: percentDecode rest
    | _, _ => 0x25 :: percentDecode (a :: b :: rest)
  | c :: rest => bytes c.toString ++ percentDecode rest

/-- The text of a **part of a form**: a plus sign is a space, and bytes that make no character are
replaced. -/
def formDecode (cs : List Char) : String :=
  lossy (percentDecode (cs.map fun c => if c = '+' then ' ' else c))

/-- The **pairs of a form**: parts between ampersands, a name before the first equals sign and a
value behind it. Empty parts count for nothing. -/
def formPairs (cs : List Char) : List (String × String) :=
  ((split '&' cs).filter (· ≠ [])).map fun part =>
    match cut? '=' part with
    | some (name, value) => (formDecode name, formDecode value)
    | none => (formDecode part, "")

end Text

end Catalogue
