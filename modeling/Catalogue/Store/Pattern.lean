/-!
# Patterns

A pattern is a text in which `%` stands for any characters and `_` for any single one; every other
character stands for itself, an ASCII letter in either letter case, and no character escapes
another. `Catalogue.Store.Pattern.matchesAll` says that a pattern matches the whole of a text. The
last two code points of the first plane, which stand for no character, look like the replacement
character to it, and a pattern may not be too long (`Catalogue.Store.Pattern.tooLong`).

Matching goes through the pattern once and keeps all rests of the text that the part of the pattern
read so far can leave over (`Catalogue.Store.Pattern.rests`), the longest first.
-/

namespace Catalogue

namespace Store

namespace Pattern

/-- The rests of a text, from all of it to none. -/
def suffixes : List Char → List (List Char)
  | [] => [[]]
  | c :: cs => (c :: cs) :: suffixes cs

/-- What follows a character that the character of a pattern stands for. -/
def behind? (p : Char) : List Char → Option (List Char)
  | [] => none
  | c :: cs => if p = '_' ∨ p.toLower = c.toLower then some cs else none

/-- The rests that a pattern can **leave over** of one of the given texts. These are rests of the
first of them, which is the longest, and so are the results. -/
def rests : List Char → List (List Char) → List (List Char)
  | [], texts => texts
  | p :: ps, texts =>
    if p = '%' then
      match texts with
      | [] => []
      | longest :: _ => rests ps (suffixes longest)
    else rests ps (texts.filterMap (behind? p))

/-- A character as it is compared. -/
def seen (c : Char) : Char := if c.toNat = 0xFFFE ∨ c.toNat = 0xFFFF then '\uFFFD' else c

/-- The characters up to the first NUL, which ends a text and a pattern. -/
def visible (s : String) : List Char := (s.toList.takeWhile fun c => c.toNat ≠ 0).map seen

/-- The greatest length of a pattern, in bytes. -/
def limit : Nat := 50000

/-- A pattern is **too long** to be compared with anything. -/
def tooLong (pattern : String) : Bool := limit < pattern.utf8ByteSize

/-- A pattern **matches the whole** of a text. -/
def matchesAll (pattern text : String) : Bool :=
  (rests (visible pattern) [visible text]).any (·.isEmpty)

end Pattern

end Store

end Catalogue
