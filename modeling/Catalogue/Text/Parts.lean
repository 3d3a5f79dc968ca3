/-!
# Parts of a text

Cutting lists of characters at given places: behind a text they begin with (`Catalogue.Text.past?`),
at the first occurrence of another (`Catalogue.Text.find?`), and at every occurrence of one
character (`Catalogue.Text.split`).
-/

namespace Catalogue

namespace Text

/-- What follows a text at the beginning of another. -/
def past? : List Char → List Char → Option (List Char)
  | [], cs => some cs
  | _ :: _, [] => none
  | a :: as, c :: cs => if a = c then past? as cs else none

/-- Nothing but the text itself is in the way of what follows it. -/
theorem past?_append (as cs : List Char) : past? as (as ++ cs) = some cs := by
  induction as with
  | nil => rfl
  | cons a as ih => simp [past?, ih]

/-- A text begins with another. -/
def startsWith (lead s : String) : Bool := (past? lead.toList s.toList).isSome

/-- How many characters stand before the **first occurrence** of a text in another. -/
def find? (part : List Char) : List Char → Option Nat
  | [] => if part = [] then some 0 else none
  | c :: cs => if (past? part (c :: cs)).isSome then some 0 else (find? part cs).map (· + 1)

/-- How many characters stand before the **last occurrence** of a character. -/
def findLast? (c : Char) (cs : List Char) : Option Nat :=
  (cs.reverse.findIdx? (· = c)).map fun i => cs.length - 1 - i

/-- The parts of a text between the occurrences of a character, the last of them behind the part
given in reverse. -/
def splitFrom (sep : Char) (part : List Char) : List Char → List (List Char)
  | [] => [part.reverse]
  | c :: cs => if c = sep then part.reverse :: splitFrom sep [] cs else splitFrom sep (c :: part) cs

/-- The **parts** of a text between the occurrences of a character; always one more than there are
occurrences. -/
def split (sep : Char) (cs : List Char) : List (List Char) := splitFrom sep [] cs

/-- There is one part more than there are occurrences, whatever is before the first of them. -/
theorem length_splitFrom (sep : Char) (part cs : List Char) :
    (splitFrom sep part cs).length = cs.count sep + 1 := by
  induction cs generalizing part with
  | nil => rfl
  | cons c cs ih => by_cases h : c = sep <;> simp [splitFrom, h, ih]

/-- There is one part more than there are occurrences. -/
theorem length_split (sep : Char) (cs : List Char) : (split sep cs).length = cs.count sep + 1 :=
  length_splitFrom sep [] cs

/-- A text cut at the first occurrence of a character, which belongs to neither half; none if there
is no occurrence. -/
def cut? (sep : Char) : List Char → Option (List Char × List Char)
  | [] => none
  | c :: cs => if c = sep then some ([], cs) else (cut? sep cs).map fun h => (c :: h.1, h.2)

end Text

end Catalogue
