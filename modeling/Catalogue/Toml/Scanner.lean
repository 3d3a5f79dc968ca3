import Catalogue.Json.Verbatim
import Catalogue.Text.Parts

/-!
# The words of a settings file

The parts of a settings file that are not made of other values: spaces and comments, strings in
their four forms, and names. Every scanner reads off the front of a list of characters and returns
what is left; one that finds nothing fit returns nothing.
-/

namespace Catalogue

namespace Toml

/-- A **scanner** of values off the front of a text. -/
abbrev Scanner (α : Type) := List Char → Option (α × List Char)

/-! ### Between the words -/

/-- A character that may stand between words on a line. -/
def isSpace (c : Char) : Bool := c = ' ' || c = '\t'

/-- Pass over spaces. -/
def skipSpace (cs : List Char) : List Char := cs.dropWhile isSpace

/-- A character that a comment may hold, and a string that takes all characters as they are. -/
def isPrintable (c : Char) : Bool := (0x20 ≤ c.toNat && c.toNat ≠ 0x7F) || c = '\t'

/-- Pass over a comment, if there is one. -/
def skipComment (cs : List Char) : List Char :=
  match cs with
  | '#' :: rest => rest.dropWhile isPrintable
  | _ => cs

/-- Pass over the end of a line, if it comes next. -/
def lineEnd? : List Char → Option (List Char)
  | '\n' :: rest => some rest
  | '\r' :: '\n' :: rest => some rest
  | _ => none

/-- Pass over the rest of a line that holds nothing more, and its end. -/
def finishLine? (cs : List Char) : Option (List Char) :=
  match skipComment (skipSpace cs) with
  | [] => some []
  | cs => lineEnd? cs

/-- Pass over spaces, comments and ends of lines. Every turn passes over the end of a line. -/
def skipLines : Nat → List Char → List Char
  | 0, cs => cs
  | fuel + 1, cs =>
    match lineEnd? (skipComment (skipSpace cs)) with
    | some rest => skipLines fuel rest
    | none => skipComment (skipSpace cs)

/-! ### Strings -/

/-- The number that hexadecimal digits write, if they all are such digits. -/
def hexNumber? (cs : List Char) : Option Nat :=
  cs.foldlM (fun n c => (Json.hexValue? c).map (n * 16 + ·)) 0

/-- The character of a code point, if it is one. -/
def charOf? (n : Nat) : Option Char := if n.isValidChar then some (Char.ofNat n) else none

/-- The character that an escape with so many hexadecimal digits stands for. -/
def escapeDigits? (count : Nat) : Scanner Char := fun cs =>
  if cs.length < count then none
  else ((hexNumber? (cs.take count)).bind charOf?).map fun c => (c, cs.drop count)

/-- The character that an **escape** stands for, behind its backslash. -/
def escape? : Scanner Char
  | [] => none
  | c :: rest =>
    if c = '"' ∨ c = '\\' then some (c, rest)
    else if c = 'b' then some (Char.ofNat 0x08, rest)
    else if c = 't' then some ('\t', rest)
    else if c = 'n' then some ('\n', rest)
    else if c = 'f' then some (Char.ofNat 0x0C, rest)
    else if c = 'r' then some ('\r', rest)
    else if c = 'u' then escapeDigits? 4 rest
    else if c = 'U' then escapeDigits? 8 rest
    else none

/-- The rest of a string on one line, with escapes. -/
def basic? : Nat → List Char → Scanner String
  | 0, _, _ => none
  | _, _, [] => none
  | fuel + 1, out, c :: rest =>
    if c = '"' then some (String.ofList out.reverse, rest)
    else if c = '\\' then
      match escape? rest with
      | none => none
      | some (d, rest) => basic? fuel (d :: out) rest
    else if isPrintable c then basic? fuel (c :: out) rest
    else none

/-- The quote of strings without escapes. -/
def apostrophe : Char := Char.ofNat 0x27

/-- The rest of a string on one line, without escapes. -/
def literal? (cs : List Char) : Option (String × List Char) :=
  let inside (c : Char) : Bool := c ≠ apostrophe && isPrintable c
  match cs.dropWhile inside with
  | [] => none
  | c :: rest =>
    if c = apostrophe then some (String.ofList (cs.takeWhile inside), rest) else none

/-- Quotes at the end of a string on several lines: three of them end it, and up to two before these
belong to it. What is returned is how many belong to it and whether it ends. -/
def closing (quote : Char) (cs : List Char) : Nat × Bool :=
  let n := (cs.takeWhile (· = quote)).length
  if n < 3 then (n, false) else (min n 5 - 3, true)

/-- Spaces and ends of lines. -/
def skipBlank : Nat → List Char → List Char
  | 0, cs => cs
  | fuel + 1, cs =>
    match lineEnd? (skipSpace cs) with
    | some rest => skipBlank fuel rest
    | none => skipSpace cs

/-- The rest of a string on several lines; `escapes` says whether a backslash starts an escape. A
backslash at the end of a line takes all space up to the next word with it. -/
def lines? (quote : Char) (escapes : Bool) : Nat → List Char → Scanner String
  | 0, _, _ => none
  | _, _, [] => none
  | fuel + 1, out, c :: rest =>
    if c = quote then
      match closing quote (c :: rest) with
      | (n, true) =>
        some (String.ofList (List.replicate n quote ++ out).reverse, (c :: rest).drop (n + 3))
      | (n, false) => lines? quote escapes fuel (List.replicate n quote ++ out) ((c :: rest).drop n)
    else if c = '\\' ∧ escapes then
      match lineEnd? (skipSpace rest) with
      | some rest => lines? quote escapes fuel out (skipBlank fuel rest)
      | none =>
        match escape? rest with
        | none => none
        | some (d, rest) => lines? quote escapes fuel (d :: out) rest
    else if isPrintable c then lines? quote escapes fuel (c :: out) rest
    else
      match lineEnd? (c :: rest) with
      | some rest => lines? quote escapes fuel ('\n' :: out) rest
      | none => none

/-- The end of a line right behind the opening quotes does not belong to the string. -/
def openLines (cs : List Char) : List Char := (lineEnd? cs).getD cs

/-- A **string** in any of its forms: a quote opens one line, three of them open several. -/
def string? : Scanner String
  | [] => none
  | q :: rest =>
    if q = '"' then
      match Text.past? [q, q] rest with
      | some rest => lines? q true (rest.length + 1) [] (openLines rest)
      | none => basic? (rest.length + 1) [] rest
    else if q = apostrophe then
      match Text.past? [q, q] rest with
      | some rest => lines? q false (rest.length + 1) [] (openLines rest)
      | none => literal? rest
    else none

/-! ### Names -/

/-- A character of a name without quotes. -/
def isBare (c : Char) : Bool := c.isAlphanum || c = '_' || c = '-'

/-- A name without quotes. -/
def bareName? (cs : List Char) : Option (String × List Char) :=
  match cs.takeWhile isBare with
  | [] => none
  | name => some (String.ofList name, cs.dropWhile isBare)

/-- A single name. -/
def name? (cs : List Char) : Option (String × List Char) :=
  match cs with
  | [] => none
  | c :: rest =>
    if c = '"' then basic? (rest.length + 1) [] rest
    else if c = apostrophe then literal? rest
    else bareName? cs

/-- Names with points between them, and spaces around them; `room` says how many there may be. -/
def path? : Nat → List String → Scanner (List String)
  | 0, _, _ => none
  | room + 1, names, cs =>
    match name? (skipSpace cs) with
    | none => none
    | some (name, rest) =>
      match skipSpace rest with
      | '.' :: rest => path? room (name :: names) rest
      | rest => some ((name :: names).reverse, rest)

end Toml

end Catalogue
