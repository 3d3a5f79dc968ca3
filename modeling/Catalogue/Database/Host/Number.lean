import Catalogue.Decimal.Numeral
import Catalogue.Json.Verbatim
import Catalogue.Text.Parts

/-!
# Numbers of hosts

A host can be given by number instead of by name. The older kind has 32 bits, written as up to four
numbers with dots between them, decimal, octal behind a zero or hexadecimal behind `0x`
(`Catalogue.Host.isNumber`): each of the first counts for one byte, and the last for all that is
left. The newer kind has eight groups of 16 bits, in hexadecimal with colons between them
(`Catalogue.Host.isGroups`): two colons together stand for groups of zeros, and the last two groups
may be written as four decimal numbers.
-/

namespace Catalogue

namespace Host

/-! ### Thirty-two bits -/

/-- The value of a number in a base, if all its characters are digits. -/
def inBase? (base : Nat) (cs : List Char) : Option Nat :=
  cs.foldlM (fun n c =>
    (Json.hexValue? c).bind fun d => if d < base then some (n * base + d) else none) 0

/-- The value of one of the numbers, if it is one. -/
def part? (cs : List Char) : Option Nat :=
  match cs with
  | [] => none
  | '0' :: 'x' :: digits | '0' :: 'X' :: digits => inBase? 16 digits
  | '0' :: c :: digits => inBase? 8 (c :: digits)
  | digits => inBase? 10 digits

/-- The labels without an empty one at the end. -/
def withoutRoot (labels : List (List Char)) : List (List Char) :=
  if labels.getLast? = some [] then labels.dropLast else labels

/-- A row of labels **ends in a number**, so that it has to be a number as a whole. -/
def endsInNumber (labels : List (List Char)) : Bool :=
  match (withoutRoot labels).getLast? with
  | none => false
  | some last => (!last.isEmpty && last.all Numeral.isDigit) || (part? last).isSome

/-- A row of labels is a **number** of 32 bits. -/
def isNumber (labels : List (List Char)) : Bool :=
  match (withoutRoot labels).mapM part? with
  | none => false
  | some parts =>
    parts.length ≤ 4 && parts.dropLast.all (· < 256) &&
      parts.getLast?.all (· < Nat.pow 256 (5 - parts.length))

/-! ### Groups of sixteen bits -/

/-- A decimal number below 256, without zeros before it. -/
def isByte (cs : List Char) : Bool :=
  cs ≠ [] && cs.all Numeral.isDigit && (cs.length = 1 || cs.head? ≠ some '0') &&
    Numeral.value 0 cs < 256

/-- A group: one to four hexadecimal digits. -/
def isGroup (cs : List Char) : Bool :=
  cs ≠ [] && cs.length ≤ 4 && cs.all fun c => (Json.hexValue? c).isSome

/-- For how many groups the last part of a number counts: two if it is written as four decimal
numbers, and one otherwise; none if it is neither. -/
def lastGroups? (cs : List Char) : Option Nat :=
  let bytes := Text.split '.' cs
  if isGroup cs then some 1
  else if bytes.length = 4 ∧ bytes.all isByte then some 2
  else none

/-- For how many groups a row of parts counts; of these only the last may be written as four decimal
numbers, if `closes` says that it is the last of all. -/
def groups? (closes : Bool) : List (List Char) → Option Nat
  | [] => some 0
  | [part] => if closes then lastGroups? part else if isGroup part then some 1 else none
  | part :: parts => if isGroup part then (groups? closes parts).map (· + 1) else none

/-- The parts of a text between colons; an empty text has none. -/
def parts (cs : List Char) : List (List Char) := if cs = [] then [] else Text.split ':' cs

/-- A text is a **number of eight groups**. -/
def isGroups (cs : List Char) : Bool :=
  match Text.find? "::".toList cs with
  | none => groups? true (parts cs) = some 8
  | some i =>
    match groups? false (parts (cs.take i)), groups? true (parts (cs.drop (i + 2))) with
    | some before, some behind => before + behind < 8
    | _, _ => false

end Host

end Catalogue
