/-!
# Names in ASCII disguise

Where only ASCII goes, the label of a name is written in disguise: its ASCII characters first, and
behind a hyphen the others with their places, as numbers in base 36 of which the lowest digit comes
first. How much each digit counts changes from number to number, so that small numbers, which are
the common ones, take few digits. `Catalogue.Host.revealed?` takes the disguise off.
-/

namespace Catalogue

namespace Host

/-- The value of a digit in base 36: the letters come first. -/
def base36? (c : Char) : Option Nat :=
  if 'a' ≤ c ∧ c ≤ 'z' then some (c.toNat - 97)
  else if 'A' ≤ c ∧ c ≤ 'Z' then some (c.toNat - 65)
  else if '0' ≤ c ∧ c ≤ '9' then some (c.toNat - 48 + 26)
  else none

/-- The value from which on a digit is not the last of its number. -/
def threshold (column bias : Nat) : Nat :=
  if column ≤ bias then 1 else if bias + 26 ≤ column then 26 else column - bias

/-- The columns by which a difference between two numbers moves the thresholds. -/
def columns (delta column : Nat) : Nat :=
  if 455 < delta then columns (delta / 35) (column + 36) else column + 36 * delta / (delta + 38)
termination_by delta
decreasing_by exact Nat.div_lt_self (by omega) (by omega)

/-- The bias behind a number that came to `delta` more than the one before it, in a label of `size`
characters; differences count less behind the first number. -/
def nextBias (delta size : Nat) (isFirst : Bool) : Nat :=
  let delta := if isFirst then delta / 700 else delta / 2
  columns (delta + delta / size) 0

/-- Where the reading of a disguise **stands**. -/
structure Disguise where
  /-- The characters so far. -/
  label : List Char
  /-- The code point of the character that was put in last. -/
  code : Nat
  /-- The place behind it. -/
  place : Nat
  /-- The bias of the number that is read. -/
  bias : Nat
  /-- The first number has not been read. -/
  isFirst : Bool
  /-- The column of the next digit. -/
  column : Nat
  /-- How much the next digit counts. -/
  weight : Nat
  /-- What the digits of the number come to so far. -/
  number : Nat

namespace Disguise

/-- The start, with the ASCII characters of a label. -/
def ofLabel (label : List Char) : Disguise := ⟨label, 128, 0, 72, true, 36, 1, 0⟩

/-- Put in the character that a number stands for. -/
def insert? (d : Disguise) (number : Nat) : Option Disguise :=
  let size := d.label.length + 1
  let place := (d.place + number) % size
  let code := d.code + (d.place + number) / size
  if code.isValidChar then
    some ⟨d.label.take place ++ Char.ofNat code :: d.label.drop place, code, place + 1,
      nextBias number size d.isFirst, false, 36, 1, 0⟩
  else none

/-- Read one digit. -/
def digit? (d : Disguise) (c : Char) : Option Disguise :=
  (base36? c).bind fun value =>
    let bound := threshold d.column d.bias
    let number := d.number + value * d.weight
    if value < bound then d.insert? number
    else
      some { d with
        column := d.column + 36
        weight := d.weight * (36 - bound)
        number := number }

end Disguise

/-- The label behind a **disguise**, if it is one to its end. -/
def revealed? (cs : List Char) : Option (List Char) :=
  let digits := (cs.reverse.takeWhile (· ≠ '-')).reverse
  let (label, digits) :=
    if digits.length + 1 < cs.length then (cs.take (cs.length - digits.length - 1), digits)
    else ([], cs)
  match digits.foldlM Disguise.digit? (.ofLabel label) with
  | some d => if d.column = 36 then some d.label else none
  | none => none

end Host

end Catalogue
