import Catalogue.Database.Host.Name
import Catalogue.Database.Host.Number
import Catalogue.Text.Percent

/-!
# Hosts

What stands for a host in an address: a number between brackets, or else a name, which for some
schemes is one that people use and for the others any text without a few characters that would end
it. `Catalogue.Host.check` looks at a name that people use, `Catalogue.Host.checkOpaque` at any
other.
-/

namespace Catalogue

namespace Host

/-- Why a text stands for **no host**. -/
inductive Fault where
  /-- There is nothing left of it. -/
  | empty
  /-- It has a character that it may not have. -/
  | forbidden
  /-- It is no name that people use. -/
  | unfit
  /-- It ends in a number, and is no number of 32 bits. -/
  | number
  /-- What stands in brackets is no number of eight groups. -/
  | groups
  deriving DecidableEq

/-- The wording of a fault. -/
def Fault.message : Fault → String
  | .empty => "empty host"
  | .forbidden => "invalid domain character"
  | .unfit => "invalid international domain name"
  | .number => "invalid IPv4 address"
  | .groups => "invalid IPv6 address"

/-- A text in brackets, without the first of them: it ends with the other, and holds a number. -/
def checkBracketed (cs : List Char) : Except Fault Unit :=
  if cs.getLast? = some ']' ∧ isGroups cs.dropLast then .ok () else .error .groups

/-- A character that may not stand in any host. -/
def isBarrier (c : Char) : Bool := c.toNat = 0 || " #/:<>?@[\\]^|".toList.contains c

/-- Check a host that is any text. -/
def checkOpaque : List Char → Except Fault Unit
  | '[' :: cs => checkBracketed cs
  | cs => if cs.any isBarrier then .error .forbidden else .ok ()

/-- Check a host that is a name people use, or a number. -/
def check : List Char → Except Fault Unit
  | '[' :: cs => checkBracketed cs
  | cs =>
    match labels? (Text.lossy (Text.percentDecode cs)).toList with
    | none => .error .unfit
    | some labels =>
      if labels = [[]] then .error .empty
      else if endsInNumber labels ∧ !isNumber labels then .error .number
      else .ok ()

end Host

end Catalogue
