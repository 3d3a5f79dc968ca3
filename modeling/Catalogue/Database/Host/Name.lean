import Catalogue.Database.Host.Letter
import Catalogue.Database.Host.Punycode
import Catalogue.Text.Direction
import Catalogue.Text.Parts

/-!
# Names of hosts

The name of a host is a row of labels with dots between them. `Catalogue.Host.labels?` reads it:
each character as it is meant (`Catalogue.Host.letters?`), and each label out of its disguise, if it
begins with the sign of one. A label does not begin with a mark that wants a letter before it, and
its joiners have a meaning; and as soon as one label is written from right to left, every label has
to read one way.
-/

namespace Catalogue

namespace Host

/-- The sign that a label in disguise begins with. -/
def disguiseSign : List Char := "xn--".toList

/-- A label **can be read**: it does not begin with a mark, and its joiners have a meaning. -/
def isLegible (cs : List Char) : Bool :=
  !(cs.head?.any Text.isMark) && Text.joinersFit [] cs

/-- A label, **out of its disguise**. -/
def label? (cs : List Char) : Option (List Char) :=
  match Text.past? disguiseSign cs with
  | none => if isLegible cs then some cs else none
  | some digits =>
    if digits.getLast? = some '-' ∨ digits.any (0x80 ≤ ·.toNat) then none
    else
      (revealed? digits).bind fun label =>
        if label.any (0x80 ≤ ·.toNat) && label.all isSettled && isLegible label then some label
        else none

/-- The **labels of a name**, if it is one. -/
def labels? (name : List Char) : Option (List (List Char)) :=
  (name.mapM letters?).bind fun letters =>
    ((Text.split '.' letters.flatten).mapM label?).bind fun labels =>
      if labels.any Text.isMirrored && !labels.all Text.readsOneWay then none else some labels

end Host

end Catalogue
