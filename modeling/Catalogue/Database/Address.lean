import Catalogue.Text.Parts

/-!
# Addresses without their passwords

The address of a database may hold a password, between the first colon behind the scheme and the
last at sign. `Catalogue.Address.masked?` replaces it by three asterisks. It has nothing to show for
an address whose last at sign stands before the end of the scheme.
-/

namespace Catalogue

namespace Address

/-- The mark between the scheme and the rest of an address. -/
def schemeMark : List Char := "://".toList

/-- An address **without its password**. -/
def masked? (address : String) : Option String :=
  let cs := address.toList
  match Text.find? schemeMark cs, Text.findLast? '@' cs with
  | some scheme, some sign =>
    let start := scheme + schemeMark.length
    if sign < start then none
    else
      let credentials := (cs.take sign).drop start
      match credentials.findIdx? (· = ':') with
      | some user =>
        some <| String.ofList <|
          cs.take start ++ credentials.take user ++ ":***".toList ++ cs.drop sign
      | none => some address
  | _, _ => some address

end Address

end Catalogue
