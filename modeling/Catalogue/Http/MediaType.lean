import Catalogue.Http.Message

/-!
# Media types

Whether the header that describes the content of a request says that it is JSON: the type is
`application`, and the subtype is `json`, or something else with the suffix `+json`. Parameters may
follow and do not matter, but they have to be well formed.
-/

namespace Catalogue

namespace Http

namespace MediaType

/-- A character of a name in a media type. -/
def isTokenChar (c : Char) : Bool :=
  c.isAlphanum || "!#$%&'*+-.^_`|~".toList.contains c

/-- What the reading of parameters is **in the middle of**, and whether it has any characters
yet. -/
inductive Part where
  /-- A name. -/
  | name (any : Bool)
  /-- A value. -/
  | value (any : Bool)
  /-- A value between quotes. -/
  | quoted (any : Bool)
  /-- Behind a quoted value. -/
  | behind

/-- One more character of the parameters; none if it may not stand there. -/
def Part.step? (p : Part) (c : Char) : Option Part :=
  match p with
  | .name any =>
    if c = ' ' ∧ !any then some (.name false)
    else if isTokenChar c then some (.name true)
    else if c = '=' ∧ any then some (.value false)
    else none
  | .value any =>
    if c = '"' ∧ !any then some (.quoted false)
    else if isTokenChar c then some (.value true)
    else if c = ';' ∧ any then some (.name false)
    else none
  | .quoted any =>
    if c = '"' ∧ any then some .behind
    else if 0x20 ≤ c.toNat ∧ c.toNat ≠ 0x7F then some (.quoted true)
    else none
  | .behind =>
    if c = ';' then some (.name false)
    else if c = ' ' then some .behind
    else none

/-- The parameters may end here. -/
def Part.ends : Part → Bool
  | .name any => !any
  | .value _ => true
  | .quoted _ => false
  | .behind => true

/-- Parameters are well formed. -/
def parametersOk (cs : List Char) : Bool :=
  ((cs.foldlM Part.step? (.name false)).map Part.ends).getD false

/-- A subtype is JSON, by itself or by its suffix. A plus sign at the beginning starts no suffix. -/
def isJsonSubtype (cs : List Char) : Bool :=
  match (Text.findLast? '+' (cs.drop 1)).map (· + 1) with
  | some i => cs.take i = "json".toList || cs.drop (i + 1) = "json".toList
  | none => cs = "json".toList

/-- A media type **stands for JSON**. -/
def isJson (s : String) : Bool :=
  let cs := s.toList.map Char.toLower
  let kind := cs.takeWhile isTokenChar
  match cs.dropWhile isTokenChar with
  | '/' :: rest =>
    let subtype := rest.takeWhile isTokenChar
    let parameters := match rest.dropWhile isTokenChar with
      | [] => some []
      | ';' :: cs => if subtype = [] then none else some cs
      | _ => none
    kind = "application".toList && isJsonSubtype subtype &&
      (parameters.map parametersOk).getD false
  | _ => false

end MediaType

/-- The body of a request **is said to be JSON**. -/
def Request.isJson (r : Request) : Bool :=
  ((r.text? "content-type").map MediaType.isJson).getD false

end Http

end Catalogue
