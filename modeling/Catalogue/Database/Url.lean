import Catalogue.Database.Host

/-!
# Addresses of databases as URLs

An address is a URL: a scheme, a colon, and what belongs to the scheme. Behind two slashes comes
first of all an *authority*: a host, perhaps with a user before it and a port behind it. Then comes
a path, and in the end a query and a mark of a place, which nobody looks at here.
`Catalogue.Url.ofText?` takes a text apart, and `Catalogue.Url.text` writes the URL back. The text
is not always the same as before: characters that count for nothing have gone, and so have parts of
the path that lead nowhere.
-/

namespace Catalogue

/-- An **authority**: who is asked, and where. -/
structure Authority where
  /-- The user, and nothing without one. -/
  user : List Char
  /-- The password, and nothing without one. -/
  password : List Char
  /-- The host. -/
  host : List Char
  /-- The port, if one is given. -/
  port : Option Nat
  deriving DecidableEq

/-- A **URL**. -/
structure Url where
  /-- The scheme, in lower case. -/
  scheme : String
  /-- The authority, if there is one. -/
  authority : Option Authority
  /-- The path, with the slash that it may begin with. -/
  path : List Char
  /-- The query and the mark of a place, with the signs they begin with. -/
  rest : List Char
  deriving DecidableEq

namespace Url

/-- Why a text is **no URL**. -/
inductive Fault where
  /-- There is no scheme. -/
  | relative
  /-- A port that is no number, or too great a one. -/
  | port
  /-- There is no host, or what stands for it is none. -/
  | host (f : Host.Fault)
  deriving DecidableEq

/-- The wording of a fault. -/
def Fault.message : Fault → String
  | .relative => "relative URL without a base"
  | .port => "invalid port number"
  | .host f => f.message

/-! ### Schemes -/

/-- The schemes of the web, whose hosts are names that people use. -/
def webSchemes : List String := ["http", "https", "ws", "wss", "ftp"]

/-- A character of a scheme behind its first. -/
def isSchemeChar (c : Char) : Bool := c.isAlphanum || c = '+' || c = '-' || c = '.'

/-- The text without controls and spaces at its ends, and without tabs and line breaks. -/
def tidy (s : String) : List Char :=
  let blank (c : Char) : Bool := c.toNat ≤ 0x20
  ((s.toList.dropWhile blank).reverse.dropWhile blank).reverse.filter fun c =>
    c ≠ '\t' && c ≠ '\n' && c ≠ '\r'

/-- The scheme and what follows its colon. -/
def scheme? (cs : List Char) : Option (List Char × List Char) :=
  match Text.cut? ':' cs with
  | some (c :: scheme, body) =>
    if c.isAlpha ∧ scheme.all isSchemeChar then some ((c :: scheme).map Char.toLower, body)
    else none
  | _ => none

/-! ### Authorities -/

/-- A text cut at its first colon outside of brackets, which belongs to the second half. -/
def cutPort (inside : Bool) : List Char → List Char × List Char
  | [] => ([], [])
  | c :: cs =>
    if c = ':' ∧ !inside then ([], c :: cs)
    else
      let halves := cutPort (c = '[' || (inside && c ≠ ']')) cs
      (c :: halves.1, halves.2)

/-- The port behind a host, with the colon before it. A backslash ends it. -/
def port? (cs : List Char) : Except Fault (Option Nat) :=
  let digits := (cs.drop 1).takeWhile (· ≠ '\\')
  if digits = [] then .ok none
  else if digits.all Numeral.isDigit ∧ Numeral.value 0 digits < 65536 then
    .ok (some (Numeral.value 0 digits))
  else .error .port

/-- The user and the password before a host. -/
def credentials (cs : List Char) : List Char × List Char :=
  (Text.cut? ':' cs).getD (cs, [])

/-- Read an authority, of the web or any other. A host may be missing if nothing asks for one: no
user and no port, and nothing that follows an at sign which stands alone. -/
def authority? (web ends : Bool) (cs : List Char) : Except Fault Authority := do
  let (before, named) := match Text.findLast? '@' cs with
    | some i => (cs.take i, cs.drop (i + 1))
    | none => ([], cs)
  let (user, password) := credentials before
  let (host, rest) := cutPort false named
  if host = [] ∧ (web ∨ user ≠ [] ∨ password ≠ [] ∨ rest ≠ [] ∨ (cs = ['@'] ∧ !ends)) then
    throw (.host .empty)
  (if web then Host.check host else Host.checkOpaque host).mapError .host
  return ⟨user, password, host, ← port? rest⟩

/-! ### Paths -/

/-- A part of a path that stays where it is. -/
def isHere (part : List Char) : Bool :=
  [".", "%2e"].contains (String.ofList (part.map Char.toLower))

/-- A part of a path that leads one step back. -/
def isBack (part : List Char) : Bool :=
  ["..", ".%2e", "%2e.", "%2e%2e"].contains (String.ofList (part.map Char.toLower))

/-- The parts of a path **walked** one after the other, those so far in reverse. The last part is
empty if the path ends in a step that leads nowhere. -/
def walk : List (List Char) → List (List Char) → List (List Char)
  | parts, [] => parts.reverse
  | parts, part :: rest =>
    let stays := if rest = [] then [[]] else []
    if isBack part then walk (stays ++ parts.tail) rest
    else if isHere part then walk (stays ++ parts) rest
    else walk (part :: parts) rest

/-- A path that begins with a slash, without the parts that lead nowhere. -/
def straight (path : List Char) : List Char :=
  (walk [] (Text.split '/' (path.drop 1))).flatMap fun part => '/' :: part

/-! ### Reading and writing -/

/-- Where a path ends. -/
def isPathEnd (c : Char) : Bool := c = '?' || c = '#'

/-- A local file behind two slashes, of either kind: it may be on another host, unless what stands
for the host is the letter of a drive. -/
def checkLocal : List Char → Except Fault Unit
  | a :: b :: cs =>
    let slash (c : Char) : Bool := c = '/' || c = '\\'
    let host := cs.takeWhile fun c => !slash c && !isPathEnd c
    let isDrive := match host with
      | [letter, sign] => letter.isAlpha && (sign = ':' || sign = '|')
      | _ => false
    if !slash a || !slash b || host = [] || isDrive then .ok ()
    else (Host.check host).mapError .host
  | _ => .ok ()

/-- What follows a scheme, if it begins with an authority; a slash too many or too few before one is
forgiven on the web, and a backslash is as good. -/
def past? (web : Bool) (body : List Char) : Option (List Char) :=
  if web then some (body.dropWhile fun c => c = '/' || c = '\\') else Text.past? "//".toList body

/-- A text **read as a URL**. -/
def ofText? (s : String) : Except Fault Url := do
  let some (scheme, body) := scheme? (tidy s) | throw .relative
  let scheme := String.ofList scheme
  let rest := body.dropWhile (!isPathEnd ·)
  let path := body.takeWhile (!isPathEnd ·)
  if scheme = "file" then
    checkLocal body
    return ⟨scheme, none, path, rest⟩
  let web := webSchemes.contains scheme
  match past? web path with
  | none => return ⟨scheme, none, if path.head? = some '/' then straight path else path, rest⟩
  | some named =>
    let ending (c : Char) : Bool := c = '/' || (web && c = '\\')
    let path := named.dropWhile (!ending ·)
    let authority ← authority? web (path = [] && rest = []) (named.takeWhile (!ending ·))
    return ⟨scheme, some authority, if path = [] then [] else straight path, rest⟩

/-- The text of an authority. -/
def authorityText (a : Authority) : List Char :=
  let password := if a.password = [] then [] else ':' :: a.password
  let credentials := if a.user = [] ∧ password = [] then [] else a.user ++ password ++ ['@']
  let port := match a.port with
    | none => []
    | some n => ':' :: Nat.toDigits 10 n
  credentials ++ a.host ++ port

/-- The **text of a URL** behind its scheme and the colon. A path with two slashes at its start is
kept apart from an authority. -/
def body (u : Url) : List Char :=
  let start := match u.authority with
    | some a => "//".toList ++ authorityText a
    | none => if (Text.past? "//".toList u.path).isSome then "/.".toList else []
  start ++ u.path ++ u.rest

/-- The **text of a URL**. -/
def text (u : Url) : List Char := u.scheme.toList ++ ':' :: u.body

end Url

end Catalogue
