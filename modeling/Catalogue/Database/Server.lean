import Catalogue.Database.Url
import Catalogue.Text.Quoted

/-!
# Addresses of PostgreSQL servers

The address of a server names a host, a user with a password, a database and options. What
`Catalogue.Server.check` finds wrong with one is found before anybody is asked: bytes that are no
text, and options with values that they cannot have. A host that begins with a slash is a directory
on the same machine, in which the server would have left a socket.
-/

namespace Catalogue

namespace Server

/-- Why a server **cannot be asked**. -/
inductive Fault where
  /-- The address has a part that cannot be understood. -/
  | address (reason : String)
  /-- There is no socket of a server. -/
  | noSocket
  deriving DecidableEq

/-- A part of an address is text. -/
def checkText (cs : List Char) : Except Fault Unit :=
  match Symbol.flaw? (Text.percentDecode cs) with
  | some flaw => .error (.address flaw.message)
  | none => .ok ()

/-- The words for how much a connection is secured. -/
def securityWords : List String :=
  ["disable", "allow", "prefer", "require", "verify-ca", "verify-full"]

/-- A whole number below a bound. -/
def checkNumber (bound : Nat) (value : String) : Except Fault Unit :=
  if value = "" then .error (.address "cannot parse integer from empty string")
  else
    match Numeral.nat? value with
    | none => .error (.address "invalid digit found in string")
    | some n =>
      if n < bound then .ok ()
      else .error (.address "number too large to fit in target type")

/-- The number of a host, of either kind, written in full. -/
def checkHostNumber (value : String) : Except Fault Unit :=
  let bytes := Text.split '.' value.toList
  if (bytes.length = 4 ∧ bytes.all Host.isByte) ∨ Host.isGroups value.toList then .ok ()
  else .error (.address "invalid IP address syntax")

/-- Check an option. Options of other names count for nothing. -/
def checkOption (key value : String) : Except Fault Unit :=
  if key = "sslmode" ∨ key = "ssl-mode" then
    if securityWords.contains (String.ofList (value.toList.map Char.toLower)) then .ok ()
    else
      .error (.address
        ("error with configuration: unknown value " ++ Text.quote value ++ " for `ssl_mode`"))
  else if key = "statement-cache-capacity" then checkNumber UInt64.size value
  else if key = "port" then checkNumber UInt16.size value
  else if key = "hostaddr" then checkHostNumber value
  else .ok ()

/-- The **options** of an address. -/
def options (u : Url) : List (String × String) :=
  match u.rest with
  | '?' :: query => Text.formPairs (query.takeWhile (· ≠ '#'))
  | _ => []

/-- A host is a directory. -/
def isDirectory (host : String) : Bool := Text.startsWith "/" host

/-- **Check the address** of a server. -/
def check (u : Url) : Except Fault Unit := do
  let authority := u.authority.getD ⟨[], [], [], none⟩
  let host := Text.lossy (Text.percentDecode authority.host)
  if isDirectory host then checkText authority.host
  checkText authority.user
  checkText authority.password
  checkText (u.path.dropWhile (· = '/'))
  (options u).forM fun (key, value) => checkOption key value
  if isDirectory host ∨ (options u).any fun (key, value) => key = "host" && isDirectory value then
    throw .noSocket

end Server

end Catalogue
