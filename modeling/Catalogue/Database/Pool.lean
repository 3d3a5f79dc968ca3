import Catalogue.Database.Address
import Catalogue.Database.Retry
import Catalogue.Database.Server
import Catalogue.Database.Sqlite

/-!
# Opening a database

`Catalogue.Pool.open?` says whether the database at an address can be opened, and if not why. The
scheme of the address decides what kind of database it is: an SQLite database is a file or memory,
and whether it opens depends on the `Catalogue.Disk` besides; a PostgreSQL server is one that does
not answer, if its address can be understood at all.
-/

namespace Catalogue

namespace Pool

/-- Why a database **cannot be opened**. -/
inductive Fault where
  /-- The address is none. -/
  | configuration (reason : String)
  /-- The database system refuses, with a code and a reason. -/
  | refused (code : Nat) (reason : String)
  /-- The database cannot be reached. -/
  | unreachable (reason : String)
  /-- No server answers. -/
  | timedOut
  deriving DecidableEq

namespace Fault

/-- A fault of an SQLite database. -/
def ofSqlite : Sqlite.Fault → Fault
  | .address reason => .configuration reason
  | .cutName => .unreachable "filename passed to SQLite must not contain nul bytes"
  | .refused code reason => .refused code reason

/-- A fault of a PostgreSQL server. -/
def ofServer : Server.Fault → Fault
  | .address reason => .configuration reason
  | .noSocket => .unreachable "No such file or directory (os error 2)"

/-- The kind of a fault and its details. -/
def message : Fault → String
  | .configuration reason =>
    "Configuration error (error with configuration: " ++ reason ++ ")"
  | .refused code reason =>
    "Database error (error returned from database: (code: " ++ toString code ++ ") " ++ reason ++
      ")"
  | .unreachable reason =>
    "Network I/O error - check connectivity (error communicating with database: " ++ reason ++ ")"
  | .timedOut =>
    "Connection pool timeout - database may be overloaded " ++
      "(pool timed out while waiting for an open connection)"

/-- The **whole message** of a fault, with the address but without its password; there is none if
the address cannot be shown. -/
def display? (address : String) (f : Fault) : Option String :=
  (Address.masked? address).map fun shown =>
    "Internal error: Failed to connect to database at '" ++ shown ++ "': " ++ f.message

end Fault

/-- **Open the database** at an address. -/
def open? (disk : Disk) (address : String) : Except Fault Unit :=
  match Url.ofText? address with
  | .error f => .error (.configuration f.message)
  | .ok url =>
    if url.scheme = "sqlite" then (Sqlite.open? disk url.text).mapError .ofSqlite
    else if url.scheme = "postgres" ∨ url.scheme = "postgresql" then
      (Server.check url).mapError .ofServer |>.bind fun _ => .error .timedOut
    else .error (.configuration ("no driver found for URL scheme " ++ Text.quote url.scheme))

/-- Open the database at an address, and **try again** if that fails. A failure that cannot be shown
is the last one: there is nothing that could be said about it. -/
def connect (disk : Disk) (address : String) (retry : Retry) : Retry.Course Fault Unit :=
  let times := if (Address.masked? address).isSome then retry.times else 0
  (⟨times, retry.delay⟩ : Retry).run fun _ => open? disk address

end Pool

end Catalogue
