import Catalogue.Database.Disk
import Catalogue.Text.Percent
import Catalogue.Text.Quoted

/-!
# Opening an SQLite database

The address of an SQLite database is the name of a file, and perhaps options behind a question mark.
A name that is `:memory:` stands for a database in memory, no name for a temporary one, and a name
that begins with `file:` is itself an address with options. `Catalogue.Sqlite.open?` follows the
names to a file and opens it.
-/

namespace Catalogue

namespace Sqlite

/-- Why a database **cannot be opened**. -/
inductive Fault where
  /-- The address has a part that cannot be understood. -/
  | address (reason : String)
  /-- The name of the file ends before its end. -/
  | cutName
  /-- The database system refuses, with a code and a reason. -/
  | refused (code : Nat) (reason : String)
  deriving DecidableEq

/-! ### Options of an address -/

/-- The **options** of an address. -/
structure Options where
  /-- It is only read, whatever else is asked for. -/
  readOnly : Bool
  /-- It is made if there is none. -/
  creates : Bool
  /-- It is kept in memory. -/
  inMemory : Bool
  /-- Nobody changes the file. -/
  immutable : Bool
  /-- The system of files that it is kept in. -/
  system : Option String
  deriving DecidableEq

/-- An option has a value that it cannot have. -/
def unknownValue (key value : String) : Except Fault Options :=
  .error (.address ("unknown value " ++ Text.quote value ++ " for `" ++ key ++ "`"))

/-- The options with one more. -/
def Options.set (o : Options) (key value : String) : Except Fault Options :=
  if key = "mode" then
    if value = "ro" then .ok { o with readOnly := true }
    else if value = "rw" then .ok o
    else if value = "rwc" then .ok { o with creates := true }
    else if value = "memory" then .ok { o with inMemory := true }
    else unknownValue key value
  else if key = "cache" then
    if value = "private" ∨ value = "shared" then .ok o else unknownValue key value
  else if key = "immutable" then
    if value = "true" ∨ value = "1" then .ok { o with immutable := true }
    else if value = "false" ∨ value = "0" then .ok { o with immutable := false }
    else unknownValue key value
  else if key = "vfs" then .ok { o with system := some value }
  else
    .error (.address ("unknown query parameter `" ++ key ++ "` while parsing connection URL"))

/-- What the options ask to do with a file. -/
def Options.access (o : Options) : Disk.Access :=
  if o.readOnly then .read else if o.creates then .create else .write

/-! ### Targets -/

/-- What a database is to be opened **as**. -/
structure Target where
  /-- The name of the file. -/
  name : String
  /-- What is to be done with it. -/
  access : Disk.Access
  /-- It is kept in memory instead. -/
  inMemory : Bool
  /-- The system of files, if one is named. -/
  system : Option String
  deriving DecidableEq

/-- The systems of files that there are. -/
def systems : List String := ["unix", "unix-none", "unix-dotfile", "unix-excl", "memdb"]

/-- The words for what is to be done with a file; without an access it is kept in memory. -/
def accessWords : List (String × Option Disk.Access) :=
  [("ro", some .read), ("rw", some .write), ("rwc", some .create), ("memory", none)]

/-- The target with one more option of a name that is an address. No option can allow more than has
been asked for, except in memory. -/
def Target.set (t : Target) (key value : String) : Except Fault Target :=
  if key = "vfs" then .ok { t with system := some value }
  else if key = "cache" then
    if value = "shared" ∨ value = "private" then .ok t
    else .error (.refused 1 ("no such cache mode: " ++ value))
  else if key = "mode" then
    match accessWords.lookup value with
    | none => .error (.refused 1 ("no such access mode: " ++ value))
    | some none => .ok { t with inMemory := true }
    | some (some access) =>
      if t.inMemory ∨ access.rank ≤ t.access.rank then
        .ok { t with access := access, inMemory := false }
      else .error (.refused 3 ("access mode not allowed: " ++ value))
  else .ok t

/-- What a part of an address stands for, up to the first NUL. -/
def partText (cs : List Char) : String :=
  Text.lossy ((Text.percentDecode cs).takeWhile (· ≠ 0))

/-- The options of a name that is an address. -/
def pairs (cs : List Char) : List (String × String) :=
  ((Text.split '&' cs).map fun option =>
    let (key, value) := (Text.cut? '=' option).getD (option, [])
    (partText key, partText value)).filter (·.1 ≠ "")

/-- What follows the host of a name that is an address; the host can only be this one. -/
def pastHost (cs : List Char) : Except Fault (List Char) :=
  match Text.past? "//".toList cs with
  | none => .ok cs
  | some named =>
    let host := String.ofList (named.takeWhile (· ≠ '/'))
    if host = "" ∨ host = "localhost" then .ok (named.dropWhile (· ≠ '/'))
    else .error (.refused 1 ("invalid uri authority: " ++ host))

/-- The target with a name that may be an **address of its own** looked up. -/
def Target.follow (t : Target) : Except Fault Target :=
  match Text.past? "file:".toList t.name.toList with
  | none => .ok t
  | some address => do
    let path := (← pastHost address).takeWhile (· ≠ '#')
    let (path, options) := (Text.cut? '?' path).getD (path, [])
    (pairs options).foldlM (fun t (key, value) => t.set key value) { t with name := partText path }

/-- The answer to a file that cannot be opened. -/
def ofDisk : Disk.Fault → Fault
  | .missing => .refused 14 "unable to open database file"
  | .unreadable => .refused 266 "disk I/O error"

/-- **Open** a target. -/
def Target.open? (disk : Disk) (t : Target) : Except Fault Unit :=
  let system := t.system.getD "unix"
  if !systems.contains system then .error (.refused 1 ("no such vfs: " ++ system))
  else if t.inMemory ∨ t.name = "" ∨ t.name = ":memory:" ∨ system = "memdb" then .ok ()
  else (disk.open? t.access t.name).mapError ofDisk

/-! ### Opening -/

/-- A text without all that it begins with of a given kind, however often. -/
def pastAll (lead cs : List Char) : List Char :=
  Nat.repeat (fun cs => (Text.past? lead cs).getD cs) cs.length cs

/-- The target that a name and options come to. A name with a system of files, or one of a file that
nobody changes, is made an address of its own first, whatever it is: so it ends at a NUL, and a
space in the name of the system becomes a plus sign. -/
def Options.target (o : Options) (name : String) : Except Fault Target :=
  let target : Target := ⟨name, o.access, o.inMemory, none⟩
  if o.immutable ∨ o.system.isSome then
    let upToNul (s : String) : String := String.ofList (s.toList.takeWhile (·.toNat ≠ 0))
    let plus (c : Char) : Char := if c = ' ' then '+' else c
    .ok { target with
      name := upToNul name
      system := o.system.map fun s => String.ofList ((upToNul s).toList.map plus) }
  else if name.toList.any (·.toNat = 0) then .error .cutName
  else target.follow

/-- **Open the database** at an address, given with its scheme. -/
def open? (disk : Disk) (address : List Char) : Except Fault Unit := do
  let address := pastAll "sqlite:".toList (pastAll "sqlite://".toList address)
  let (name, options) := (Text.cut? '?' address).getD (address, [])
  let decoded := Text.percentDecode name
  let inMemory := String.ofList name = ":memory:"
  if let some flaw := Symbol.flaw? decoded then
    throw (.address flaw.message)
  let options ← (Text.formPairs options).foldlM (fun o (key, value) => o.set key value)
    (⟨false, false, inMemory, false, none⟩ : Options)
  (← options.target (Text.lossy decoded)).open? disk

end Sqlite

end Catalogue
