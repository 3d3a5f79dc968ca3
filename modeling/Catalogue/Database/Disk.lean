import Catalogue.Text.Parts

/-!
# Files on a disk

A file is named by a path: directories with slashes between them, and its own name last. An empty
part of a path and a dot lead nowhere, and two dots lead one directory back
(`Catalogue.Disk.steps`). Whether a file can be opened depends on what there is on the disk, and
on the `Catalogue.Disk.Access` that is asked for.
-/

namespace Catalogue

/-- What there is on a **disk**, by resolved paths. -/
structure Disk where
  /-- The files. -/
  files : List String
  /-- The directories, in all of which files can be made. -/
  directories : List String

namespace Disk

/-- What is to be done with a file. -/
inductive Access where
  /-- It is read. -/
  | read
  /-- It is read and written. -/
  | write
  /-- It is read and written, and made if there is none. -/
  | create
  deriving DecidableEq

/-- Why a file **cannot be opened**. -/
inductive Fault where
  /-- It is not there, or it cannot be one. -/
  | missing
  /-- It cannot be read. -/
  | unreadable
  deriving DecidableEq

/-- How much an access allows. -/
def Access.rank : Access → Nat
  | .read => 1
  | .write => 2
  | .create => 6

/-- One more part of a path, behind those that lead somewhere; these are given from the last to the
first. -/
def step (absolute : Bool) (out : List (List Char)) (part : List Char) : List (List Char) :=
  if part = [] ∨ part = ['.'] then out
  else if part = ['.', '.'] then
    if out = [] ∨ out.head? = some part then if absolute then out else part :: out
    else out.tail
  else part :: out

/-- The parts of a path that lead somewhere, from the last to the first. Nothing is above the root
of the disk, and a relative path may begin with steps back. -/
def steps (absolute : Bool) (parts : List (List Char)) : List (List Char) :=
  parts.foldl (step absolute) []

/-- The path of some parts, which are given from the last to the first. -/
def join (absolute : Bool) (parts : List (List Char)) : String :=
  let path := ['/'].intercalate parts.reverse
  String.ofList (if absolute then '/' :: path else if parts = [] then ['.'] else path)

/-- The greatest number of bytes of a path. -/
def longestPath : Nat := 504

/-- The greatest number of bytes of a part of a path. -/
def longestPart : Nat := 255

/-- What comes of **opening a file**: a directory can be opened for reading, apart from the root,
but there is nothing in it to read. -/
def open? (disk : Disk) (a : Access) (path : String) : Except Fault Unit :=
  let absolute := path.toList.head? = some '/'
  let parts := steps absolute (Text.split '/' path.toList)
  let resolved := join absolute parts
  let fits := resolved.utf8ByteSize ≤ longestPath &&
    parts.all fun part => (String.ofList part).utf8ByteSize ≤ longestPart
  if !fits ∨ resolved = "/" then .error .missing
  else if disk.directories.contains resolved then
    .error (if a = .read then .unreadable else .missing)
  else if disk.files.contains resolved ∨
      (a = .create ∧ disk.directories.contains (join absolute parts.tail)) then .ok ()
  else .error .missing

end Disk

end Catalogue
