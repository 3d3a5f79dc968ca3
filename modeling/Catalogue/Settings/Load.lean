import Catalogue.Settings.Members
import Catalogue.Settings.Variable
import Catalogue.Toml.Document

/-!
# Loading settings

Settings come from files and from the environment. What a file says hides what the files before it
say and what holds by default, and the environment hides all files. `Catalogue.Settings.load` works
on given files and `Catalogue.Settings.Places.files` finds them where they usually are.
-/

namespace Catalogue

namespace Settings

/-- The trees of files, or a fault for each file that cannot be read. -/
def readFiles : List String → Except (List Fault) (List Tree)
  | [] => .ok []
  | file :: rest =>
    match Toml.ofText? file, readFiles rest with
    | some t, .ok ts => .ok (t :: ts)
    | some _, .error fs => .error fs
    | none, .ok _ => .error [⟨[], .unreadable⟩]
    | none, .error fs => .error (⟨[], .unreadable⟩ :: fs)

/-- **Load settings** from files, each of which hides those before it, and the environment. -/
def load (files : List String) (environment : List (String × String)) :
    Except (List Fault) Settings := do
  let said ← readFiles files
  let t := (said ++ [ofEnvironment environment]).foldl Tree.merge default.tree
  (ofTree? t).mapError fun f => [f]

/-- The **places** where settings files are looked for, with the text of the file there, if there
is one. -/
structure Places where
  /-- The working directory. -/
  working : Option String
  /-- The settings directory of the user. -/
  home : Option String
  /-- The settings directories that users share. -/
  shared : Option String
  /-- The settings directory of the system. -/
  system : Option String

/-- The files of the usual places, each of which hides those before it. A file of the user keeps the
shared one from being looked for. -/
def Places.files (p : Places) : List String :=
  [p.system, p.home.or p.shared, p.working].filterMap id

end Settings

end Catalogue
