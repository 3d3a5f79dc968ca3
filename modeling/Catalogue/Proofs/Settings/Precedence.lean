import Catalogue.Proofs.Settings.Sections
import Catalogue.Proofs.Settings.Sources
import Mathlib

/-!
# Which source a setting comes from

Settings are loaded from the environment and from files, and what is not set there has a value of
its own. Of several sources that set a setting, the highest decides: the environment comes before
all files, and a later file before an earlier one (`Catalogue.Settings.highest_source_decides`).

This is so as long as every source that has the section of the setting has a table for it. Tables
are laid over one another name by name, but a section may also be said as a list, in which settings
have their positions and not their names. A source that has anything but a table for a section takes
the place of the whole section in the sources below, whether they set the setting or not
(`Catalogue.Settings.list_hides_port`); what is left to say of the section is in
`Catalogue.Settings.Tree.heard?`.

The proof goes through the trees of the sources, laid over one another
(`Catalogue.Settings.ofTree?_of_load`): a section of these is summed up, and is then read by name or
by position. The environment is itself made of layers, one for each variable, and is summed up in
the same way first.
-/

namespace Catalogue

namespace Settings

variable {files : List String} {environment : List (String × String)} {settings : Settings}
  {s key : String} {sh : Section} {kind : Kind} {i : Nat} {v : Plain}

/-! ### Sources -/

/-- The **sources** of settings, the highest first: the environment, and then the files, the last of
which hides those before it. -/
def sources (files : List String) (environment : List (String × String)) : List Tree :=
  ofEnvironment environment :: (files.filterMap Toml.ofText?).reverse

theorem sources_proper {t : Tree} (h : t ∈ sources files environment) : t.IsTable ∧ t.Proper := by
  rcases List.mem_cons.mp h with rfl | h
  · exact ofEnvironment_proper environment
  · obtain ⟨file, -, hfile⟩ := List.mem_filterMap.mp (List.mem_reverse.mp h)
    exact Toml.ofText?_proper hfile

/-- Files that can all be read say **what each of them says**. -/
theorem filterMap_of_readFiles {trees : List Tree} (h : readFiles files = .ok trees) :
    files.filterMap Toml.ofText? = trees := by
  induction files generalizing trees with
  | nil => exact Except.ok.inj h
  | cons file files ih =>
    rw [readFiles] at h
    split at h
    · rename_i t ts hfile hrest
      rw [List.filterMap_cons_some hfile, ih hrest]
      exact Except.ok.inj h
    · cases h
    · cases h
    · cases h

/-- Where all files can be read, settings are read from **their sources, laid over** what holds
where nothing is set. -/
theorem load_of_readFiles {trees : List Tree} (h : readFiles files = .ok trees)
    (environment : List (String × String)) :
    load files environment =
      (ofTree? (Tree.layered default.tree (sources files environment))).mapError fun f => [f] := by
  have hlayers : (trees ++ [ofEnvironment environment]).foldl Tree.merge default.tree =
      Tree.layered default.tree (sources files environment) := by
    rw [Tree.foldl_merge_eq_layered, List.reverse_append, sources, filterMap_of_readFiles h]
    rfl
  rw [load, h, ← hlayers]
  rfl

/-- Settings that are loaded are read from their sources. -/
theorem ofTree?_of_load (h : load files environment = .ok settings) :
    ofTree? (Tree.layered default.tree (sources files environment)) = .ok settings := by
  have hsteps := h
  rw [load] at hsteps
  obtain ⟨trees, hfiles, -⟩ := exists_of_bind_eq_ok hsteps
  rw [load_of_readFiles hfiles] at h
  exact eq_ok_of_mapError h

/-! ### Where nothing is set -/

theorem lookup_map_snd {α β : Type} (f : α → β) (key : String) (pairs : List (String × α)) :
    (pairs.map fun (k, a) => (k, f a)).lookup key = (pairs.lookup key).map f := by
  induction pairs with
  | nil => rfl
  | cons m pairs ih =>
    rw [List.map_cons, Tree.lookup_member, Tree.lookup_member, ih]
    split_ifs <;> rfl

/-- A section of settings as a tree. -/
theorem at?_tree (settings : Settings) (s : String) :
    settings.tree.at? [s] = (settings.sections.lookup s).map fun plains =>
      .table (plains.map fun (key, v) => (key, v.tree)) := by
  rw [tree, Tree.at?_single]
  exact lookup_map_snd (fun plains : List (String × Plain) =>
    Tree.table (plains.map fun (key, v) => (key, v.tree))) s settings.sections

/-- What holds where nothing is set has **all settings**. -/
theorem exists_default (hs : (s, sh) ∈ shapes) :
    ∃ members, default.tree.at? [s] = some (.table members) ∧
      ∀ key, members.lookup key = (default.value? s key).map Plain.tree := by
  have hsection : ∃ plains, default.sections.lookup s = some plains := by
    simp only [shapes, List.mem_cons, Prod.mk.injEq, List.not_mem_nil, or_false] at hs
    obtain ⟨rfl, -⟩ | ⟨rfl, -⟩ | ⟨rfl, -⟩ | ⟨rfl, -⟩ := hs
    · exact ⟨_, rfl⟩
    · exact ⟨_, rfl⟩
    · exact ⟨_, rfl⟩
    · exact ⟨_, rfl⟩
  obtain ⟨plains, hplains⟩ := hsection
  have htree := at?_tree default s
  rw [hplains, Option.map_some] at htree
  refine ⟨_, htree, fun key => ?_⟩
  rw [lookup_map_snd, value?, hplains, Option.bind_some]

/-! ### Reading what is said -/

/-- What is read of a kind is no table, so that what it is **alike** to is the same. -/
theorem Kind.read_of_alike {t u : Tree} (h : Tree.Alike t u) (hread : kind.read u = .ok v) :
    kind.read t = .ok v := by
  obtain rfl | ⟨-, members, rfl⟩ := h
  · exact hread
  · cases kind <;> cases hread

theorem rel_comp {α β γ : Type} {p : α → β → Prop} {q : β → γ → Prop} {r : α → γ → Prop}
    {a : Option α} {b : Option β} {c : Option γ} (h : Option.Rel p a b) (h' : Option.Rel q b c)
    (hcomp : ∀ {x y z}, p x y → q y z → r x z) : Option.Rel r a c := by
  cases h with
  | none =>
    cases h'
    exact .none
  | some hxy =>
    cases h' with
    | some hyz => exact .some (hcomp hxy hyz)

/-- What is read of a section that is summed up is **what the trees say**. -/
theorem lookup_said {members : List (String × Tree)} {trees : List Tree}
    {plains : List (String × Plain)} (h : said s sh members = .ok plains)
    (hsum : Tree.Sums s (.table members) trees) (hnames : (sh.fields.map (·.1)).Nodup)
    (hfield : sh.fields[i]? = some (key, kind)) :
    Option.Rel (fun t v => kind.read t = .ok v) (Tree.heard? s i key trees)
      (plains.lookup key) := by
  have hread : ∀ {t : Tree}, (Tree.table members).at? [s] = some t → sh.read t = .ok plains := by
    intro t ht
    rw [Tree.at?_single] at ht
    rw [said, ht] at h
    exact eq_ok_of_mapError h
  cases hsum with
  | unsaid hfirst hs =>
    rw [Tree.at?_single] at hs
    rw [said, hs] at h
    obtain rfl := Except.ok.inj h
    have hkey : Tree.inTables? s key trees = none := Tree.inTables?_eq_none
      (fun _ heq => by rw [hfirst] at heq; cases heq) key
    rw [Tree.heard?, hfirst, hkey]
    exact .none
  | @whole t ht hfirst hs =>
    have hsection := hread hs
    cases t with
    | table all => exact absurd ⟨all, rfl⟩ ht
    | list items =>
      rw [Tree.heard?, hfirst]
      exact Section.lookup_readItems hnames hfield hsection
    | _ => cases hsection
  | @keys _ all hfirst hs hkeys =>
    have hplain := Section.lookup_readMembers (Section.lookup_of_getElem? hnames hfield) (hread hs)
    rw [Tree.heard?, hfirst]
    exact rel_comp (hkeys key) hplain Kind.read_of_alike

/-- **A setting that is loaded** is what the sources say for it, or else what holds where nothing is
set. -/
theorem value?_of_load (h : load files environment = .ok settings) (hs : (s, sh) ∈ shapes)
    (hfield : sh.fields[i]? = some (key, kind)) :
    ∃ v, settings.value? s key = some v ∧
      match Tree.heard? s i key (sources files environment) with
      | some t => kind.read t = .ok v
      | none => default.value? s key = some v := by
  have hkey : (key, kind) ∈ sh.fields := List.mem_of_getElem? hfield
  have hground : default.tree.IsTable := ⟨_, rfl⟩
  have hproper : ∀ t ∈ sources files environment, t.IsTable ∧ t.Proper := fun t => sources_proper
  obtain ⟨members, hmembers⟩ := Tree.isTable_layered hground fun t ht => (hproper t ht).1
  have hsum := Tree.sums_layered hground hproper s
  have hload := ofTree?_of_load h
  rw [hmembers] at hsum hload
  obtain ⟨plains, hsaid, hvalue⟩ := value?_of_ofTree? hload hs hkey
  have hrel := lookup_said hsaid hsum (nodup_fields hs) hfield
  have hread : ∀ v, plains.lookup key = some v → kind.read v.tree = .ok v := by
    intro v hv
    rw [hv] at hrel
    generalize Tree.heard? s i key (sources files environment ++ [default.tree]) = heard at hrel
    cases hrel with
    | some hread => exact Kind.read_tree hread
  obtain ⟨w, hw, hdefault⟩ := exists_value? hs hkey default
  obtain ⟨settled, hsettled, hlookup⟩ := exists_default hs
  rw [hvalue hread]
  rcases Tree.heard?_append hsettled i key (sources files environment) with hheard | ⟨hnone, hheard⟩
  · rw [hheard] at hrel
    cases hsource : Tree.heard? s i key (sources files environment) with
    | none =>
      rw [hsource] at hrel
      rw [Tree.eq_none_of_rel_none hrel, Option.none_or]
      exact ⟨w, hw, hw⟩
    | some t =>
      rw [hsource] at hrel
      obtain ⟨v, hv, ht⟩ := Tree.exists_of_rel_some hrel
      rw [hv, Option.some_or]
      exact ⟨v, rfl, ht⟩
  · -- what holds where nothing is set is read as it is
    rw [hheard, hlookup, hw, Option.map_some] at hrel
    obtain ⟨v, hv, ht⟩ := Tree.exists_of_rel_some hrel
    obtain rfl := Except.ok.inj (hdefault.symm.trans ht)
    rw [hv, Option.some_or, hnone]
    exact ⟨w, rfl, hw⟩

/-- The sources of **the usual places**: the environment, the working directory, the user or what
users share, and the system. -/
theorem sources_places (p : Places) (environment : List (String × String)) :
    sources p.files environment = ofEnvironment environment ::
      [p.working, p.home.or p.shared, p.system].filterMap (·.bind Toml.ofText?) := by
  have hfiles : p.files.filterMap Toml.ofText? =
      [p.system, p.home.or p.shared, p.working].filterMap (·.bind Toml.ofText?) := by
    rw [Places.files, List.filterMap_filterMap]
    rfl
  rw [sources, hfiles, ← List.filterMap_reverse]
  rfl

/-- The sources of **a single file**: the environment and the file. -/
theorem exists_sources_file {file : String} (h : load [file] environment = .ok settings) :
    ∃ t, Toml.ofText? file = some t ∧
      sources [file] environment = [ofEnvironment environment, t] := by
  cases hfile : Toml.ofText? file with
  | none =>
    have hfiles : readFiles [file] = .error [⟨[], .unreadable⟩] := by
      rw [readFiles, hfile]
      rfl
    rw [load, hfiles] at h
    cases h
  | some t =>
    refine ⟨t, rfl, ?_⟩
    rw [sources, List.filterMap_cons_some hfile]
    rfl

/-! ### The environment -/

/-- The path of a variable **concerns a setting** if it leads to its section, or to the setting or
on from it. -/
def Concerns (s key : String) (path : List String) : Prop := path = [s] ∨ [s, key] <+: path

/-- A variable that does not concern a setting says nothing for it. -/
theorem atPath_silent {path : List String} (hne : path ≠ []) (h : ¬Concerns s key path) (t : Tree) :
    (Tree.atPath t path).Nests s ∧ (Tree.atPath t path).at? [s, key] = none := by
  obtain ⟨name, path, rfl⟩ := List.exists_cons_of_ne_nil hne
  have hsection : (Tree.atPath t (name :: path)).at? [s] =
      if s = name then some (Tree.atPath t path) else none := by
    rw [Tree.atPath, Tree.at?_single, Tree.lookup_member, List.lookup_nil]
  by_cases hname : s = name
  · subst hname
    rw [if_pos rfl] at hsection
    cases path with
    | nil => exact absurd (.inl rfl) h
    | cons k path =>
      have hkey : key ≠ k := by
        rintro rfl
        exact h (.inr ⟨path, rfl⟩)
      refine ⟨Tree.nests_of_table hsection, ?_⟩
      rw [Tree.at?_pair hsection, Tree.lookup_member, if_neg hkey, List.lookup_nil]
  · rw [if_neg hname] at hsection
    exact ⟨Tree.nests_of_none hsection, Tree.at?_pair_of_none hsection key⟩

/-- Variables none of which concerns a setting say nothing for it. -/
theorem variables_silent {pairs : List (String × String)}
    (h : ∀ m ∈ pairs, ∀ path, Variable.path? m.1 = some path → ¬Concerns s key path) {t : Tree}
    (ht : t ∈ pairs.filterMap Variable.tree?) : t.Nests s ∧ t.at? [s, key] = none := by
  obtain ⟨m, hm, ht⟩ := List.mem_filterMap.mp ht
  obtain ⟨path, hpath, rfl⟩ := Option.map_eq_some_iff.mp ht
  exact atPath_silent (Variable.path?_ne_nil hpath) (h m hm path hpath) _

/-- The environment is summed up from its variables, the last one first. -/
theorem sums_environment (environment : List (String × String)) (s : String) :
    Tree.Sums s (ofEnvironment environment)
      ((variableTrees environment).reverse ++ [.table []]) := by
  rw [ofEnvironment_eq]
  exact Tree.sums_layered ⟨[], rfl⟩
    (fun t ht => variableTrees_proper (List.mem_reverse.mp ht)) s

/-- **No variable for a setting**: the environment says nothing for it. -/
theorem environment_silent
    (h : ∀ m ∈ environment, ∀ path, Variable.path? m.1 = some path →
      ¬Concerns s key path) :
    (ofEnvironment environment).Nests s ∧ (ofEnvironment environment).at? [s, key] = none := by
  refine (sums_environment environment s).silent fun t ht => ?_
  rcases List.mem_append.mp ht with ht | ht
  · exact variables_silent h (List.mem_reverse.mp ht)
  · obtain rfl := List.mem_singleton.mp ht
    exact ⟨nofun, rfl⟩

/-- **A variable for a setting**: unless a later one concerns the setting too, the environment says
what the variable does. -/
theorem environment_says {earlier later : List (String × String)} {name value : String}
    (henvironment : environment = earlier ++ (name, value) :: later)
    (hpath : Variable.path? name = some [s, key])
    (hlater : ∀ m ∈ later, ∀ path, Variable.path? m.1 = some path → ¬Concerns s key path) :
    ∃ all u, (ofEnvironment environment).at? [s] = some (.table all) ∧ all.lookup key = some u ∧
      Tree.Alike (Variable.tree value) u := by
  refine (sums_environment environment s).exists_lookup ?_
  have htree : Variable.tree? (name, value) =
      some (Tree.atPath (Variable.tree value) [s, key]) := by
    rw [Variable.tree?, hpath, Option.map_some]
  have hsection : (Tree.atPath (Variable.tree value) [s, key]).at? [s] =
      some (.table [(key, Variable.tree value)]) := by
    rw [Tree.atPath, Tree.at?_single, Tree.lookup_member, if_pos rfl]
    rfl
  rw [variableTrees, henvironment, List.filterMap_append, List.filterMap_cons_some htree]
  simp only [List.reverse_append, List.reverse_cons, List.append_assoc, List.singleton_append]
  rw [Tree.inTables?_append_of_silent fun t ht =>
      variables_silent hlater (List.mem_reverse.mp ht),
    List.cons_append, Tree.inTables?_of_table hsection, Tree.lookup_member, if_pos rfl,
    Option.some_or]

/-- What the environment says for a setting of a section is **heard first**. -/
theorem heard?_sources {all : List (String × Tree)} {u : Tree}
    (hsection : (ofEnvironment environment).at? [s] = some (.table all))
    (hkey : all.lookup key = some u) (files : List String) (i : Nat) :
    Tree.heard? s i key (sources files environment) = some u := by
  have hfirst : (sources files environment).findSome? (Tree.at? [s]) = some (.table all) := by
    rw [sources, List.findSome?_cons, hsection]
  rw [Tree.heard?, hfirst, sources]
  exact (Tree.inTables?_of_table hsection key _).trans (by rw [hkey, Option.some_or])

/-! ### Precedence -/

/-- **Every setting comes from the highest source that sets it.** Let settings be loaded from files
and the environment; the files may be those of the usual places, or a single one. Then a setting has
what the sources say for it, and otherwise the value that holds where nothing is set.

If no source has something else than a table for the section, this is what the first source says
that sets the setting, the environment before the files and a later file before an earlier one. It
does not depend on anything else that the sources set. What the environment says is what the
variable of the setting does, unless a later variable concerns it too, and without such variables
the environment is passed over. -/
theorem highest_source_decides (h : load files environment = .ok settings) (hs : (s, sh) ∈ shapes)
    (hfield : sh.fields[i]? = some (key, kind)) :
    ∃ v, settings.value? s key = some v ∧
      (match Tree.heard? s i key (sources files environment) with
        | some t => kind.read t = .ok v
        | none => default.value? s key = some v) ∧
      ((∀ t ∈ sources files environment, t.Nests s) →
        (match (sources files environment).findSome? (Tree.at? [s, key]) with
          | some t => kind.read t = .ok v
          | none => default.value? s key = some v) ∧
        ∀ files' environment' settings', load files' environment' = .ok settings' →
          (∀ t ∈ sources files' environment', t.Nests s) →
          (sources files' environment').filterMap (Tree.at? [s, key]) =
            (sources files environment).filterMap (Tree.at? [s, key]) →
          settings'.value? s key = some v) ∧
      (∀ p : Places, p.files = files →
        sources files environment = ofEnvironment environment ::
          [p.working, p.home.or p.shared, p.system].filterMap (·.bind Toml.ofText?)) ∧
      (∀ file, [file] = files → ∃ t, Toml.ofText? file = some t ∧
        sources files environment = [ofEnvironment environment, t]) ∧
      (∀ earlier later name value,
        environment = earlier ++ (name, value) :: later →
        Variable.path? name = some [s, key] →
        (∀ m ∈ later, ∀ path, Variable.path? m.1 = some path → ¬Concerns s key path) →
        kind.read (Variable.tree value) = .ok v) ∧
      ((∀ m ∈ environment, ∀ path, Variable.path? m.1 = some path →
          ¬Concerns s key path) →
        (ofEnvironment environment).Nests s ∧
          (ofEnvironment environment).at? [s, key] = none) := by
  obtain ⟨v, hv, hheard⟩ := value?_of_load h hs hfield
  refine ⟨v, hv, hheard, fun hnests => ⟨?_, ?_⟩, ?_, ?_, ?_, environment_silent⟩
  · rw [Tree.heard?_eq_findSome? hnests] at hheard
    exact hheard
  · intro files' environment' settings' h' hnests' hsame
    obtain ⟨v', hv', hheard'⟩ := value?_of_load h' hs hfield
    rw [Tree.heard?_eq_findSome? hnests, ← List.head?_filterMap] at hheard
    rw [Tree.heard?_eq_findSome? hnests', ← List.head?_filterMap, hsame] at hheard'
    rw [hv']
    cases hfirst : ((sources files environment).filterMap (Tree.at? [s, key])).head? with
    | none =>
      rw [hfirst] at hheard hheard'
      exact hheard'.symm.trans hheard
    | some t =>
      rw [hfirst] at hheard hheard'
      exact congrArg some (Except.ok.inj (hheard'.symm.trans hheard))
  · rintro p rfl
    exact sources_places p environment
  · rintro file rfl
    exact exists_sources_file h
  · intro earlier later name value henvironment hpath hlater
    obtain ⟨all, u, hsection, hkey, halike⟩ := environment_says henvironment hpath hlater
    rw [heard?_sources hsection hkey] at hheard
    exact Kind.read_of_alike halike hheard

theorem exists_load (h : (load files environment).toOption.isSome = true) :
    ∃ settings, load files environment = .ok settings := by
  cases hload : load files environment with
  | error fs =>
    rw [hload] at h
    cases h
  | ok settings => exact ⟨settings, rfl⟩

/-- A file of the working directory and one of the user, which both set the port of the service. -/
def twoPorts : Places where
  working := some "[service]
port = 9191
"
  home := some "[service]
port = 9292
timeout_secs = 5
"
  shared := none
  system := none

/-- A variable for another setting of the service. -/
def oneVariable : List (String × String) := [("BOOKS_SERVICE__NAME", "shelf")]

theorem sources_twoPorts : sources twoPorts.files oneVariable =
    [.table [("service", .table [("name", .text "shelf")])],
      .table [("service", .table [("port", .signed 9191)])],
      .table [("service", .table [("port", .signed 9292), ("timeout_secs", .signed 5)])]] := by
  cbv

theorem isSome_load_twoPorts : (load twoPorts.files oneVariable).toOption.isSome = true := by
  have hfiles : readFiles twoPorts.files =
      .ok [.table [("service", .table [("port", .signed 9292), ("timeout_secs", .signed 5)])],
        .table [("service", .table [("port", .signed 9191)])]] := by cbv
  rw [load_of_readFiles hfiles, sources_twoPorts]
  cbv

/-- The port is the one of the working directory. -/
theorem highest_source_decides_port :
    ∃ settings, load twoPorts.files oneVariable = .ok settings ∧
      settings.value? "service" "port" = some (.number 9191) := by
  have hservice : ("service", Service.shape) ∈ shapes := by simp [shapes]
  have hfield : Service.shape.fields[1]? = some ("port", .word UInt16.size "u16") := rfl
  obtain ⟨settings, hsettings⟩ := exists_load isSome_load_twoPorts
  have hdecides := highest_source_decides hsettings hservice hfield
  rw [sources_twoPorts] at hdecides
  obtain ⟨v, hv, -, hnested, -⟩ := hdecides
  have hread := hnested <| by
    simp only [List.forall_mem_cons]
    exact ⟨Tree.nests_of_table rfl, Tree.nests_of_table rfl, Tree.nests_of_table rfl,
      List.forall_mem_nil _⟩
  have hport : v = .number 9191 := Except.ok.inj hread.1.symm
  exact ⟨settings, hsettings, hport ▸ hv⟩

/-- A file of the working directory that has a list for the service, and one of the user that sets
its port. -/
def listAndPort : Places where
  working := some "service = []
"
  home := some "[service]
port = 9191
"
  shared := none
  system := none

/-- **A section that is no table hides what is below.** No variable and no file of the working
directory sets the port of the service, and the file of the user does; yet the port is the one that
holds where nothing is set. -/
theorem list_hides_port :
    (listAndPort.working.bind Toml.ofText?).bind (Tree.at? ["service", "port"]) = none ∧
      (listAndPort.home.bind Toml.ofText?).bind (Tree.at? ["service", "port"]) =
        some (.signed 9191) ∧
      ∃ settings, load listAndPort.files [] = .ok settings ∧
        settings.value? "service" "port" = some (.number 8080) := by
  have hload : (load listAndPort.files []).toOption.isSome = true := by cbv
  have hport : (load listAndPort.files []).toOption.bind (·.value? "service" "port") =
      some (.number 8080) := by cbv
  obtain ⟨settings, hsettings⟩ := exists_load hload
  rw [hsettings] at hport
  exact ⟨by cbv, by cbv, settings, hsettings, hport⟩

end Settings

end Catalogue
