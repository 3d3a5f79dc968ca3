import Catalogue.Proofs.Settings.Layers
import Catalogue.Settings.Load

/-!
# What files and the environment say

Settings come from files and from variables. This file is about the trees of both: they are tables
whose names are in order (`Catalogue.Toml.ofText?_proper`,
`Catalogue.Settings.ofEnvironment_proper`), and the environment is made of its variables, each a
layer over the one before (`Catalogue.Settings.ofEnvironment_eq`).

A file is read into entries first, which know where they come from, and every step that changes
entries puts a single one in its place.
-/

namespace Catalogue

namespace Toml

open Settings (Tree)

/-! ### Entries -/

theorem trees_insert (name : String) (e : Entry) (entries : Entries) :
    trees (Tree.insert name e entries) = Tree.insert name e.tree (trees entries) := by
  induction entries with
  | nil => rfl
  | cons m entries ih =>
    obtain ⟨k, e'⟩ := m
    rw [Tree.insert, trees, Tree.insert]
    split_ifs
    · rfl
    · rfl
    · rw [trees, ih]

theorem lookup_trees (name : String) (entries : Entries) :
    (trees entries).lookup name = (entries.lookup name).map Entry.tree := by
  induction entries with
  | nil => rfl
  | cons m entries ih =>
    obtain ⟨k, e⟩ := m
    rw [trees, Tree.lookup_member, Tree.lookup_member, ih]
    split_ifs <;> rfl

/-- Entries are **neat** if they make a proper table. -/
def Neat (entries : Entries) : Prop := (Tree.table (trees entries)).Proper

theorem neat_nil : Neat [] := Tree.proper_empty

variable {entries entries' : Entries} {name key : String} {t : Tree}

/-- A proper entry is put in **neatly**. -/
theorem Neat.insert (h : Neat entries) (name : String) {e : Entry} (he : e.tree.Proper) :
    Neat (Tree.insert name e entries) := by
  rw [Neat, trees_insert]
  exact Tree.Proper.insert h name he

/-- The entries of a table among neat ones are neat. -/
theorem Neat.inner (h : Neat entries) {origin : Origin} {inner : Entries}
    (hkey : entries.lookup key = some (.table origin inner)) : Neat inner := by
  have htable : (trees entries).lookup key = some (.table (trees inner)) := by
    rw [lookup_trees, hkey, Option.map_some, Entry.tree]
  exact Tree.Proper.of_lookup h htable

/-- Tables that may be repeated are no table. -/
theorem proper_tables (newest : Entries) (older : List Entries) :
    (Entry.tables newest older).tree.Proper := by
  rw [Entry.tree]
  exact .plain nofun

/-- A table of neat entries is proper. -/
theorem Neat.table (h : Neat entries) (origin : Origin) :
    (Entry.table origin entries).tree.Proper :=
  h

/-- **Setting a value** under a path is neat. -/
theorem Neat.assign (h : Neat entries) (ht : t.Proper) {fit : Bool} {path : List String}
    (hassign : Toml.assign name t fit path entries = some entries') : Neat entries' := by
  induction path generalizing fit entries entries' with
  | nil =>
    rw [Toml.assign] at hassign
    split_ifs at hassign
    obtain rfl := Option.some.inj hassign
    exact h.insert name ht
  | cons k path ih =>
    rw [Toml.assign] at hassign
    cases hkey : entries.lookup k with
    | none =>
      rw [hkey] at hassign
      obtain ⟨inner, hinner, rfl⟩ := Option.map_eq_some_iff.mp hassign
      exact h.insert k ((ih neat_nil hinner).table .dotted)
    | some e =>
      rw [hkey] at hassign
      rcases e with _ | ⟨origin, inner⟩ | ⟨newest, older⟩
      · cases hassign
      · cases origin with
        | header => cases hassign
        | passed =>
          obtain ⟨inner', hinner, rfl⟩ := Option.map_eq_some_iff.mp hassign
          exact h.insert k ((ih (h.inner hkey) hinner).table .passed)
        | dotted =>
          obtain ⟨inner', hinner, rfl⟩ := Option.map_eq_some_iff.mp hassign
          exact h.insert k ((ih (h.inner hkey) hinner).table .dotted)
      · obtain ⟨newest', -, rfl⟩ := Option.map_eq_some_iff.mp hassign
        exact h.insert k (proper_tables newest' older)

theorem Neat.assignPath (h : Neat entries) (ht : t.Proper) {path : List String}
    (hassign : Toml.assignPath t path entries = some entries') : Neat entries' := by
  rw [Toml.assignPath] at hassign
  cases hlast : path.getLast? with
  | none =>
    rw [hlast] at hassign
    cases hassign
  | some name =>
    rw [hlast] at hassign
    exact h.assign ht hassign

/-- What is done **neatly to one table** is neat for those around it. -/
theorem Neat.within (h : Neat entries) {act : Entries → Option Entries}
    (hact : ∀ {entries entries'}, Neat entries → act entries = some entries' → Neat entries')
    {path : List String} (hwithin : Toml.within act path entries = some entries') :
    Neat entries' := by
  induction path generalizing entries entries' with
  | nil => exact hact h hwithin
  | cons k path ih =>
    rw [Toml.within] at hwithin
    cases hkey : entries.lookup k with
    | none =>
      rw [hkey] at hwithin
      obtain ⟨inner, hinner, rfl⟩ := Option.map_eq_some_iff.mp hwithin
      exact h.insert k ((ih neat_nil hinner).table .passed)
    | some e =>
      rw [hkey] at hwithin
      rcases e with _ | ⟨origin, inner⟩ | ⟨newest, older⟩
      · cases hwithin
      · obtain ⟨inner', hinner, rfl⟩ := Option.map_eq_some_iff.mp hwithin
        exact h.insert k ((ih (h.inner hkey) hinner).table origin)
      · obtain ⟨newest', -, rfl⟩ := Option.map_eq_some_iff.mp hwithin
        exact h.insert k (proper_tables newest' older)

theorem Neat.openTable (h : Neat entries) (hopen : Toml.openTable name entries = some entries') :
    Neat entries' := by
  rw [Toml.openTable] at hopen
  cases hkey : entries.lookup name with
  | none =>
    rw [hkey] at hopen
    obtain rfl := Option.some.inj hopen
    exact h.insert name (neat_nil.table .header)
  | some e =>
    rw [hkey] at hopen
    rcases e with _ | ⟨origin, inner⟩ | ⟨newest, older⟩
    · cases hopen
    · cases origin with
      | passed =>
        obtain rfl := Option.some.inj hopen
        exact h.insert name ((h.inner hkey).table .header)
      | _ => cases hopen
    · cases hopen

theorem Neat.openAnother (h : Neat entries)
    (hopen : Toml.openAnother name entries = some entries') : Neat entries' := by
  rw [Toml.openAnother] at hopen
  cases hkey : entries.lookup name with
  | none =>
    rw [hkey] at hopen
    obtain rfl := Option.some.inj hopen
    exact h.insert name (proper_tables [] [])
  | some e =>
    rw [hkey] at hopen
    rcases e with _ | _ | ⟨newest, older⟩
    · cases hopen
    · cases hopen
    · obtain rfl := Option.some.inj hopen
      exact h.insert name (proper_tables [] (newest :: older))

/-! ### Values -/

/-- A scanner **yields** only values of a kind. -/
def Yields {α : Type} (P : α → Prop) (scan : Scanner α) : Prop :=
  ∀ {cs a rest}, scan cs = some (a, rest) → P a

theorem not_isTable_fits? {n : Int} (h : fits? n = some t) : ¬t.IsTable := by
  rw [fits?] at h
  split_ifs at h
  obtain rfl := Option.some.inj h
  exact nofun

theorem special?_yields (negative : Bool) :
    Yields (fun t => ¬Tree.IsTable t) (special? negative) := by
  intro cs t rest h
  rw [special?.eq_def] at h
  split at h
  · obtain ⟨rfl, -⟩ := Prod.mk.inj (Option.some.inj h)
    exact nofun
  · obtain ⟨rfl, -⟩ := Prod.mk.inj (Option.some.inj h)
    exact nofun
  · cases h

theorem based?_yields (base : Nat) : Yields (fun t => ¬Tree.IsTable t) (based? base) := by
  intro cs t rest h
  obtain ⟨⟨ds, behind⟩, -, h⟩ := Option.bind_eq_some_iff.mp h
  obtain ⟨u, hu, h⟩ := Option.map_eq_some_iff.mp h
  obtain ⟨rfl, -⟩ := Prod.mk.inj h
  exact not_isTable_fits? hu

theorem decimal?_yields : Yields (fun t => ¬Tree.IsTable t) decimal? := by
  intro cs t rest h
  have hwhole : ∀ {n : Int} {behind : List Char}, (fits? n).map (·, behind) = some (t, rest) →
      ¬t.IsTable := by
    intro n behind h
    obtain ⟨u, hu, h⟩ := Option.map_eq_some_iff.mp h
    obtain ⟨rfl, -⟩ := Prod.mk.inj h
    exact not_isTable_fits? hu
  have hreal : ∀ {negative : Bool} {whole fraction : List Nat} {exponent : Option Int}
      {behind : List Char}, decimal?.real negative whole fraction exponent behind =
        some (t, rest) → ¬t.IsTable := by
    intro negative whole fraction exponent behind h
    rw [decimal?.real] at h
    split at h
    · cases h
    · obtain ⟨rfl, -⟩ := Prod.mk.inj (Option.some.inj h)
      exact nofun
  rw [decimal?.eq_def] at h
  simp only at h
  split at h
  · cases h
  · split at h
    · exact hwhole h
    · split at h
      · exact hwhole h
      · exact hwhole h
      · exact hreal h
      · exact hreal h

/-- **A number** is no table. -/
theorem number?_yields : Yields (fun t => ¬Tree.IsTable t) number? := by
  intro cs t rest h
  rw [number?.eq_def] at h
  split at h
  · exact based?_yields 16 h
  · exact based?_yields 8 h
  · exact based?_yields 2 h
  · simp only at h
    split at h
    · rename_i hspecial
      exact special?_yields _ (hspecial.trans h)
    · exact decimal?_yields h

theorem string?_text {cs : List Char} {rest : List Char}
    (h : (string? cs).map (fun (s, rest) => (Tree.text s, rest)) = some (t, rest)) : t.Proper := by
  obtain ⟨⟨s, behind⟩, -, h⟩ := Option.map_eq_some_iff.mp h
  obtain ⟨rfl, -⟩ := Prod.mk.inj h
  exact .plain nofun

/-- **A date** is a table of one name. -/
theorem date?_yields : Yields Tree.Proper date? := by
  intro cs t rest h
  obtain ⟨behind, -, h⟩ := Option.map_eq_some_iff.mp h
  obtain ⟨rfl, -⟩ := Prod.mk.inj h
  exact Tree.proper_single dateName (.plain nofun)

/-- The value behind an equals sign is of the kind of values. -/
theorem pair?_yields {value : Scanner Tree} (hvalue : Yields Tree.Proper value) :
    Yields (fun pair : List String × Tree => pair.2.Proper) (pair? value) := by
  intro cs pair rest h
  rw [pair?.eq_def] at h
  split at h
  · obtain ⟨⟨u, behind⟩, hu, h⟩ := Option.map_eq_some_iff.mp h
    obtain ⟨rfl, -⟩ := Prod.mk.inj h
    exact hvalue hu
  · cases h

/-- The members of a table on one line are neat if **their values are proper**. -/
theorem pairs?_yields {value : Scanner Tree} (hvalue : Yields Tree.Proper value) {fuel : Nat}
    {out : Entries} (hout : Neat out) : Yields Neat (pairs? value fuel out) := by
  intro cs entries rest h
  induction fuel generalizing out cs with
  | zero => cases h
  | succ fuel ih =>
    rw [pairs?.eq_def] at h
    simp only at h
    split at h
    · cases h
    · rename_i path t behind hpair
      have ht : t.Proper := pair?_yields hvalue hpair
      split at h
      · rename_i hassign
        exact ih (hout.assignPath ht hassign) h
      · rename_i hassign
        obtain ⟨rfl, -⟩ := Prod.mk.inj (Option.some.inj h)
        exact hout.assignPath ht hassign
      · cases h

/-- A value that has no parts is proper. -/
theorem proper_word {cs rest : List Char}
    (h : (match Text.past? ['t', 'r', 'u', 'e'] cs with
      | some rest => some (Tree.boolean true, rest)
      | none =>
        match Text.past? ['f', 'a', 'l', 's', 'e'] cs with
        | some rest => some (Tree.boolean false, rest)
        | none => (date? cs).or (number? cs)) = some (t, rest)) : t.Proper := by
  split at h
  · obtain ⟨rfl, -⟩ := Prod.mk.inj (Option.some.inj h)
    exact .plain nofun
  · split at h
    · obtain ⟨rfl, -⟩ := Prod.mk.inj (Option.some.inj h)
      exact .plain nofun
    · rcases Option.or_eq_some_iff.mp h with h | ⟨-, h⟩
      · exact date?_yields h
      · exact .plain (number?_yields h)

/-- **A value** is proper, however deep it may be. -/
theorem value?_yields (room : Nat) : Yields Tree.Proper (value? room) := by
  induction room with
  | zero =>
    intro cs t rest h
    cases cs with
    | nil => cases h
    | cons c cs =>
      rw [value?] at h
      split_ifs at h
      · exact string?_text h
      · exact proper_word h
  | succ room ih =>
    intro cs t rest h
    cases cs with
    | nil => cases h
    | cons c cs =>
      rw [value?] at h
      split_ifs at h
      · exact string?_text h
      · obtain ⟨⟨items, behind⟩, -, h⟩ := Option.map_eq_some_iff.mp h
        obtain ⟨rfl, -⟩ := Prod.mk.inj h
        exact .plain nofun
      · simp only at h
        split at h
        · obtain ⟨rfl, -⟩ := Prod.mk.inj (Option.some.inj h)
          exact Tree.proper_empty
        · obtain ⟨⟨entries, behind⟩, hpairs, h⟩ := Option.map_eq_some_iff.mp h
          obtain ⟨rfl, -⟩ := Prod.mk.inj h
          exact pairs?_yields ih neat_nil hpairs
      · exact proper_word h

/-! ### Files -/

/-- Both kinds of headers open a table in the same way. -/
theorem Draft.neat_opened {d d' : Draft} (hd : Neat d.root)
    {act : String → Entries → Option Entries}
    (hact : ∀ {name entries entries'}, Neat entries → act name entries = some entries' →
      Neat entries')
    {path : List String} {cs rest : List Char}
    (h : ((match path.getLast? with
      | none => none
      | some name => (within (act name) path.dropLast d.root).map (Draft.mk path)).bind fun d =>
        (finishLine? cs).map (d, ·)) = some (d', rest)) : Neat d'.root := by
  obtain ⟨d₁, hd₁, h⟩ := Option.bind_eq_some_iff.mp h
  obtain ⟨behind, -, h⟩ := Option.map_eq_some_iff.mp h
  obtain ⟨rfl, -⟩ := Prod.mk.inj h
  split at hd₁
  · cases hd₁
  · obtain ⟨root, hroot, rfl⟩ := Option.map_eq_some_iff.mp hd₁
    exact hd.within hact hroot

/-- **A header** keeps a file neat. -/
theorem Draft.header?_neat {d d' : Draft} (hd : Neat d.root) {cs rest : List Char}
    (h : d.header? cs = some (d', rest)) : Neat d'.root := by
  rw [Draft.header?.eq_def] at h
  simp only at h
  split at h
  · split at h
    · exact Draft.neat_opened hd Neat.openAnother h
    · cases h
  · split at h
    · exact Draft.neat_opened hd Neat.openTable h
    · cases h

/-- **A setting** keeps a file neat. -/
theorem Draft.setting?_neat {d d' : Draft} (hd : Neat d.root) {cs rest : List Char}
    (h : d.setting? cs = some (d', rest)) : Neat d'.root := by
  rw [Draft.setting?.eq_def] at h
  split at h
  · cases h
  · rename_i path t behind hpair
    have ht : t.Proper := pair?_yields (value?_yields limit) hpair
    obtain ⟨root, hroot, h⟩ := Option.bind_eq_some_iff.mp h
    obtain ⟨_, -, h⟩ := Option.map_eq_some_iff.mp h
    obtain ⟨rfl, -⟩ := Prod.mk.inj h
    exact hd.within (fun h hassign => h.assignPath ht hassign) hroot

/-- **Lines** keep a file neat. -/
theorem Draft.lines?_neat {fuel : Nat} {d d' : Draft} (hd : Neat d.root) {cs : List Char}
    (h : Draft.lines? fuel d cs = some d') : Neat d'.root := by
  induction fuel generalizing d cs with
  | zero => cases h
  | succ fuel ih =>
    rw [Draft.lines?.eq_def] at h
    simp only at h
    split at h
    · exact Option.some.inj h ▸ hd
    · split at h
      · rename_i hheader
        exact ih (Draft.header?_neat hd hheader) h
      · cases h
    · split at h
      · split at h
        · exact ih hd h
        · cases h
      · split at h
        · rename_i hsetting
          exact ih (Draft.setting?_neat hd hsetting) h
        · cases h

/-- **What a file says** is a proper table. -/
theorem ofText?_proper {file : String} (h : ofText? file = some t) : t.IsTable ∧ t.Proper := by
  obtain ⟨d, hd, rfl⟩ := Option.map_eq_some_iff.mp h
  exact ⟨⟨_, rfl⟩, Draft.lines?_neat neat_nil hd⟩

end Toml

namespace Settings

open Toml (Yields)

/-! ### Variables -/

namespace Variable

/-- **Things with commas between them** are all of the kind of their items. -/
theorem series?_yields {α : Type} {P : α → Prop} {item : Toml.Scanner α} (hitem : Yields P item)
    {close : Char} {fuel : Nat} {out : List α} (hout : ∀ a ∈ out, P a) :
    Yields (fun items => ∀ a ∈ items, P a) (series? item close fuel out) := by
  intro cs items rest h
  induction fuel generalizing out cs with
  | zero => cases h
  | succ fuel ih =>
    rw [series?.eq_def] at h
    simp only at h
    split at h
    · obtain ⟨rfl, -⟩ := Prod.mk.inj (Option.some.inj h)
      simpa only [List.mem_reverse] using hout
    · split at h
      · rename_i a c behind ha
        have hout' : ∀ b ∈ a :: out, P b := List.forall_mem_cons.mpr ⟨hitem ha, hout⟩
        split_ifs at h
        · exact ih hout' h
        · obtain ⟨rfl, -⟩ := Prod.mk.inj (Option.some.inj h)
          simpa only [List.mem_reverse] using hout'
      · cases h

theorem proper_behind_name {value : Toml.Scanner Tree} (hvalue : Yields Tree.Proper value)
    {name? : Option (String × List Char)} {pair : String × Tree} {rest : List Char}
    (h : (match name? with
      | none => none
      | some (name, rest) =>
        match skipSpace rest with
        | '=' :: rest => (value rest).map fun (t, rest) => ((name, t), rest)
        | _ => none) = some (pair, rest)) : pair.2.Proper := by
  split at h
  · cases h
  · split at h
    · obtain ⟨⟨u, behind⟩, hu, h⟩ := Option.map_eq_some_iff.mp h
      obtain ⟨rfl, -⟩ := Prod.mk.inj h
      exact hvalue hu
    · cases h

/-- The value behind a name is of the kind of values. -/
theorem pair?_yields {value : Toml.Scanner Tree} (hvalue : Yields Tree.Proper value) :
    Yields (fun pair : String × Tree => pair.2.Proper) (pair? value) := by
  intro cs pair rest h
  rw [pair?.eq_def] at h
  split at h
  · exact proper_behind_name hvalue h
  · exact proper_behind_name hvalue h

theorem not_isTable_word (cs : List Char) : ¬(word cs).IsTable := by
  rw [word]
  split
  · exact nofun
  · split
    · exact nofun
    · split
      · exact nofun
      · exact nofun

/-- **A value in the environment** is proper. -/
theorem value?_yields (fuel : Nat) : Yields Tree.Proper (value? fuel) := by
  induction fuel with
  | zero =>
    intro cs t rest h
    cases h
  | succ fuel ih =>
    intro cs t rest h
    rw [value?.eq_def] at h
    simp only at h
    split at h
    · obtain ⟨rfl, -⟩ := Prod.mk.inj (Option.some.inj h)
      exact .plain nofun
    · obtain ⟨rfl, -⟩ := Prod.mk.inj (Option.some.inj h)
      exact .plain nofun
    · split_ifs at h
      · obtain ⟨⟨members, behind⟩, hmembers, h⟩ := Option.map_eq_some_iff.mp h
        obtain ⟨rfl, -⟩ := Prod.mk.inj h
        exact Tree.proper_ofPairs
          (series?_yields (pair?_yields ih) (fun _ hm => absurd hm List.not_mem_nil) hmembers)
      · obtain ⟨⟨items, behind⟩, -, h⟩ := Option.map_eq_some_iff.mp h
        obtain ⟨rfl, -⟩ := Prod.mk.inj h
        exact .plain nofun
      · obtain ⟨⟨s, behind⟩, -, h⟩ := Option.map_eq_some_iff.mp h
        obtain ⟨rfl, -⟩ := Prod.mk.inj h
        exact .plain nofun
      · obtain ⟨⟨s, behind⟩, -, h⟩ := Option.map_eq_some_iff.mp h
        obtain ⟨rfl, -⟩ := Prod.mk.inj h
        exact .plain nofun
      · obtain ⟨rfl, -⟩ := Prod.mk.inj (Option.some.inj h)
        exact .plain (not_isTable_word _)
    · obtain ⟨rfl, -⟩ := Prod.mk.inj (Option.some.inj h)
      exact .plain nofun

theorem tree_proper (value : String) : (tree value).Proper := by
  rw [tree]
  split
  · rename_i t hvalue
    exact value?_yields _ hvalue
  · exact .plain nofun

/-- A variable has a name on its path. -/
theorem path?_ne_nil {name : String} {path : List String} (h : path? name = some path) :
    path ≠ [] := by
  rw [path?] at h
  simp only at h
  split at h
  · cases h
  · split_ifs at h
    obtain rfl := Option.some.inj h
    refine List.map_eq_nil_iff.not.mpr fun hnil => ?_
    have hlength := congrArg List.length hnil
    rw [Text.length_split] at hlength
    exact absurd hlength (Nat.succ_ne_zero _)

end Variable

/-! ### The environment -/

/-- What **a variable** says, by its name and its value; nothing if it is not meant for the
service. -/
def Variable.tree? (m : String × String) : Option Tree :=
  (path? m.1).map (Tree.atPath (tree m.2))

/-- What **all variables** say, in their order. -/
def variableTrees (environment : List (String × String)) : List Tree :=
  environment.filterMap Variable.tree?

theorem Tree.proper_atPath {t : Tree} (h : t.Proper) (path : List String) :
    (Tree.atPath t path).Proper := by
  induction path with
  | nil => exact h
  | cons name path ih => exact Tree.proper_single name ih

/-- A variable says a proper table. -/
theorem variableTrees_proper {environment : List (String × String)} {t : Tree}
    (h : t ∈ variableTrees environment) : t.IsTable ∧ t.Proper := by
  obtain ⟨m, -, h⟩ := List.mem_filterMap.mp h
  obtain ⟨path, hpath, rfl⟩ := Option.map_eq_some_iff.mp h
  refine ⟨?_, Tree.proper_atPath (Variable.tree_proper m.2) path⟩
  obtain ⟨key, path, rfl⟩ := List.exists_cons_of_ne_nil (Variable.path?_ne_nil hpath)
  exact ⟨_, rfl⟩

/-- **The environment is made of its variables**, the last one on top. -/
theorem ofEnvironment_eq (environment : List (String × String)) :
    ofEnvironment environment = Tree.layered (.table []) (variableTrees environment).reverse := by
  rw [← Tree.foldl_merge_eq_layered, variableTrees, List.foldl_filterMap, ofEnvironment]
  congr 1
  funext t m
  rw [Variable.tree?]
  cases hpath : Variable.path? m.1 <;> simp only [hpath, Option.map_none, Option.map_some]

theorem ofEnvironment_proper (environment : List (String × String)) :
    (ofEnvironment environment).IsTable ∧ (ofEnvironment environment).Proper := by
  rw [ofEnvironment_eq]
  have htrees : ∀ t ∈ (variableTrees environment).reverse, t.IsTable ∧ t.Proper := fun t ht =>
    variableTrees_proper (List.mem_reverse.mp ht)
  exact ⟨Tree.isTable_layered ⟨[], rfl⟩ fun t ht => (htrees t ht).1,
    Tree.proper_layered Tree.proper_empty fun t ht => (htrees t ht).2⟩

end Settings

end Catalogue
