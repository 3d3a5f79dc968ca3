import Catalogue.Settings.Tree
import Mathlib.Data.List.Basic
import Mathlib.Data.Option.Basic
import Mathlib.Tactic.SplitIfs

/-!
# Trees of settings in layers

Several trees of settings are laid over one another (`Catalogue.Settings.Tree.layered`), and this
file says what one section of the result is in terms of the same section of each of them
(`Catalogue.Settings.Tree.sums_layered`).

Three things may be the case. No tree has the section. Or the highest tree that has it has something
else than a table, and then the section is just that. Or it has a table, and then the section is a
table too. Such a table is made of what the trees say for each key, from the highest one on
(`Catalogue.Settings.Tree.inTables?`): a tree without the section is passed over, and one that has
something else than a table for it hides those below.

Laying trees over one another is a loop over members and does what it should for tables whose names
are in order (`Catalogue.Settings.Tree.Proper`), as they are in all trees that are read
(`Catalogue.Settings.Tree.Proper.merge` is the step of that). A key that has a table of its own need
not stand for the same in the result, because tables are merged; but it stands for a table still
(`Catalogue.Settings.Tree.Alike`).
-/

namespace Catalogue

namespace Settings

namespace Tree

/-! ### Parts of a tree -/

/-- What stands **at a path** in a tree. -/
def at? : List String → Tree → Option Tree
  | [], t => some t
  | name :: path, .table members => (members.lookup name).bind (at? path)
  | _ :: _, _ => none

/-- A tree **is a table**. -/
def IsTable (t : Tree) : Prop := ∃ members, t = .table members

/-- A tree is **proper** if the names in each of its tables are in order, none of them twice. -/
inductive Proper : Tree → Prop
  /-- What is no table has no names. -/
  | plain {t : Tree} (h : ¬t.IsTable) : Proper t
  /-- A table has its names in order, and proper trees for them. -/
  | table {members : List (String × Tree)} (hnames : (members.map (·.1)).Pairwise (· < ·))
    (h : ∀ m ∈ members, Proper m.2) : Proper (.table members)

/-- Two trees are **the same, or both are tables**. -/
def Alike (t u : Tree) : Prop := u = t ∨ t.IsTable ∧ u.IsTable

variable {s key : String} {t u : Tree} {members old : List (String × Tree)}

@[simp] theorem at?_single (s : String) (members : List (String × Tree)) :
    (table members).at? [s] = members.lookup s := by
  rw [at?]
  cases members.lookup s <;> rfl

/-- What is at a key of a section, where the section is a table. -/
theorem at?_pair (h : t.at? [s] = some (.table members)) (key : String) :
    t.at? [s, key] = members.lookup key := by
  cases t with
  | table sections =>
    rw [at?_single] at h
    rw [at?, h, Option.bind_some, at?_single]
  | _ => cases h

/-- Where there is no section there is no key in it. -/
theorem at?_pair_of_none (h : t.at? [s] = none) (key : String) : t.at? [s, key] = none := by
  cases t with
  | table sections =>
    rw [at?_single] at h
    rw [at?, h, Option.bind_none]
  | _ => rfl

theorem mem_of_lookup {α : Type} {name : String} {a : α} {pairs : List (String × α)}
    (h : pairs.lookup name = some a) : (name, a) ∈ pairs := by
  obtain ⟨before, behind, rfl, -⟩ := List.lookup_eq_some_iff.mp h
  exact List.mem_append_right before List.mem_cons_self

theorem lookup_eq_none_of_notMem {α : Type} {name : String} {pairs : List (String × α)}
    (h : name ∉ pairs.map (·.1)) : pairs.lookup name = none := by
  rw [Option.eq_none_iff_forall_ne_some]
  exact fun a ha => h (List.mem_map.mpr ⟨_, mem_of_lookup ha, rfl⟩)

namespace Proper

theorem names (h : (Tree.table members).Proper) : (members.map (·.1)).Pairwise (· < ·) := by
  cases h with
  | plain h => exact absurd ⟨members, rfl⟩ h
  | table h _ => exact h

theorem of_mem (h : (Tree.table members).Proper) {m : String × Tree} (hm : m ∈ members) :
    m.2.Proper := by
  cases h with
  | plain h => exact absurd ⟨members, rfl⟩ h
  | table _ h => exact h m hm

/-- What a proper table has for a name is proper. -/
theorem of_lookup (h : (Tree.table members).Proper) (hkey : members.lookup key = some t) :
    t.Proper :=
  h.of_mem (mem_of_lookup hkey)

/-- What a proper tree has in place of a section is proper. -/
theorem of_at? (h : t.Proper) (hs : t.at? [s] = some u) : u.Proper := by
  cases t with
  | table sections => exact h.of_lookup (by rwa [at?_single] at hs)
  | _ => cases hs

end Proper

/-! ### Putting members in -/

theorem mem_map_insert {α : Type} {name k : String} {a : α} {pairs : List (String × α)}
    (h : k ∈ (insert name a pairs).map (·.1)) : k = name ∨ k ∈ pairs.map (·.1) := by
  induction pairs with
  | nil => exact .inl (List.mem_singleton.mp h)
  | cons m pairs ih =>
    rw [insert] at h
    split_ifs at h with hlt heq
    · exact List.mem_cons.mp h
    · exact (List.mem_cons.mp h).imp_right (List.mem_cons_of_mem _)
    · rcases List.mem_cons.mp h with rfl | hmem
      · exact .inr List.mem_cons_self
      · exact (ih hmem).imp_right (List.mem_cons_of_mem _)

/-- **Names stay in order** when a member is put in. -/
theorem pairwise_insert {α : Type} (name : String) (a : α) {pairs : List (String × α)}
    (h : (pairs.map (·.1)).Pairwise (· < ·)) :
    ((insert name a pairs).map (·.1)).Pairwise (· < ·) := by
  induction pairs with
  | nil => exact List.pairwise_singleton _ name
  | cons m pairs ih =>
    obtain ⟨k, b⟩ := m
    rw [List.map_cons, List.pairwise_cons] at h
    rw [insert]
    split_ifs with hlt heq
    · refine List.pairwise_cons.mpr ⟨fun k' hk' => ?_, List.pairwise_cons.mpr h⟩
      rcases List.mem_cons.mp hk' with rfl | hmem
      · exact hlt
      · exact String.lt_trans hlt (h.1 k' hmem)
    · exact List.pairwise_cons.mpr ⟨fun k' hk' => heq ▸ h.1 k' hk', h.2⟩
    · refine List.pairwise_cons.mpr ⟨fun k' hk' => ?_, ih h.2⟩
      rcases mem_map_insert hk' with rfl | hmem
      · refine Decidable.of_not_not fun hnot => heq ?_
        exact String.le_antisymm (String.not_lt.mp hnot) (String.not_lt.mp hlt)
      · exact h.1 k' hmem

theorem mem_insert {α : Type} {name : String} {a : α} {pairs : List (String × α)}
    {m : String × α} (h : m ∈ insert name a pairs) : m = (name, a) ∨ m ∈ pairs := by
  induction pairs with
  | nil => exact .inl (List.mem_singleton.mp h)
  | cons m' pairs ih =>
    rw [insert] at h
    split_ifs at h with hlt heq
    · exact List.mem_cons.mp h
    · exact (List.mem_cons.mp h).imp_right (List.mem_cons_of_mem _)
    · rcases List.mem_cons.mp h with rfl | hmem
      · exact .inr List.mem_cons_self
      · exact (ih hmem).imp_right (List.mem_cons_of_mem _)

/-- A proper table stays proper when a proper tree is **put in**. -/
theorem Proper.insert (h : (Tree.table members).Proper) (name : String) (ht : t.Proper) :
    (Tree.table (Tree.insert name t members)).Proper := by
  refine .table (pairwise_insert name t h.names) fun m hm => ?_
  rcases mem_insert hm with rfl | hm
  · exact ht
  · exact h.of_mem hm

theorem proper_empty : (table []).Proper := .table .nil fun _ hm => absurd hm List.not_mem_nil

theorem proper_single (name : String) (h : t.Proper) : (table [(name, t)]).Proper :=
  proper_empty.insert name h

/-- Members that are put in one after the other make a **proper table**. -/
theorem proper_ofPairs {pairs : List (String × Tree)} (h : ∀ m ∈ pairs, m.2.Proper) :
    (table (ofPairs pairs)).Proper := by
  suffices hall : ∀ members, (table members).Proper →
      (table (pairs.foldl (fun members (name, t) => insert name t members) members)).Proper from
    hall [] proper_empty
  induction pairs with
  | nil => exact fun members hmembers => hmembers
  | cons m pairs ih =>
    rw [List.forall_mem_cons] at h
    exact fun members hmembers => ih h.2 _ (hmembers.insert m.1 h.1)

/-! ### Two layers -/

theorem merge_of_not_isTable (h : ¬u.IsTable) (t : Tree) : merge t u = u := by
  cases u with
  | table members => exact absurd ⟨members, rfl⟩ h
  | _ => rfl

theorem merge_table (members : List (String × Tree)) (t : Tree) :
    (merge t (.table members)).IsTable := by
  cases t <;> exact ⟨_, rfl⟩

/-- A tree laid over another **stays alike**. -/
theorem alike_merge (t u : Tree) : Alike u (merge t u) := by
  cases u with
  | table members => exact .inr ⟨⟨members, rfl⟩, merge_table members t⟩
  | _ => exact .inl rfl

/-- What stands for a name where **two layers** have it. -/
def overlay (below : Option Tree) (above : Tree) : Tree :=
  match below with
  | some u => merge u above
  | none => above

theorem alike_overlay (below : Option Tree) (above : Tree) : Alike above (overlay below above) := by
  cases below with
  | none => exact .inl rfl
  | some u => exact alike_merge u above

theorem mergeMembers_cons (old : List (String × Tree)) (name : String) (t : Tree)
    (members : List (String × Tree)) :
    mergeMembers old ((name, t) :: members) =
      mergeMembers (insert name (overlay (old.lookup name) t) old) members := by
  rw [mergeMembers]
  cases old.lookup name <;> rfl

/-- **Tables are laid over one another name by name.** -/
theorem lookup_mergeMembers (h : (members.map (·.1)).Pairwise (· < ·)) (old : List (String × Tree))
    (key : String) :
    (mergeMembers old members).lookup key =
      match members.lookup key with
      | none => old.lookup key
      | some t => some (overlay (old.lookup key) t) := by
  induction members generalizing old with
  | nil => rw [mergeMembers, List.lookup_nil]
  | cons m members ih =>
    obtain ⟨name, t⟩ := m
    rw [List.map_cons, List.pairwise_cons] at h
    rw [mergeMembers_cons, ih h.2, lookup_insert, lookup_member]
    by_cases hkey : key = name
    · -- the name does not come again
      have hnot : name ∉ members.map (·.1) := fun hmem => String.lt_irrefl name (h.1 name hmem)
      subst hkey
      simp only [lookup_eq_none_of_notMem hnot, if_true]
    · simp only [if_neg hkey]

/-- **A section of two layers.** -/
theorem at?_merge (ht : t.IsTable) (hu : u.IsTable) (h : u.Proper) (s : String) :
    (merge t u).at? [s] =
      match u.at? [s] with
      | none => t.at? [s]
      | some above => some (overlay (t.at? [s]) above) := by
  obtain ⟨old, rfl⟩ := ht
  obtain ⟨members, rfl⟩ := hu
  simp only [merge, at?_single, lookup_mergeMembers h.names]

/-- Members that stay proper when they are laid over proper trees make a **proper table**. -/
theorem Proper.mergeMembers (hold : (Tree.table old).Proper)
    (h : ∀ m ∈ members, m.2.Proper ∧ ∀ t : Tree, t.Proper → (Tree.merge t m.2).Proper) :
    (Tree.table (Tree.mergeMembers old members)).Proper := by
  induction members generalizing old with
  | nil => rwa [Tree.mergeMembers]
  | cons m members ih =>
    obtain ⟨name, u⟩ := m
    rw [List.forall_mem_cons] at h
    have hoverlay : (overlay (old.lookup name) u).Proper := by
      cases hbelow : old.lookup name with
      | none => exact h.1.1
      | some t => exact h.1.2 t (hold.of_lookup hbelow)
    rw [mergeMembers_cons]
    exact ih (hold.insert name hoverlay) h.2

/-- **Proper trees make proper layers.** -/
theorem Proper.merge (ht : t.Proper) (hu : u.Proper) : (Tree.merge t u).Proper := by
  induction hu generalizing t with
  | plain h =>
    rw [merge_of_not_isTable h]
    exact .plain h
  | @table members hnames hmembers ih =>
    cases t with
    | table old => exact ht.mergeMembers fun m hm => ⟨hmembers m hm, fun t ht => ih m hm ht⟩
    | _ => exact .table hnames hmembers

/-! ### Many layers -/

/-- Trees **laid over one another**, the highest first, and all of them over a ground. -/
def layered (ground : Tree) : List Tree → Tree
  | [] => ground
  | t :: rest => merge (layered ground rest) t

/-- What trees say **for a key of a section** as long as they have tables there, the highest tree
first. A tree that has something else there hides those below it. -/
def inTables? (s key : String) : List Tree → Option Tree
  | [] => none
  | t :: rest =>
    match t.at? [s] with
    | none => inTables? s key rest
    | some (.table members) => (members.lookup key).or (inTables? s key rest)
    | some _ => none

theorem inTables?_of_none (h : t.at? [s] = none) (key : String) (trees : List Tree) :
    inTables? s key (t :: trees) = inTables? s key trees := by
  rw [inTables?, h]

theorem inTables?_of_table (h : t.at? [s] = some (.table members)) (key : String)
    (trees : List Tree) :
    inTables? s key (t :: trees) = (members.lookup key).or (inTables? s key trees) := by
  rw [inTables?, h]

theorem inTables?_of_not_isTable (h : t.at? [s] = some u) (hu : ¬u.IsTable) (key : String)
    (trees : List Tree) : inTables? s key (t :: trees) = none := by
  rw [inTables?, h]
  cases u with
  | table members => exact absurd ⟨members, rfl⟩ hu
  | _ => rfl

/-- A tree **sums up** a section of others, the highest first: it has the section if one of them
has. The section is what the first of these has, if that is no table, and otherwise a table of what
they say for each key. -/
inductive Sums (s : String) (sum : Tree) (trees : List Tree) : Prop
  /-- No tree has the section. -/
  | unsaid (hfirst : trees.findSome? (at? [s]) = none) (hsum : sum.at? [s] = none)
  /-- The first tree that has it has no table there. -/
  | whole {t : Tree} (ht : ¬t.IsTable) (hfirst : trees.findSome? (at? [s]) = some t)
    (hsum : sum.at? [s] = some t)
  /-- The first tree that has it has a table there. -/
  | keys {members all : List (String × Tree)}
    (hfirst : trees.findSome? (at? [s]) = some (.table members))
    (hsum : sum.at? [s] = some (.table all))
    (hkeys : ∀ key, Option.Rel Alike (inTables? s key trees) (all.lookup key))

/-- Nothing is said for a key unless a **table comes first**. -/
theorem inTables?_eq_none {trees : List Tree}
    (h : ∀ members, trees.findSome? (at? [s]) ≠ some (.table members)) (key : String) :
    inTables? s key trees = none := by
  induction trees with
  | nil => rfl
  | cons t trees ih =>
    cases hs : t.at? [s] with
    | none =>
      rw [inTables?_of_none hs]
      exact ih fun members hfirst => h members (by rw [List.findSome?_cons, hs, hfirst])
    | some u =>
      refine inTables?_of_not_isTable hs ?_ key trees
      rintro ⟨members, rfl⟩
      exact h members (by rw [List.findSome?_cons, hs])

theorem exists_of_rel_some {α β : Type} {r : α → β → Prop} {a : α} {o : Option β}
    (h : Option.Rel r (some a) o) : ∃ b, o = some b ∧ r a b := by
  cases h with
  | some hab => exact ⟨_, rfl, hab⟩

theorem eq_none_of_rel_none {α β : Type} {r : α → β → Prop} {o : Option β}
    (h : Option.Rel r none o) : o = none := by
  cases h
  rfl

theorem rel_alike_refl (o : Option Tree) : Option.Rel Alike o o := by
  cases o with
  | none => exact .none
  | some t => exact .some (.inl rfl)

/-- A tree sums up itself. -/
theorem Sums.refl (s : String) (t : Tree) : Sums s t [t] := by
  cases hs : t.at? [s] with
  | none => exact .unsaid (by rw [List.findSome?_cons, hs, List.findSome?_nil]) hs
  | some u =>
    have hfirst : [t].findSome? (at? [s]) = some u := by rw [List.findSome?_cons, hs]
    by_cases hu : u.IsTable
    · obtain ⟨members, rfl⟩ := hu
      refine .keys hfirst hs fun key => ?_
      rw [inTables?_of_table hs, inTables?, Option.or_none]
      exact rel_alike_refl _
    · exact .whole hu hfirst hs

/-- A tree that does not have the section adds **nothing** to it. -/
theorem Sums.merge_of_none {sum : Tree} {trees : List Tree} (h : Sums s sum trees)
    (hs : t.at? [s] = none) (hmerge : (Tree.merge sum t).at? [s] = sum.at? [s]) :
    Sums s (Tree.merge sum t) (t :: trees) := by
  have hskip : (t :: trees).findSome? (at? [s]) = trees.findSome? (at? [s]) := by
    rw [List.findSome?_cons, hs]
  cases h with
  | unsaid hfirst hsum => exact .unsaid (hskip.trans hfirst) (hmerge.trans hsum)
  | whole ht hfirst hsum => exact .whole ht (hskip.trans hfirst) (hmerge.trans hsum)
  | keys hfirst hsum hkeys =>
    refine .keys (hskip.trans hfirst) (hmerge.trans hsum) fun key => ?_
    rw [inTables?_of_none hs]
    exact hkeys key

/-- A tree that has a table for the section is asked **for each key first**. -/
theorem Sums.merge_of_table {sum : Tree} {trees : List Tree} (h : Sums s sum trees)
    (hs : t.at? [s] = some (.table members)) (hproper : (Tree.table members).Proper)
    (hmerge : (Tree.merge sum t).at? [s] = some (overlay (sum.at? [s]) (.table members))) :
    Sums s (Tree.merge sum t) (t :: trees) := by
  have hfirst : (t :: trees).findSome? (at? [s]) = some (.table members) := by
    rw [List.findSome?_cons, hs]
  -- where nothing below counts, the section is the table of this tree
  have halone : (∀ key, inTables? s key trees = none) →
      overlay (sum.at? [s]) (.table members) = .table members →
      Sums s (Tree.merge sum t) (t :: trees) := by
    intro hbelow hoverlay
    refine .keys hfirst (hmerge.trans (congrArg some hoverlay)) fun key => ?_
    rw [inTables?_of_table hs, hbelow, Option.or_none]
    exact rel_alike_refl _
  cases h with
  | unsaid hbelow hsum =>
    refine halone (inTables?_eq_none fun _ heq => ?_) (by rw [hsum]; rfl)
    rw [hbelow] at heq
    cases heq
  | @whole u hu hbelow hsum =>
    refine halone (inTables?_eq_none fun all heq => hu ⟨all, ?_⟩) ?_
    · exact Option.some.inj (hbelow.symm.trans heq)
    · rw [hsum]
      cases u with
      | table all => exact absurd ⟨all, rfl⟩ hu
      | _ => rfl
  | @keys _ all _ hsum hkeys =>
    have hoverlay : overlay (sum.at? [s]) (.table members) = .table (mergeMembers all members) := by
      rw [hsum]
      rfl
    refine .keys hfirst (hmerge.trans (congrArg some hoverlay)) fun key => ?_
    rw [inTables?_of_table hs, lookup_mergeMembers hproper.names]
    cases members.lookup key with
    | none => exact hkeys key
    | some v => exact .some (alike_overlay _ v)

/-- **One more layer is summed up.** -/
theorem Sums.merge {sum : Tree} {trees : List Tree} (h : Sums s sum trees) (hsum : sum.IsTable)
    (ht : t.IsTable) (hproper : t.Proper) : Sums s (Tree.merge sum t) (t :: trees) := by
  have hmerge := at?_merge hsum ht hproper s
  cases hs : t.at? [s] with
  | none =>
    rw [hs] at hmerge
    exact h.merge_of_none hs hmerge
  | some u =>
    rw [hs] at hmerge
    by_cases hu : u.IsTable
    · obtain ⟨members, rfl⟩ := hu
      exact h.merge_of_table hs (hproper.of_at? hs) hmerge
    · have hoverlay : overlay (sum.at? [s]) u = u := by
        cases sum.at? [s] with
        | none => rfl
        | some below => exact merge_of_not_isTable hu below
      exact .whole hu (by rw [List.findSome?_cons, hs]) (hmerge.trans (congrArg some hoverlay))

theorem isTable_layered {ground : Tree} (hground : ground.IsTable) {trees : List Tree}
    (h : ∀ t ∈ trees, t.IsTable) : (layered ground trees).IsTable := by
  cases trees with
  | nil => exact hground
  | cons t trees =>
    obtain ⟨members, rfl⟩ := h t List.mem_cons_self
    exact merge_table members _

/-- **Layers are summed up.** -/
theorem sums_layered {ground : Tree} (hground : ground.IsTable) {trees : List Tree}
    (h : ∀ t ∈ trees, t.IsTable ∧ t.Proper) (s : String) :
    Sums s (layered ground trees) (trees ++ [ground]) := by
  induction trees with
  | nil => exact .refl s ground
  | cons t trees ih =>
    rw [List.forall_mem_cons] at h
    exact (ih h.2).merge (isTable_layered hground fun t ht => (h.2 t ht).1) h.1.1 h.1.2

/-- Layers are proper. -/
theorem proper_layered {ground : Tree} (hground : ground.Proper) {trees : List Tree}
    (h : ∀ t ∈ trees, t.Proper) : (layered ground trees).Proper := by
  induction trees with
  | nil => exact hground
  | cons t trees ih =>
    rw [List.forall_mem_cons] at h
    exact (ih h.2).merge h.1

/-- Trees laid over a ground from the lowest on are layers. -/
theorem foldl_merge_eq_layered (ground : Tree) (trees : List Tree) :
    trees.foldl Tree.merge ground = layered ground trees.reverse := by
  rw [List.foldl_eq_foldr_reverse]
  induction trees.reverse with
  | nil => rfl
  | cons t trees ih => rw [List.foldr_cons, ih, layered]

/-! ### What trees say for a setting -/

/-- What trees say **for a setting** of a section, the highest tree first: the setting is the `i`-th
of the section and has a name. If the first tree that has the section has a list there, the setting
is found by its position, and otherwise by its name. -/
def heard? (s : String) (i : Nat) (key : String) (trees : List Tree) : Option Tree :=
  match trees.findSome? (at? [s]) with
  | some (.list items) => items[i]?
  | _ => inTables? s key trees

/-- A tree **nests** a section if it has a table there, or does not have it. -/
def Nests (s : String) (t : Tree) : Prop := ∀ u, t.at? [s] = some u → u.IsTable

theorem nests_of_table (h : t.at? [s] = some (.table members)) : t.Nests s := fun _ hu =>
  ⟨members, Option.some.inj (hu.symm.trans h)⟩

theorem nests_of_none (h : t.at? [s] = none) : t.Nests s := by
  intro u hu
  rw [h] at hu
  cases hu

/-- What trees say for a key is what the first ones say, or else the others. -/
theorem inTables?_append (s key : String) (trees trees' : List Tree) :
    inTables? s key (trees ++ trees') = inTables? s key trees ∨
      inTables? s key trees = none ∧
        inTables? s key (trees ++ trees') = inTables? s key trees' := by
  induction trees with
  | nil => exact .inr ⟨rfl, rfl⟩
  | cons t trees ih =>
    rw [List.cons_append]
    cases hs : t.at? [s] with
    | none =>
      rw [inTables?_of_none hs, inTables?_of_none hs]
      exact ih
    | some u =>
      by_cases hu : u.IsTable
      · obtain ⟨members, rfl⟩ := hu
        rw [inTables?_of_table hs, inTables?_of_table hs]
        cases members.lookup key with
        | none => simpa only [Option.none_or] using ih
        | some v => exact .inl rfl
      · rw [inTables?_of_not_isTable hs hu, inTables?_of_not_isTable hs hu]
        exact .inl rfl

/-- Trees that nest a section and do not have a key of it are **passed over**. -/
theorem inTables?_append_of_silent {trees : List Tree}
    (h : ∀ t ∈ trees, Nests s t ∧ t.at? [s, key] = none) (trees' : List Tree) :
    inTables? s key (trees ++ trees') = inTables? s key trees' := by
  induction trees with
  | nil => rfl
  | cons t trees ih =>
    rw [List.forall_mem_cons] at h
    rw [List.cons_append]
    cases hs : t.at? [s] with
    | none =>
      rw [inTables?_of_none hs]
      exact ih h.2
    | some u =>
      obtain ⟨members, rfl⟩ := h.1.1 u hs
      have hkey := h.1.2
      rw [at?_pair hs] at hkey
      rw [inTables?_of_table hs, hkey, Option.none_or]
      exact ih h.2

/-- Where all trees nest a section, **the first that has a key** says what it is. -/
theorem inTables?_eq_findSome? {trees : List Tree} (h : ∀ t ∈ trees, Nests s t) (key : String) :
    inTables? s key trees = trees.findSome? (at? [s, key]) := by
  induction trees with
  | nil => rfl
  | cons t trees ih =>
    rw [List.forall_mem_cons] at h
    rw [List.findSome?_cons]
    cases hs : t.at? [s] with
    | none =>
      rw [inTables?_of_none hs, at?_pair_of_none hs]
      exact ih h.2
    | some u =>
      obtain ⟨members, rfl⟩ := h.1 u hs
      rw [inTables?_of_table hs, at?_pair hs]
      cases members.lookup key with
      | none => exact ih h.2
      | some v => rfl

/-- Where all trees nest a section, settings are found by their names. -/
theorem heard?_eq_findSome? {trees : List Tree} (h : ∀ t ∈ trees, Nests s t) (i : Nat)
    (key : String) : heard? s i key trees = trees.findSome? (at? [s, key]) := by
  rw [← inTables?_eq_findSome? h, heard?]
  split
  · rename_i items hfirst
    obtain ⟨t, ht, hs⟩ := List.exists_of_findSome?_eq_some hfirst
    obtain ⟨members, hlist⟩ := h t ht _ hs
    cases hlist
  · rfl

/-- What is said for a setting when there is **a ground below**: what was said without it, or else
what the ground says. -/
theorem heard?_append {ground : Tree} {members : List (String × Tree)}
    (hground : ground.at? [s] = some (.table members)) (i : Nat) (key : String)
    (trees : List Tree) :
    heard? s i key (trees ++ [ground]) = heard? s i key trees ∨
      heard? s i key trees = none ∧
        heard? s i key (trees ++ [ground]) = members.lookup key := by
  have hbelow : inTables? s key [ground] = members.lookup key := by
    rw [inTables?_of_table hground, inTables?, Option.or_none]
  have hkey := inTables?_append s key trees [ground]
  rw [hbelow] at hkey
  rw [heard?, heard?, List.findSome?_append]
  cases trees.findSome? (at? [s]) with
  | none =>
    have hfirst : [ground].findSome? (at? [s]) = some (.table members) := by
      rw [List.findSome?_cons, hground]
    rw [Option.none_or, hfirst]
    exact hkey
  | some u =>
    cases u with
    | list items => exact .inl rfl
    | _ => exact hkey

/-- **A section that is summed up** says for a key what the first of the trees says that has it. -/
theorem Sums.exists_lookup {sum : Tree} {trees : List Tree} (h : Sums s sum trees)
    (hkey : inTables? s key trees = some t) :
    ∃ all u, sum.at? [s] = some (.table all) ∧ all.lookup key = some u ∧ Alike t u := by
  cases h with
  | unsaid hfirst hsum =>
    rw [inTables?_eq_none fun _ heq => by rw [hfirst] at heq; cases heq] at hkey
    cases hkey
  | @whole u hu hfirst hsum =>
    have hnone : inTables? s key trees = none := inTables?_eq_none
      (fun all heq => hu ⟨all, Option.some.inj (hfirst.symm.trans heq)⟩) key
    rw [hnone] at hkey
    cases hkey
  | @keys _ all _ hsum hkeys =>
    have hrel := hkeys key
    rw [hkey] at hrel
    obtain ⟨u, hall, halike⟩ := exists_of_rel_some hrel
    exact ⟨all, u, hsum, hall, halike⟩

/-- A section that is summed up **does not have a key** that no tree has, if all trees nest it. -/
theorem Sums.silent {sum : Tree} {trees : List Tree} (h : Sums s sum trees)
    (hsilent : ∀ t ∈ trees, Nests s t ∧ t.at? [s, key] = none) :
    Nests s sum ∧ sum.at? [s, key] = none := by
  cases h with
  | unsaid hfirst hsum => exact ⟨nests_of_none hsum, at?_pair_of_none hsum key⟩
  | @whole u hu hfirst hsum =>
    obtain ⟨t, ht, hs⟩ := List.exists_of_findSome?_eq_some hfirst
    exact absurd ((hsilent t ht).1 u hs) hu
  | @keys _ all _ hsum hkeys =>
    refine ⟨nests_of_table hsum, ?_⟩
    have hrel := hkeys key
    have hnone := inTables?_append_of_silent hsilent []
    rw [List.append_nil] at hnone
    rw [hnone] at hrel
    rw [at?_pair hsum]
    exact eq_none_of_rel_none hrel

end Tree

end Settings

end Catalogue
