import Catalogue.Proofs.Condition.Growth
import Catalogue.Proofs.Json.Finite
import Catalogue.Proofs.Json.Made

/-!
# What is read is written so that it reads the same

Documents have many ways to say one thing: nodes may be arrays, members may be unknown, `null` or
missing, and a whole number may be too large to be kept as one. A condition is written in one way
only. This file shows that nothing is lost on the way (`Catalogue.Condition.ofJson?_toJson_stable`):
the document that is written for a condition that was read is read as that condition.

Two things are known about what is read. It is sound, so that what is written for its nodes meets
the rules for nodes inside a condition, which are stricter than those for the outermost one. And its
numbers are finite (`Catalogue.Json.DenotesNode.isFinite`), the large ones too, so that each of them
is written as a number of its own kind. From there on it does not matter in which order the members
of an object are written: all that counts is what a node holds (`Catalogue.Node.Faithful`).
-/

namespace Catalogue

/-! ### Finite values -/

/-- A value is **finite** unless it is a floating-point number that is not. -/
def Operand.IsFinite : Operand → Prop
  | .real x => x.isFinite = true
  | _ => True

/-- The values of a node are finite. -/
def Node.IsFinite (n : Node) : Prop := ∀ p ∈ n.predicates, p.operand.IsFinite

theorem Operand.IsExact.isFinite {x : Operand} (h : x.IsExact) : x.IsFinite := by
  cases x with
  | real y => exact absurd h id
  | _ => trivial

/-- Exact values are finite. -/
theorem Node.IsExact.isFinite {n : Node} (h : n.IsExact) : n.IsFinite := fun p hp =>
  (h p hp).isFinite

/-- The values of a group are finite if those of its entries are. -/
theorem Node.isFinite_group {op : Combinator} {entries : List Node} :
    (group op entries).IsFinite ↔ ∀ n ∈ entries, n.IsFinite :=
  forall_predicates_group

theorem Node.isFinite_leaf {p : Predicate} : (leaf p).IsFinite ↔ p.operand.IsFinite :=
  ⟨fun h => h p List.mem_cons_self, fun h _ hq => List.mem_singleton.mp hq ▸ h⟩

namespace Json

/-- What a value that can be stored holds can be stored. -/
theorem Storable.of_mem_held {j v : Json} (h : j.Storable) {index : Nat} {key : String}
    (hv : v ∈ j.held index key) : v.Storable := by
  cases h with
  | array h => exact h v (List.mem_of_getElem? (Option.mem_toList.mp hv))
  | object h =>
    obtain ⟨m, hm, rfl⟩ := List.mem_map.mp hv
    exact h m (List.mem_filter.mp hm).1
  | _ => exact absurd hv List.not_mem_nil

/-- The value of a node can be stored. -/
theorem Holds.storable_value {j : Json} {m : Members} (h : j.Holds m) (hj : j.Storable) :
    m.value.Storable := by
  rw [h.value]
  cases hv : (j.held 2 "v").getLast? with
  | none => exact .null
  | some v => exact hj.of_mem_held (List.mem_of_getLast? hv)

/-- The entries of a node can be stored. -/
theorem Holds.storable_entries {j : Json} {m : Members} (h : j.Holds m) (hj : j.Storable)
    {entries : List Json} (he : m.entries = some entries) : ∀ e ∈ entries, e.Storable := by
  obtain ⟨v, hv, hitems⟩ := Option.bind_eq_some_iff.mp (h.entries.symm.trans he)
  have hstorable := hj.of_mem_held (List.mem_of_getLast? hv)
  cases hstorable with
  | array h =>
    obtain rfl := Option.some.inj hitems
    exact h
  | _ => exact nomatch hitems

/-- **A value that is denoted is finite**, also if it is too large to be kept as a whole number. -/
theorem DenotesOperand.isFinite {op : Comparison} {v : Json} {x : Operand}
    (h : DenotesOperand op v x) (hv : v.Storable) : x.IsFinite := by
  cases h with
  | text op s => trivial
  | integer n => trivial
  | @large n hlarge =>
    cases hv with
    | integer hfits =>
      -- only a number above the signed words is too large and can be stored
      obtain ⟨hlow, hhigh⟩ := hfits
      have hle : (Word.half : Int) ≤ n := by
        rw [Word.IsSigned] at hlarge
        omega
      obtain ⟨m, rfl⟩ := Int.eq_ofNat_of_zero_le (Int.le_trans (Int.natCast_nonneg _) hle)
      exact isFinite_ofInt (by omega) (by omega)
  | real x => exact x.finite

/-- **A node that is denoted has finite values.** -/
theorem DenotesNode.isFinite {j : Json} {n : Node} (h : j.DenotesNode n) (hj : j.Storable) :
    n.IsFinite := by
  induction h using DenotesNode.induction with
  | leaf hm _ _ _ _ hx => exact Node.isFinite_leaf.mpr (hx.isFinite (hm.storable_value hj))
  | group hm he _ _ _ ih =>
    refine Node.isFinite_group.mpr fun n hn => ?_
    obtain ⟨e, hmem, _, hfinite⟩ := ih n hn
    exact hfinite (hm.storable_entries hj he e hmem)

end Json

/-! ### Faithful writing -/

/-- A node holds what it has once. -/
theorem Json.holds_of_held {j : Json} {op : String} (field : Option String) (value : Option Json)
    (entries : Option (List Json)) (hnode : j.IsNode) (hop : j.held 0 "o" = [.text op])
    (hfield : j.held 1 "f" = (field.map Json.text).toList) (hvalue : j.held 2 "v" = value.toList)
    (hentries : j.held 3 "e" = (entries.map Json.array).toList) :
    j.Holds ⟨some op, field, value.getD .null, entries⟩ := by
  refine ⟨hnode, ⟨?_, ?_, ?_⟩, ?_, ?_, ?_, ?_⟩
  · rw [hop]
    exact fun v hv => List.mem_singleton.mp hv ▸ trivial
  · rw [hfield]
    cases field with
    | none => nofun
    | some f => exact fun v hv => List.mem_singleton.mp hv ▸ trivial
  · rw [hentries]
    cases entries with
    | none => nofun
    | some items => exact fun v hv => List.mem_singleton.mp hv ▸ trivial
  · rw [hop]
    rfl
  · rw [hfield]
    cases field <;> rfl
  · rw [hvalue]
    cases value <;> rfl
  · rw [hentries]
    cases entries <;> rfl

namespace Node

/-- Nodes are written **faithfully** if what is written for them holds their parts, and nothing
else. -/
structure Faithful (write : Node → Json) : Prop where
  /-- A predicate. -/
  leaf : ∀ p : Predicate, (write (.leaf p)).Holds
    ⟨some p.comparison.name, some p.field, p.operand.toJson, none⟩
  /-- A group. -/
  group : ∀ (op : Combinator) (entries : List Node), (write (.group op entries)).Holds
    ⟨some op.name, none, .null, some (entries.map write)⟩

end Node

/-- A finite value is written as what denotes it, if it is one for its comparison. -/
theorem Operand.denotes_toJson {op : Comparison} {x : Operand}
    (hop : op ≠ .equal → ∃ s, x = .text s) (h : x.IsFinite) :
    Json.DenotesOperand op x.toJson x := by
  cases x with
  | text s => exact .text op s
  | integer n =>
    -- only an equality has a number
    obtain rfl : op = .equal := Classical.byContradiction fun hne => by
      obtain ⟨s, hs⟩ := hop hne
      exact nomatch hs
    exact .integer n
  | real y =>
    obtain rfl : op = .equal := Classical.byContradiction fun hne => by
      obtain ⟨s, hs⟩ := hop hne
      exact nomatch hs
    have hy : FiniteFloat.ofFloat? y = some ⟨y, h⟩ := dif_pos h
    rw [toJson, hy]
    exact .real ⟨y, h⟩

namespace Node

variable {write : Node → Json}

theorem forall₂_map_write {entries : List Node} (h : ∀ n ∈ entries, (write n).DenotesNode n) :
    List.Forall₂ Json.DenotesNode (entries.map write) entries := by
  rw [List.forall₂_map_left_iff, List.forall₂_same]
  exact h

/-- **What is written faithfully for a sound node with finite values denotes that node.** -/
theorem Faithful.denotes (hwrite : Faithful write) {n : Node} (h : n.Sound) (hfinite : n.IsFinite) :
    (write n).DenotesNode n := by
  induction h with
  | @leaf p hp =>
    exact .leaf (hwrite.leaf p) rfl rfl rfl hp.field
      (Operand.denotes_toJson hp.pattern (isFinite_leaf.mp hfinite))
  | @group op entries hcount _ ih =>
    have hentries := forall₂_map_write fun n hn => ih n hn (isFinite_group.mp hfinite n hn)
    exact .group (hwrite.group op entries) rfl rfl (hentries.length_eq ▸ hcount) hentries

/-- **A sound condition with finite values is read back** from what is written faithfully for it,
also if it is empty. -/
theorem Faithful.ofJson? (hwrite : Faithful write) {c : Condition} (h : c.Sound)
    (hfinite : c.toNode.IsFinite) : Condition.ofJson? (write c.toNode) = .ok c := by
  have hfinite := isFinite_group.mp hfinite
  have hentries := forall₂_map_write fun n hn => hwrite.denotes (h.entries n hn) (hfinite n hn)
  refine (Condition.ofJson?_eq_ok_iff_of_holds (hwrite.group c.op c.entries)).mpr
    ⟨.inr rfl, ?_, hentries⟩
  exact fun hop => hentries.length_eq.trans (h.unary hop)

end Node

/-! ### The two orders of members -/

namespace Node

theorem listToJson_eq_map (entries : List Node) : listToJson entries = entries.map toJson := by
  induction entries with
  | nil => rfl
  | cons n entries ih => rw [listToJson, ih, List.map_cons]

theorem normalItems_listToJson (entries : List Node) :
    Json.normalItems (listToJson entries) = entries.map fun n => n.toJson.normal := by
  induction entries with
  | nil => rfl
  | cons n entries ih => rw [listToJson, Json.normalItems, ih, List.map_cons]

end Node

/-- The members of a predicate in the order of their keys. -/
theorem Predicate.normal_toJson (p : Predicate) :
    p.toJson.normal =
      .object [("f", .text p.field), ("o", .text p.comparison.name), ("v", p.operand.toJson)] := by
  obtain ⟨field, op, x⟩ := p
  have hx : x.toJson.normal = x.toJson := by
    cases x with
    | text s => rfl
    | integer n => rfl
    | real y =>
      rw [Operand.toJson]
      cases FiniteFloat.ofFloat? y with
      | none => rfl
      | some z => rfl
  rw [toJson, Json.normal]
  simp only [Json.normalMembers, hx]
  rfl

namespace Node

/-- Documents as they are made, with the operator in front, are faithful. -/
theorem faithful_toJson : Faithful toJson where
  leaf p := Json.holds_of_held (some p.field) (some p.operand.toJson) none trivial rfl rfl rfl rfl
  group op entries := by
    rw [toJson, listToJson_eq_map]
    exact Json.holds_of_held none none (some _) trivial rfl rfl rfl rfl

/-- Documents with all members in the order of their keys are faithful. -/
theorem faithful_normal_toJson : Faithful fun n => n.toJson.normal where
  leaf p := by
    rw [toJson, Predicate.normal_toJson]
    exact Json.holds_of_held (some p.field) (some p.operand.toJson) none trivial rfl rfl rfl rfl
  group op entries := by
    have hnormal : (group op entries).toJson.normal =
        .object [("e", .array (Json.normalItems (listToJson entries))), ("o", .text op.name)] := rfl
    rw [hnormal, normalItems_listToJson]
    exact Json.holds_of_held none none (some _) trivial rfl rfl rfl rfl

end Node

/-! ### Stability -/

namespace Condition

variable {c : Condition}

/-- **The values of a condition that is read are finite.** -/
theorem isFinite_of_ofJson? {j : Json} (hj : j.Storable) (h : ofJson? j = .ok c) :
    c.toNode.IsFinite := by
  refine Node.isFinite_group.mpr fun n hn => ?_
  obtain ⟨m, entries, e, hm, he, hmem, hdenotes⟩ := exists_denotes h hn
  exact hdenotes.isFinite (hm.storable_entries hj he e hmem)

/-- A sound condition with finite values is read back in either order of members. -/
theorem Sound.ofJson?_toJson (h : c.Sound) (hfinite : c.toNode.IsFinite) :
    ofJson? c.toJson = .ok c ∧ ofJson? c.toJson.normal = .ok c :=
  ⟨Node.faithful_toJson.ofJson? h hfinite, Node.faithful_normal_toJson.ofJson? h hfinite⟩

/-- The same holds of a condition that was read from a text, since all that comes of a text can be
stored. -/
theorem ofJson?_toJson_of_ofText? {s : String} (h : ofText? s = .ok c) :
    ofJson? c.toJson = .ok c ∧ ofJson? c.toJson.normal = .ok c := by
  rw [ofText?] at h
  split at h
  · cases h
  · rename_i j hj
    have hstorable : j.Storable := (Json.made_ofText? hj).storable
    exact (sound_of_ofJson? h).ofJson?_toJson (isFinite_of_ofJson? hstorable h)

/-- **What is written for a condition that was read is read as that condition**, whatever document
it was read from, and in whichever order the members of an object are written. -/
theorem ofJson?_toJson_stable {j : Json} (hj : j.Storable) (h : ofJson? j = .ok c) :
    ofJson? c.toJson = .ok c ∧ ofJson? c.toJson.normal = .ok c := by
  have hfinite : c.toNode.IsFinite := isFinite_of_ofJson? hj h
  exact (sound_of_ofJson? h).ofJson?_toJson hfinite

/-- A document of many shapes: arrays and objects, a negation of a predicate, a whole number that is
too large, parts that are `null`, and a member that nobody knows. -/
def motley : Json :=
  .array [.text "OR", .null, .integer 0, .array [
    .array [.text "NOT", .null, .null, .array [
      .array [.text "=", .text "id", .integer 0x8000000000000000]]],
    .object [("e", .null), ("f", .text "title"), ("note", .array []), ("o", .text "LIKE"),
      ("v", .text "%Tintin%")]]]

/-- The condition of that document. -/
def motleyCondition : Condition :=
  ⟨.or, [.group .not [.leaf ⟨"id", .equal, .real (Float.ofInt 0x8000000000000000)⟩],
    .leaf ⟨"title", .like, .text "%Tintin%"⟩]⟩

theorem ofJson?_toJson_stable_motley :
    motley.Storable ∧ ofJson? motley = .ok motleyCondition ∧
      ofJson? motleyCondition.toJson = .ok motleyCondition ∧
      ofJson? motleyCondition.toJson.normal = .ok motleyCondition := by
  have hstorable : motley.Storable := by
    have hzero : Json.FitsWord 0 := by rw [Json.FitsWord]; decide
    have hlarge : Json.FitsWord 0x8000000000000000 := by rw [Json.FitsWord]; decide
    simp [motley, hzero, hlarge]
  have hread : ofJson? motley = .ok motleyCondition := rfl
  exact ⟨hstorable, hread, ofJson?_toJson_stable hstorable hread⟩

end Condition

end Catalogue
