import Catalogue.Condition.Builder
import Catalogue.Proofs.Condition.Grammar

/-!
# Sound conditions

The tree of a condition promises nothing by itself. What is built from the empty condition promises
a lot (`Catalogue.Condition.Built.sound`): groups inside it have as many entries as their combinator
admits, patterns are texts and every field has a name (`Catalogue.Condition.Sound`).

The builder adds entries at the end of the outermost group whatever its combinator is. That a
negation is never given a second entry is because the outermost group of what is built joins by
`AND`, and because a condition is wrapped into a group of its own before it is negated.
-/

namespace Catalogue

/-! ### Soundness -/

/-- A predicate is **sound** if it has a field, and a text for a pattern. -/
structure Predicate.Sound (p : Predicate) : Prop where
  /-- The field has a name. -/
  field : p.field ≠ ""
  /-- Patterns are texts. -/
  pattern : p.comparison ≠ .equal → ∃ s, p.operand = .text s

/-- A node is **formed** as asked for: by what its predicates are like, and by how many entries its
groups have. -/
inductive Node.Formed (admits : Combinator → Nat → Prop) (leaf : Predicate → Prop) : Node → Prop
  /-- A predicate. -/
  | leaf {p : Predicate} (h : leaf p) : Formed admits leaf (.leaf p)
  /-- A group. -/
  | group {op : Combinator} {entries : List Node} (hcount : admits op entries.length)
    (hentries : ∀ n ∈ entries, Formed admits leaf n) : Formed admits leaf (.group op entries)

/-- A node is **sound** if its predicates are and its groups have as many entries as they admit. -/
abbrev Node.Sound : Node → Prop := Node.Formed Combinator.Admits Predicate.Sound

/-- A condition is **sound** if its entries are, and if it has only one in case it is a negation. It
may be empty otherwise. -/
structure Condition.Sound (c : Condition) : Prop where
  /-- A negation has one entry. -/
  unary : c.op = .not → c.entries.length = 1
  /-- The entries are sound. -/
  entries : ∀ n ∈ c.entries, n.Sound

namespace Condition

/-- A condition that has entries is a sound node of another. -/
theorem Sound.toNode {c : Condition} (h : c.Sound) (hne : c.isEmpty = false) : c.toNode.Sound := by
  refine .group ?_ h.entries
  rw [Combinator.Admits]
  split_ifs with hop
  · exact h.unary hop
  · exact List.length_pos_iff.mpr fun hnil => by simp [isEmpty, hnil] at hne

/-- The entries of a condition that has any may be alternatives. -/
theorem Sound.alternatives {c : Condition} (h : c.Sound) (hne : c.isEmpty = false) :
    (Node.group .or c.entries).Sound :=
  .group (List.length_pos_iff.mpr fun hnil => by simp [isEmpty, hnil] at hne) h.entries

/-- A condition that is no negation stays sound with one more sound entry. -/
theorem Sound.push {c : Condition} (h : c.Sound) (hop : c.op ≠ .not) {n : Node} (hn : n.Sound) :
    (c.push n).Sound := by
  refine ⟨fun hnot => absurd hnot hop, fun m hm => ?_⟩
  rcases List.mem_append.mp hm with hm | hm
  · exact h.entries m hm
  · rw [List.mem_singleton.mp hm]
    exact hn

/-! ### What is built -/

/-- The conditions that are **built** from the empty one, with named fields and without
floating-point numbers. -/
inductive Built : Condition → Prop
  /-- The empty condition. -/
  | empty : Built .empty
  /-- A field equals a text. -/
  | equalText {c : Condition} {field : String} (hc : Built c) (hfield : field ≠ "") (s : String) :
    Built (c.equal field (.text s))
  /-- A field equals a whole number. -/
  | equalInteger {c : Condition} {field : String} (hc : Built c) (hfield : field ≠ "") (n : Int64) :
    Built (c.equal field (.integer n))
  /-- A field contains a text. -/
  | like {c : Condition} {field : String} (hc : Built c) (hfield : field ≠ "") (text : String) :
    Built (c.like field text)
  /-- A field contains a text in whatever letter case. -/
  | ilike {c : Condition} {field : String} (hc : Built c) (hfield : field ≠ "") (text : String) :
    Built (c.ilike field text)
  /-- One of the entries of another condition. -/
  | or {c sub : Condition} (hc : Built c) (hsub : Built sub) : Built (c.or sub)
  /-- Not another condition. -/
  | not {c sub : Condition} (hc : Built c) (hsub : Built sub) : Built (c.not sub)

/-- What is built joins by `AND`. -/
theorem Built.op_eq_and {c : Condition} (h : Built c) : c.op = .and := by
  induction h with
  | empty => rfl
  | equalText _ _ _ ih => exact ih
  | equalInteger _ _ _ ih => exact ih
  | like _ _ _ ih => exact ih
  | ilike _ _ _ ih => exact ih
  | or _ _ ih _ =>
    rw [Condition.or]
    split_ifs
    · exact ih
    · exact ih
  | not _ _ ih _ =>
    rw [Condition.not]
    split_ifs
    · exact ih
    · exact ih

/-- **What is built is sound.** -/
theorem Built.sound {c : Condition} (h : Built c) : c.Sound := by
  have hnot : ∀ {c : Condition}, Built c → c.op ≠ .not := fun hc => by
    rw [hc.op_eq_and]
    decide
  induction h with
  | empty => exact ⟨fun hop => absurd hop (by decide), fun _ hn => absurd hn List.not_mem_nil⟩
  | equalText hc hfield s ih =>
    exact ih.push (hnot hc) (.leaf ⟨hfield, fun hop => absurd rfl hop⟩)
  | equalInteger hc hfield n ih =>
    exact ih.push (hnot hc) (.leaf ⟨hfield, fun hop => absurd rfl hop⟩)
  | like hc hfield text ih => exact ih.push (hnot hc) (.leaf ⟨hfield, fun _ => ⟨_, rfl⟩⟩)
  | ilike hc hfield text ih => exact ih.push (hnot hc) (.leaf ⟨hfield, fun _ => ⟨_, rfl⟩⟩)
  | or hc hsub ih ihsub =>
    rw [Condition.or]
    split_ifs with hempty
    · exact ih
    · exact ih.push (hnot hc) (ihsub.alternatives (Bool.eq_false_iff.mpr hempty))
  | not hc hsub ih ihsub =>
    rw [Condition.not]
    split_ifs with hempty
    · exact ih
    · -- the condition is the one entry of the negation
      have hsub := ihsub.toNode (Bool.eq_false_iff.mpr hempty)
      exact ih.push (hnot hc) (.group rfl fun n hn => List.mem_singleton.mp hn ▸ hsub)

end Condition

/-! ### Exact values -/

/-- A value is **exact** unless it is a floating-point number. -/
def Operand.IsExact : Operand → Prop
  | .real _ => False
  | _ => True

theorem Node.predicatesOfList_eq_flatMap (entries : List Node) :
    predicatesOfList entries = entries.flatMap predicates := by
  induction entries with
  | nil => rfl
  | cons n entries ih => rw [predicatesOfList, ih, List.flatMap_cons]

/-- What is so of the predicates of a group is so of those of its entries. -/
theorem Node.forall_predicates_group {P : Predicate → Prop} {op : Combinator}
    {entries : List Node} :
    (∀ p ∈ (group op entries).predicates, P p) ↔ ∀ n ∈ entries, ∀ p ∈ n.predicates, P p := by
  simp only [predicates, predicatesOfList_eq_flatMap, List.mem_flatMap]
  constructor
  · exact fun h n hn p hp => h p ⟨n, hn, hp⟩
  · rintro h p ⟨n, hn, hp⟩
    exact h n hn p hp

/-- The values of a node are exact. -/
def Node.IsExact (n : Node) : Prop := ∀ p ∈ n.predicates, p.operand.IsExact

/-- The values of a group are exact if those of its entries are. -/
theorem Node.isExact_group {op : Combinator} {entries : List Node} :
    (group op entries).IsExact ↔ ∀ n ∈ entries, n.IsExact :=
  forall_predicates_group

theorem Node.isExact_leaf {p : Predicate} : (leaf p).IsExact ↔ p.operand.IsExact :=
  ⟨fun h => h p List.mem_cons_self, fun h _ hq => List.mem_singleton.mp hq ▸ h⟩

namespace Condition

theorem isExact_push {c : Condition} (h : c.toNode.IsExact) {n : Node} (hn : n.IsExact) :
    (c.push n).toNode.IsExact := by
  rw [toNode, Node.isExact_group] at h ⊢
  intro m hm
  rcases List.mem_append.mp hm with hm | hm
  · exact h m hm
  · rw [List.mem_singleton.mp hm]
    exact hn

/-- **What is built without floating-point numbers is exact.** -/
theorem Built.isExact {c : Condition} (h : Built c) : c.toNode.IsExact := by
  induction h with
  | empty => exact fun _ hp => absurd hp List.not_mem_nil
  | equalText _ _ s ih => exact isExact_push ih (Node.isExact_leaf.mpr trivial)
  | equalInteger _ _ n ih => exact isExact_push ih (Node.isExact_leaf.mpr trivial)
  | like _ _ text ih => exact isExact_push ih (Node.isExact_leaf.mpr trivial)
  | ilike _ _ text ih => exact isExact_push ih (Node.isExact_leaf.mpr trivial)
  | @or c sub _ _ ih ihsub =>
    rw [Condition.or]
    split_ifs
    · exact ih
    · exact isExact_push ih (Node.isExact_group.mpr (Node.isExact_group.mp ihsub))
  | @not c sub _ _ ih ihsub =>
    rw [Condition.not]
    split_ifs
    · exact ih
    · exact isExact_push ih (Node.isExact_group.mpr fun n hn => List.mem_singleton.mp hn ▸ ihsub)

end Condition

end Catalogue
