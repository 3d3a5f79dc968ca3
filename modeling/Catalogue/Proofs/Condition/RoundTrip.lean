import Catalogue.Proofs.Condition.Stability

/-!
# Conditions are read back from their text

A sound condition without floating-point numbers is written as a document whose text is read back as
the condition it was, as long as no more groups nest in it than the reader of JSON admits, and the
text is refused otherwise.

A group of a document is an object around an array, and a predicate is an object, so that a document
of `n` nested groups nests `2 * n + 1` deep (`Catalogue.Node.height_toJson`); with a limit of 127
that leaves 63 groups.
-/

namespace Catalogue

/-! ### Nested groups -/

namespace Node

mutual

/-- How many groups **nest** in a node, along the path that has most of them. -/
def groups : Node → Nat
  | .leaf _ => 0
  | .group _ entries => groupsOfList entries + 1

/-- How many groups nest in nodes. -/
def groupsOfList : List Node → Nat
  | [] => 0
  | n :: rest => max n.groups (groupsOfList rest)

end

end Node

/-- How many groups nest in a condition, the outermost one included. -/
def Condition.groups (c : Condition) : Nat := c.toNode.groups

namespace Node

/-- A group that has as many entries as it admits has one. -/
theorem exists_cons_of_admits {op : Combinator} {entries : List Node}
    (h : op.Admits entries.length) : ∃ n rest, entries = n :: rest := by
  refine List.exists_cons_of_length_pos ?_
  rw [Combinator.Admits] at h
  split_ifs at h with hop
  · omega
  · exact h

/-- Entries that are written `2 * n + 1` deep are so together. -/
theorem itemsHeight_listToJson {n : Node} {rest : List Node}
    (h : ∀ m ∈ n :: rest, m.toJson.height = 2 * m.groups + 1) :
    Json.itemsHeight (listToJson (n :: rest)) = 2 * groupsOfList (n :: rest) + 1 := by
  induction rest generalizing n with
  | nil =>
    have hn := h n List.mem_cons_self
    simp only [listToJson, Json.itemsHeight, groupsOfList, Nat.max_zero, hn]
  | cons m rest ih =>
    have hn := h n List.mem_cons_self
    have hrest := ih fun m' hm' => h m' (List.mem_cons_of_mem _ hm')
    have hgroups : groupsOfList (n :: m :: rest) = max n.groups (groupsOfList (m :: rest)) := rfl
    rw [listToJson, Json.itemsHeight, hn, hrest, hgroups]
    omega

/-- **Every group adds two brackets**, and a predicate one. -/
theorem height_toJson {n : Node} (h : n.Sound) : n.toJson.height = 2 * n.groups + 1 := by
  induction h with
  | @leaf p _ =>
    obtain ⟨field, op, x⟩ := p
    cases x with
    | text s => rfl
    | integer m => rfl
    | real y =>
      rw [toJson, Predicate.toJson, Operand.toJson]
      cases FiniteFloat.ofFloat? y with
      | none => rfl
      | some z => rfl
  | @group op entries hcount _ ih =>
    obtain ⟨n, rest, rfl⟩ := exists_cons_of_admits hcount
    have hrest := itemsHeight_listToJson ih
    simp only [toJson, Json.height, Json.membersHeight, hrest, groups]
    omega

/-! ### Writing -/

/-- The document of a group is plain if those of its entries are. -/
theorem plain_toJson_group (op : Combinator) {entries : List Node}
    (h : ∀ n ∈ entries, n.toJson.Plain) : (group op entries).toJson.Plain := by
  refine .object fun m hm => ?_
  rcases List.mem_cons.mp hm with rfl | hm
  · exact .text _
  · rw [List.mem_singleton.mp hm]
    refine .array fun v hv => ?_
    rw [listToJson_eq_map, List.mem_map] at hv
    obtain ⟨n, hn, rfl⟩ := hv
    exact h n hn

/-- The document of a predicate without a floating-point number is plain. -/
theorem plain_toJson_leaf {p : Predicate} (h : p.operand.IsExact) : (leaf p).toJson.Plain := by
  obtain ⟨field, op, x⟩ := p
  refine .object fun m hm => ?_
  rcases List.mem_cons.mp hm with rfl | hm
  · exact .text _
  · rcases List.mem_cons.mp hm with rfl | hm
    · exact .text _
    · rw [List.mem_singleton.mp hm]
      cases x with
      | text s => exact .text s
      | integer n =>
        obtain ⟨hlow, hhigh⟩ := Word.isSigned_toInt n
        refine .integer ⟨hlow, ?_⟩
        simp only [Word.half, UInt64.size] at hhigh ⊢
        omega
      | real y => exact absurd h id

/-- **A document without floating-point numbers is plain.** -/
theorem plain_toJson {n : Node} (h : n.Sound) (hexact : n.IsExact) : n.toJson.Plain := by
  induction h with
  | leaf _ => exact plain_toJson_leaf (isExact_leaf.mp hexact)
  | group _ _ ih => exact plain_toJson_group _ fun n hn => ih n hn (isExact_group.mp hexact n hn)

end Node

/-! ### What is read back -/

namespace Condition

/-- **A condition is read back** from its document. -/
theorem ofJson?_normal_toJson {c : Condition} (h : c.Sound) (hexact : c.toNode.IsExact) :
    ofJson? c.toJson.normal = .ok c :=
  Node.faithful_normal_toJson.ofJson? h hexact.isFinite

/-- The document of a condition is plain. -/
theorem plain_toJson {c : Condition} (h : c.Sound) (hexact : c.toNode.IsExact) :
    c.toJson.Plain := by
  have hexact := Node.isExact_group.mp hexact
  exact Node.plain_toJson_group c.op fun n hn => Node.plain_toJson (h.entries n hn) (hexact n hn)

/-- A document is not too deep exactly if no more than 63 groups nest in the condition. -/
theorem height_toJson_le_iff {c : Condition} (h : c.Sound) :
    c.toJson.height ≤ Json.depthLimit ↔ c.groups ≤ 63 := by
  cases hempty : c.isEmpty with
  | false =>
    have := Node.height_toJson (h.toNode hempty)
    rw [toJson, this, Json.depthLimit, groups]
    omega
  | true =>
    obtain ⟨op, entries⟩ := c
    -- an empty outermost group is less deep than the law for groups says, and fits anyway
    obtain rfl : entries = [] := List.isEmpty_iff.mp hempty
    exact iff_of_true (show 2 ≤ 127 by decide) (show 1 ≤ 63 by decide)

/-- **What is built is read back** from its text exactly if no more than 63 groups nest in it, the
outermost one included. If more do, the text is rejected, and never read as anything else. -/
theorem built_round_trip {c : Condition} (h : Built c) :
    (ofText? c.toJson.compact = .ok c ↔ c.groups ≤ 63) ∧
      (63 < c.groups → ∃ r, ofText? c.toJson.compact = .error r) := by
  have hdepth := height_toJson_le_iff h.sound
  obtain ⟨hread, hrefused⟩ := Json.ofText?_compact (plain_toJson h.sound h.isExact)
  have hdeep : 63 < c.groups → ∃ r, ofText? c.toJson.compact = .error r := by
    intro hmany
    obtain ⟨f, hf⟩ := hrefused (by omega)
    exact ⟨.ofFault f, by rw [ofText?, hf]⟩
  refine ⟨⟨fun hok => ?_, fun hfew => ?_⟩, hdeep⟩
  · by_contra hmany
    obtain ⟨r, hr⟩ := hdeep (by omega)
    cases hok.symm.trans hr
  · rw [ofText?, hread (hdepth.mpr hfew)]
    exact ofJson?_normal_toJson h.sound h.isExact

/-- Alternatives inside alternatives, around a text that needs escapes. -/
def alternating : Nat → Condition
  | 0 => (empty.like "title" "\"\\\n\x01é").equal "id" (.integer (-3))
  | n + 1 => empty.or (alternating n)

theorem isEmpty_alternating (n : Nat) : (alternating n).isEmpty = false := by
  induction n with
  | zero => rfl
  | succ n ih => rw [alternating, or, ih]; rfl

theorem built_alternating (n : Nat) : Built (alternating n) := by
  induction n with
  | zero => exact (Built.empty.like (by decide) _).equalInteger (by decide) _
  | succ n ih => exact .or .empty ih

theorem groups_alternating (n : Nat) : (alternating n).groups = n + 1 := by
  induction n with
  | zero => rfl
  | succ n ih =>
    rw [alternating, or, isEmpty_alternating]
    simp only [Bool.false_eq_true, if_false, groups, toNode, push, empty, List.nil_append,
      Node.groups, Node.groupsOfList, Nat.max_zero] at ih ⊢
    rw [ih]

theorem built_round_trip_alternating :
    ofText? (alternating 62).toJson.compact = .ok (alternating 62) ∧
      ∃ r, ofText? (alternating 63).toJson.compact = .error r :=
  ⟨(built_round_trip (built_alternating 62)).1.mpr (Nat.le_of_eq (groups_alternating 62)),
    (built_round_trip (built_alternating 63)).2 (Nat.le_of_eq (groups_alternating 63).symm)⟩

end Condition

end Catalogue
