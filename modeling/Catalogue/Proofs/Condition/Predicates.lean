import Catalogue.Proofs.Condition.FirstDefect
import Catalogue.Proofs.Condition.Stability

/-!
# Predicates that are made and predicates that are read

There are two ways to a predicate that is known to be sound. `Catalogue.Predicate.make?` makes one
of a field, a comparison and a value, and the reader of documents makes one of a node that holds
these three. The rules are stated twice, in another order and for other types: a value is of a known
kind in one place and any JSON value in the other. They are the same rules, in whatever group of
whatever condition the node stands (`Catalogue.Condition.made_as_read`).

Where a node stands is said by its address. What a document denotes with another node at an address
is what it denoted before, with what that node denotes at this address, and it denotes nothing if
that node does not (`Catalogue.Json.DenotesNode.replaceable`). This is by induction on the address,
from what happens among the entries of one group (`Catalogue.Json.forall₂_replaceAt_iff`). A single
node that says what a predicate is made of denotes the predicate that is made, and nothing if none
is (`Catalogue.Predicate.denotesNode_iff_make?`).
-/

namespace Catalogue

/-- A combinator is known by its name. -/
theorem Combinator.name_injective : Function.Injective name := fun op op' h =>
  Option.some.inj (by rw [← ofName?_name op, h, ofName?_name])

/-- A comparison is known by its name. -/
theorem Comparison.name_injective : Function.Injective name := fun op op' h =>
  Option.some.inj (by rw [← ofName?_name op, h, ofName?_name])

/-! ### Another node at an address -/

/-- A document **with another node at an address**, if the address leads anywhere. -/
def Json.replaceAt : Json → List Nat → Json → Json
  | _, [], new => new
  | j, i :: place, new =>
    match j.entries[i]? with
    | none => j
    | some e => j.withEntries (j.entries.set i (e.replaceAt place new))

namespace Node

/-- The entries of a node; a predicate has none. -/
def entries : Node → List Node
  | .leaf _ => []
  | .group _ entries => entries

/-- The **node at an address**. -/
def node? : List Nat → Node → Option Node
  | [], n => some n
  | i :: place, n => n.entries[i]?.bind (node? place)

/-- A node with other entries, unless it is a predicate. -/
def withEntries (new : List Node) : Node → Node
  | .leaf p => .leaf p
  | .group op _ => .group op new

/-- A node **with another one at an address**, if the address leads anywhere. -/
def replaceAt : Node → List Nat → Node → Node
  | _, [], new => new
  | n, i :: place, new =>
    match n.entries[i]? with
    | none => n
    | some e => n.withEntries (n.entries.set i (e.replaceAt place new))

/-- Where the address leads to an entry, that entry is changed. -/
theorem replaceAt_cons {op : Combinator} {nodes : List Node} {i : Nat} {e : Node}
    (h : nodes[i]? = some e) (place : List Nat) (new : Node) :
    (group op nodes).replaceAt (i :: place) new =
      .group op (nodes.set i (e.replaceAt place new)) := by
  have hentry : (group op nodes).entries[i]? = some e := h
  rw [replaceAt, hentry]
  rfl

/-- The new node is found at its address, if the address leads anywhere. -/
theorem node?_replaceAt {n e : Node} {place : List Nat} (h : n.node? place = some e) (new : Node) :
    (n.replaceAt place new).node? place = some new := by
  induction place generalizing n with
  | nil => rfl
  | cons i place ih =>
    obtain ⟨e₀, he₀, hplace⟩ := Option.bind_eq_some_iff.mp h
    cases n with
    | leaf p => cases he₀
    | group op nodes =>
      have hentry : nodes[i]? = some e₀ := he₀
      have hi : i < nodes.length := (List.getElem?_eq_some_iff.mp hentry).1
      rw [replaceAt_cons hentry]
      simp only [node?, entries, List.getElem?_set_self hi, Option.bind_some, ih hplace]

end Node

/-- A condition **with another node at an address** inside it. -/
def Condition.replaceAt (c : Condition) (place : List Nat) (new : Node) : Condition :=
  ⟨c.op, (c.toNode.replaceAt place new).entries⟩

theorem Condition.toNode_replaceAt {c : Condition} {place : List Nat} (h : place ≠ [])
    (new : Node) : (c.replaceAt place new).toNode = c.toNode.replaceAt place new := by
  obtain ⟨i, place, rfl⟩ := List.exists_cons_of_ne_nil h
  rw [replaceAt, toNode, Node.replaceAt]
  cases c.toNode.entries[i]? <;> rfl

/-- Things that are related one by one, with **another one among them**: the others stay related to
what they were related to, and to nothing else. -/
theorem forall₂_set_iff {α β : Type} {R : α → β → Prop} (hR : Relator.RightUnique R)
    {as : List α} {bs : List β} (h : List.Forall₂ R as bs) {i : Nat} {a : α}
    (ha : as[i]? = some a) :
    ∃ b, bs[i]? = some b ∧ R a b ∧
      ∀ a' bs', List.Forall₂ R (as.set i a') bs' ↔ ∃ b', R a' b' ∧ bs' = bs.set i b' := by
  induction h generalizing i with
  | nil => cases ha
  | @cons a₀ b₀ as bs h₀ h ih =>
    cases i with
    | zero =>
      obtain rfl := Option.some.inj ha
      refine ⟨b₀, rfl, h₀, fun a' bs' => ?_⟩
      rw [List.set_cons_zero, List.forall₂_cons_left_iff]
      constructor
      · rintro ⟨b', rest, hb', hrest, rfl⟩
        obtain rfl : rest = bs := List.right_unique_forall₂' hR hrest h
        exact ⟨b', hb', rfl⟩
      · rintro ⟨b', hb', rfl⟩
        exact ⟨b', bs, hb', h, rfl⟩
    | succ i =>
      obtain ⟨b, hb, hab, hset⟩ := ih ha
      refine ⟨b, hb, hab, fun a' bs' => ?_⟩
      rw [List.set_cons_succ, List.forall₂_cons_left_iff]
      constructor
      · rintro ⟨b₁, rest, hb₁, hrest, rfl⟩
        obtain ⟨b', hb', rfl⟩ := (hset a' rest).mp hrest
        exact ⟨b', hb', by rw [hR hb₁ h₀, List.set_cons_succ]⟩
      · rintro ⟨b', hb', rfl⟩
        exact ⟨b₀, bs.set i b', h₀, (hset a' _).mpr ⟨b', hb', rfl⟩, rfl⟩

/-! ### What is denoted then -/

namespace Json

/-- **A document denotes one node at most.** -/
theorem denotesNode_rightUnique : Relator.RightUnique DenotesNode := by
  intro j n n' h h'
  have hread := (Node.ofJson?_eq_ok_iff (Nat.lt_succ_self j.height)).mpr h
  have hread' := (Node.ofJson?_eq_ok_iff (Nat.lt_succ_self j.height)).mpr h'
  exact Except.ok.inj (hread.symm.trans hread')

/-- An address that leads somewhere in a document leads somewhere in the node too, and **what stands
there may be replaced**: the document then denotes the node with what the new one denotes. -/
def Replaceable (place : List Nat) (j : Json) (n : Node) : Prop :=
  (∃ m, n.node? place = some m) ∧
    ∀ new n', (j.replaceAt place new).DenotesNode n' ↔
      ∃ m, new.DenotesNode m ∧ n' = n.replaceAt place m

/-- What may be replaced inside one entry of a group may be replaced **among the entries**. -/
theorem forall₂_replaceAt_iff {entries : List Json} {nodes : List Node}
    (h : List.Forall₂ DenotesNode entries nodes) {i : Nat} {e : Json} {place : List Nat}
    (he : entries[i]? = some e)
    (hentry : ∀ {n : Node}, e.DenotesNode n → e.Replaceable place n) :
    ∃ n, nodes[i]? = some n ∧ (∃ m, n.node? place = some m) ∧
      ∀ new nodes', List.Forall₂ DenotesNode (entries.set i (e.replaceAt place new)) nodes' ↔
        ∃ m, new.DenotesNode m ∧ nodes' = nodes.set i (n.replaceAt place m) := by
  obtain ⟨n, hn, hdenotes, hset⟩ := forall₂_set_iff denotesNode_rightUnique h he
  obtain ⟨hplace, hreplace⟩ := hentry hdenotes
  refine ⟨n, hn, hplace, fun new nodes' => ?_⟩
  rw [hset]
  constructor
  · rintro ⟨n', hn', rfl⟩
    obtain ⟨m, hm, rfl⟩ := (hreplace new n').mp hn'
    exact ⟨m, hm, rfl⟩
  · rintro ⟨m, hm, rfl⟩
    exact ⟨n.replaceAt place m, (hreplace new _).mpr ⟨m, hm, rfl⟩, rfl⟩

/-- **A group with other entries** denotes the group of what they denote, if they are as many. -/
theorem denotesNode_withEntries_iff {j : Json} {m : Members} {op : Combinator} {new : List Json}
    (hm : j.Holds m) (hne : j.entries ≠ []) (hop : m.operator = some op.name)
    (hcount : op.Admits new.length) {n : Node} :
    (j.withEntries new).DenotesNode n ↔
      ∃ nodes, List.Forall₂ DenotesNode new nodes ∧ n = .group op nodes := by
  have hm' := hm.withEntries hne new
  constructor
  · rintro (⟨hm'', he, -, -, -, -⟩ | ⟨hm'', he, hop', -, hnodes⟩)
    · obtain rfl := hm'.unique hm''
      cases he
    · obtain rfl := hm'.unique hm''
      obtain rfl := Option.some.inj he
      obtain rfl := Combinator.name_injective (Option.some.inj (hop.symm.trans hop'))
      exact ⟨_, hnodes, rfl⟩
  · rintro ⟨nodes, hnodes, rfl⟩
    exact .group hm' rfl hop hcount hnodes

/-- **Whatever stands at an address may be replaced**: a document denotes with another node there
what it denoted before, with what that node denotes. -/
theorem DenotesNode.replaceable {j : Json} {n : Node} (h : j.DenotesNode n) {place : List Nat}
    {e : Json} (he : j.node? place = some e) : j.Replaceable place n := by
  induction place generalizing j n with
  | nil => exact ⟨⟨n, rfl⟩, fun new n' => ⟨fun hn' => ⟨n', hn', rfl⟩, fun ⟨m, hm, hn'⟩ => hn' ▸ hm⟩⟩
  | cons i place ih =>
    obtain ⟨e₀, he₀, he⟩ := Option.bind_eq_some_iff.mp he
    cases h with
    | leaf hm hnone =>
      rw [hm.entries_eq, hnone] at he₀
      cases he₀
    | @group _ m op entries nodes hm hentries hop hcount hnodes =>
      have hj : j.entries = entries := by rw [hm.entries_eq, hentries, Option.getD_some]
      obtain ⟨n₀, hn₀, ⟨m₀, hm₀⟩, hset⟩ :=
        forall₂_replaceAt_iff hnodes (hj ▸ he₀) fun h₀ => ih h₀ he
      refine ⟨⟨m₀, Option.bind_eq_some_iff.mpr ⟨n₀, hn₀, hm₀⟩⟩, fun new n' => ?_⟩
      have hcount' : op.Admits (entries.set i (e₀.replaceAt place new)).length := by
        rw [List.length_set]
        exact hcount
      have hne : j.entries ≠ [] := List.ne_nil_of_mem (List.mem_of_getElem? he₀)
      rw [replaceAt, he₀, hj, denotesNode_withEntries_iff hm hne hop hcount']
      simp only [hset, Node.replaceAt_cons hn₀]
      exact ⟨fun ⟨_, ⟨m, hm, hnodes'⟩, hn'⟩ => ⟨m, hm, hnodes' ▸ hn'⟩,
        fun ⟨m, hm, hn'⟩ => ⟨_, ⟨m, hm, rfl⟩, hn'⟩⟩

end Json

/-- **A document is accepted with another node inside it** exactly if that node denotes something,
and then the condition is what it was, with what is denoted at the address. -/
theorem Condition.ofJson?_replaceAt_eq_ok_iff {j : Json} {c : Condition} (h : ofJson? j = .ok c)
    {place : List Nat} (hplace : place ≠ []) {e : Json} (he : j.node? place = some e) :
    (∃ n, c.toNode.node? place = some n) ∧
      ∀ new c', ofJson? (j.replaceAt place new) = .ok c' ↔
        ∃ m, new.DenotesNode m ∧ c' = c.replaceAt place m := by
  obtain ⟨i, place, rfl⟩ := List.exists_cons_of_ne_nil hplace
  obtain ⟨e₀, he₀, he⟩ := Option.bind_eq_some_iff.mp he
  obtain ⟨m, hm, hop, hnot, hnodes⟩ := ((ofJson?_accepts_grammar j c).mp h).exists_holds
  rw [← rootCombinator?_eq_some_iff] at hop
  rw [← hm.entries_eq] at hnot hnodes
  obtain ⟨n₀, hn₀, ⟨m₀, hm₀⟩, hset⟩ :=
    Json.forall₂_replaceAt_iff hnodes he₀ fun h₀ => h₀.replaceable he
  refine ⟨⟨m₀, Option.bind_eq_some_iff.mpr ⟨n₀, hn₀, hm₀⟩⟩, fun new c' => ?_⟩
  have hne : j.entries ≠ [] := List.ne_nil_of_mem (List.mem_of_getElem? he₀)
  obtain ⟨op', nodes'⟩ := c'
  rw [Json.replaceAt, he₀, ofJson?_eq_ok_iff_of_holds (hm.withEntries hne _),
    ← rootCombinator?_eq_some_iff]
  simp only [Option.getD_some, List.length_set, hset, replaceAt, toNode, Node.replaceAt_cons hn₀,
    Node.entries]
  constructor
  · rintro ⟨hop', -, n, hn, rfl⟩
    obtain rfl := Option.some.inj (hop'.symm.trans hop)
    exact ⟨n, hn, rfl⟩
  · rintro ⟨n, hn, hc'⟩
    obtain ⟨rfl, rfl⟩ := Condition.mk.inj hc'
    exact ⟨hop, hnot, n, hn, rfl⟩

/-! ### Predicates -/

/-- What denotes the value of a pattern is its text. -/
theorem Operand.eq_text_of_denotes {op : Comparison} {v : Json} {x : Operand} (hop : op ≠ .equal)
    (h : Json.DenotesOperand op v x) : ∃ s, v = .text s ∧ x = .text s := by
  cases h with
  | text op s => exact ⟨s, rfl, rfl⟩
  | _ => exact absurd rfl hop

/-- Only texts are written as texts. -/
theorem Operand.eq_text_of_toJson {x : Operand} {s : String} (h : x.toJson = .text s) :
    x = .text s := by
  cases x with
  | text t => exact congrArg Operand.text (Json.text.inj h)
  | integer n => cases h
  | real y =>
    rw [toJson] at h
    cases hy : FiniteFloat.ofFloat? y with
    | none => rw [hy] at h; cases h
    | some z => rw [hy] at h; cases h

/-- **What a finite value is written as** denotes that value and no other, and it denotes a pattern
only if the value is a text. -/
theorem Operand.denotes_toJson_iff {op : Comparison} {x x' : Operand} (hx : x.IsFinite) :
    Json.DenotesOperand op x.toJson x' ↔ x' = x ∧ (op ≠ .equal → ∃ s, x = .text s) := by
  constructor
  · intro h
    by_cases hop : op = .equal
    · have hsame := denotes_toJson (fun hne => absurd hop hne) hx
      rw [← Predicate.operandOf?_eq_some_iff] at h hsame
      exact ⟨Option.some.inj (h.symm.trans hsame), fun hne => absurd hop hne⟩
    · obtain ⟨s, hs, rfl⟩ := eq_text_of_denotes hop h
      obtain rfl := eq_text_of_toJson hs
      exact ⟨rfl, fun _ => ⟨s, rfl⟩⟩
  · rintro ⟨rfl, hpattern⟩
    exact denotes_toJson hpattern hx

namespace Predicate

/-- **A predicate is made** of what is given, if that is sound. -/
theorem make?_eq_ok_iff {field : String} {op : Comparison} {x : Operand} {p : Predicate} :
    make? field op x = .ok p ↔ p = ⟨field, op, x⟩ ∧ p.Sound := by
  have hfield : field.isEmpty = true ↔ field = "" := String.isEmpty_iff
  have hpattern : (op.requiresText = true ∧ x.text?.isNone = true) ↔
      ¬(op ≠ .equal → ∃ s, x = .text s) := by
    cases op <;> cases x <;> simp [Comparison.requiresText, Operand.text?]
  rw [make?]
  constructor
  · intro h
    split_ifs at h with hempty hnone
    obtain rfl := Except.ok.inj h
    exact ⟨rfl, mt hfield.mpr hempty, not_not.mp (mt hpattern.mpr hnone)⟩
  · rintro ⟨rfl, hp⟩
    rw [if_neg (mt hfield.mp hp.field), if_neg (mt hpattern.mp (not_not.mpr hp.pattern))]

/-- **What denotes a predicate as it is written** is what it could have been made of. -/
theorem denotesNode_iff_make? {field : String} {op : Comparison} {x : Operand} (hx : x.IsFinite)
    {leaf : Json} (hleaf : leaf.Holds ⟨some op.name, some field, x.toJson, none⟩) {n : Node} :
    leaf.DenotesNode n ↔ ∃ p, make? field op x = .ok p ∧ n = .leaf p := by
  simp only [make?_eq_ok_iff]
  constructor
  · rintro (⟨hm, -, hop, hfield, hne, hx'⟩ | ⟨hm, he, -, -, -⟩)
    · obtain rfl := hleaf.unique hm
      obtain rfl := Comparison.name_injective (Option.some.inj hop)
      obtain rfl := Option.some.inj hfield
      obtain ⟨rfl, hpattern⟩ := (Operand.denotes_toJson_iff hx).mp hx'
      exact ⟨_, ⟨rfl, hne, hpattern⟩, rfl⟩
    · obtain rfl := hleaf.unique hm
      cases he
  · rintro ⟨p, ⟨rfl, hp⟩, rfl⟩
    have hvalue := (Operand.denotes_toJson_iff hx).mpr ⟨rfl, hp.pattern⟩
    exact .leaf hleaf rfl rfl rfl hp.field hvalue

end Predicate

/-- **What is made is what is read.** A predicate is made of a field, a comparison and a value that
is a text, a whole number or a finite floating-point number exactly if the document that says so is
accepted in the place of any node inside a document that is a condition, whatever groups there are
around it. Then the predicate holds just what was given, a number of its own kind, it is what stands
at that address in the condition that is read, and the rest of the condition is what it was. -/
theorem Condition.made_as_read {field : String} {op : Comparison} {x : Operand} (hx : x.IsFinite)
    {leaf : Json} (hleaf : leaf.Holds ⟨some op.name, some field, x.toJson, none⟩) {j : Json}
    {c : Condition} (h : ofJson? j = .ok c) {place : List Nat} (hplace : place ≠ []) {e : Json}
    (he : j.node? place = some e) :
    ((∃ p, Predicate.make? field op x = .ok p) ↔
        ∃ c', ofJson? (j.replaceAt place leaf) = .ok c') ∧
      ∀ p c', Predicate.make? field op x = .ok p → ofJson? (j.replaceAt place leaf) = .ok c' →
        p = ⟨field, op, x⟩ ∧ c'.toNode.node? place = some (.leaf p) ∧
          c' = c.replaceAt place (.leaf p) := by
  obtain ⟨⟨n, hn⟩, hreplace⟩ := ofJson?_replaceAt_eq_ok_iff h hplace he
  have hread : ∀ c', ofJson? (j.replaceAt place leaf) = .ok c' ↔
      ∃ p, Predicate.make? field op x = .ok p ∧ c' = c.replaceAt place (.leaf p) := by
    intro c'
    rw [hreplace]
    simp only [Predicate.denotesNode_iff_make? hx hleaf]
    constructor
    · rintro ⟨m, ⟨p, hp, rfl⟩, hc'⟩
      exact ⟨p, hp, hc'⟩
    · rintro ⟨p, hp, hc'⟩
      exact ⟨.leaf p, ⟨p, hp, rfl⟩, hc'⟩
  refine ⟨⟨fun ⟨p, hp⟩ => ⟨_, (hread _).mpr ⟨p, hp, rfl⟩⟩, fun ⟨c', hc'⟩ => ?_⟩,
    fun p c' hp hc' => ?_⟩
  · obtain ⟨p, hp, -⟩ := (hread c').mp hc'
    exact ⟨p, hp⟩
  · obtain ⟨p', hp', htree⟩ := (hread c').mp hc'
    obtain rfl := Except.ok.inj (hp.symm.trans hp')
    refine ⟨(Predicate.make?_eq_ok_iff.mp hp).1, ?_, htree⟩
    rw [htree, toNode_replaceAt hplace]
    exact Node.node?_replaceAt hn (.leaf p)

/-- A negation inside a condition, as a document. -/
def Json.negation : Json :=
  .object [("e", .array [.array [.text "NOT", .null, .null,
    .array [.array [.text "=", .text "id", .integer 1]]]])]

/-- Inside a negation, `=` takes a floating-point number and `LIKE` takes no number at all. -/
theorem Condition.made_as_read_negated :
    (∃ c, ofJson? (Json.negation.replaceAt [0, 0] (Predicate.toJson ⟨"id", .equal, .real 1⟩)) =
        .ok c ∧ c.toNode.node? [0, 0] = some (.leaf ⟨"id", .equal, .real 1⟩)) ∧
      ¬∃ c, ofJson? (Json.negation.replaceAt [0, 0]
        (Predicate.toJson ⟨"title", .like, .integer 3⟩)) = .ok c := by
  have hone : (Operand.real 1).IsFinite := show (1 : Float).isFinite = true by decide
  have hread : ofJson? Json.negation =
      .ok ⟨.and, [.group .not [.leaf ⟨"id", .equal, .integer 1⟩]]⟩ := rfl
  have hplace : [0, 0] ≠ [] := List.cons_ne_nil 0 [0]
  obtain ⟨hequal, hsame⟩ := made_as_read hone
    (Node.faithful_toJson.leaf ⟨"id", .equal, .real 1⟩) hread hplace rfl
  obtain ⟨hlike, -⟩ := made_as_read (x := .integer 3) trivial
    (Node.faithful_toJson.leaf ⟨"title", .like, .integer 3⟩) hread hplace rfl
  obtain ⟨c, hc⟩ := hequal.mp ⟨_, rfl⟩
  refine ⟨⟨c, hc, (hsame _ c rfl hc).2.1⟩, fun hok => ?_⟩
  obtain ⟨p, hp⟩ := hlike.mpr hok
  cases hp

end Catalogue
