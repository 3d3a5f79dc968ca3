import Catalogue.Proofs.Condition.Slots
import Catalogue.Proofs.Condition.Sound

/-!
# How conditions grow

Conditions come from two sources, the empty one and the documents that are read
(`Catalogue.Condition.Source`), and the builder lets them grow from there
(`Catalogue.Condition.Grown`). A document may be a negation at its root, and the builder adds
entries to whatever root it is given; a negation that has grown has two entries, of which the text
knows only the first.

So much is kept whatever grows (`Catalogue.Condition.Grown.formed`): no group inside a condition is
empty and every pattern is a text. That nothing is missing from the text comes to the same as that
every negation has one entry (`Catalogue.Condition.writtenOut_iff`), and that is so as long as no
entry is added to a negation.
-/

namespace Catalogue

namespace Node

/-! ### Formed nodes -/

variable {admits admits' : Combinator → Nat → Prop} {leaf : Predicate → Prop}

/-- What is formed as asked for is formed if less is asked for. -/
theorem Formed.mono {n : Node} (h : n.Formed admits leaf)
    (hadmits : ∀ op count, admits op count → admits' op count) : n.Formed admits' leaf := by
  induction h with
  | leaf hp => exact .leaf hp
  | group hcount _ ih => exact .group (hadmits _ _ hcount) ih

theorem unaryNotsOfList_iff {ms : List Node} : UnaryNotsOfList ms ↔ ∀ m ∈ ms, m.UnaryNots := by
  induction ms with
  | nil => exact iff_of_true trivial (by simp)
  | cons m ms ih => rw [UnaryNotsOfList, ih, List.forall_mem_cons]

/-- Where groups have as many entries as they admit, every negation has one. -/
theorem Formed.unaryNots {n : Node} (h : n.Formed Combinator.Admits leaf) : n.UnaryNots := by
  induction h with
  | leaf _ => trivial
  | group hcount _ ih =>
    refine ⟨fun hop => ?_, unaryNotsOfList_iff.mpr ih⟩
    rwa [Combinator.Admits, if_pos hop] at hcount

/-- A node without empty groups has a predicate. -/
theorem Formed.predicates_ne_nil {n : Node} (h : n.Formed (fun _ count => 0 < count) leaf) :
    n.predicates ≠ [] := by
  induction h with
  | leaf _ => exact List.cons_ne_nil _ _
  | @group op entries hcount _ ih =>
    obtain ⟨m, ms, rfl⟩ := List.exists_cons_of_length_pos hcount
    intro hnil
    exact ih m List.mem_cons_self (List.append_eq_nil_iff.mp hnil).1

end Node

namespace Condition

/-- A condition is **formed** as asked for: its entries are, and it has as many of them as it would
need inside another one, unless it is empty and no negation. -/
structure Formed (admits : Combinator → Nat → Prop) (leaf : Predicate → Prop) (c : Condition) :
    Prop where
  /-- The number of its entries. -/
  count : (c.entries = [] ∧ c.op ≠ .not) ∨ admits c.op c.entries.length
  /-- Its entries. -/
  entries : ∀ n ∈ c.entries, n.Formed admits leaf

variable {admits admits' : Combinator → Nat → Prop} {leaf : Predicate → Prop} {c sub : Condition}

theorem Formed.mono (h : c.Formed admits leaf)
    (hadmits : ∀ op count, admits op count → admits' op count) : c.Formed admits' leaf :=
  ⟨h.count.imp_right (hadmits _ _), fun n hn => (h.entries n hn).mono hadmits⟩

/-- Where groups have as many entries as they admit, every negation has one. -/
theorem Formed.unaryNots (h : c.Formed Combinator.Admits leaf) : c.UnaryNots := by
  refine ⟨fun hop => ?_, Node.unaryNotsOfList_iff.mpr fun n hn => (h.entries n hn).unaryNots⟩
  rcases h.count with ⟨-, hne⟩ | hcount
  · exact absurd hop hne
  · rwa [Combinator.Admits, if_pos hop] at hcount

/-- A condition that has entries is formed inside another one. -/
theorem Formed.toNode (h : c.Formed admits leaf) (hne : c.isEmpty = false) :
    c.toNode.Formed admits leaf := by
  refine .group (h.count.resolve_left fun hempty => ?_) h.entries
  rw [isEmpty, hempty.1] at hne
  cases hne

/-- A condition stays formed with one more entry, if its root admits one. -/
theorem Formed.push (h : c.Formed admits leaf) (hgrow : ∀ count, admits c.op (count + 1)) {n : Node}
    (hn : n.Formed admits leaf) : (c.push n).Formed admits leaf := by
  refine ⟨.inr ?_, fun m hm => ?_⟩
  · rw [Condition.push, List.length_append]
    exact hgrow _
  · rcases List.mem_append.mp hm with hm | hm
    · exact h.entries m hm
    · rw [List.mem_singleton.mp hm]
      exact hn

theorem sound_iff_formed : c.Sound ↔ c.Formed Combinator.Admits Predicate.Sound := by
  constructor
  · refine fun h => ⟨?_, h.entries⟩
    rw [Combinator.Admits]
    split_ifs with hop
    · exact .inr (h.unary hop)
    · rcases List.eq_nil_or_concat c.entries with hnil | ⟨entries, n, hconcat⟩
      · exact .inl ⟨hnil, hop⟩
      · exact .inr (by simp [hconcat])
  · exact fun h => ⟨h.unaryNots.1, h.entries⟩

/-! ### Where they come from -/

/-- The conditions to **start with**: the empty one, and those that are read. -/
inductive Source : Condition → Prop
  /-- The empty condition. -/
  | empty : Source .empty
  /-- A condition from a document. -/
  | document {j : Json} {c : Condition} (h : ofJson? j = .ok c) : Source c
  /-- A condition from a text. -/
  | text {s : String} {c : Condition} (h : ofText? s = .ok c) : Source c

/-- The conditions that have **grown** from those to start with: each entry was added to a condition
that may grow, and each field is named as asked for. -/
inductive Grown (start : Condition → Prop) (named : String → Prop) (mayGrow : Condition → Prop) :
    Condition → Prop
  /-- A condition to start with. -/
  | start {c : Condition} (h : start c) : Grown start named mayGrow c
  /-- A field equals a value. -/
  | equal {c : Condition} {field : String} (hc : Grown start named mayGrow c) (hgrow : mayGrow c)
    (hfield : named field) (x : Operand) : Grown start named mayGrow (c.equal field x)
  /-- A field contains a text. -/
  | like {c : Condition} {field : String} (hc : Grown start named mayGrow c) (hgrow : mayGrow c)
    (hfield : named field) (text : String) : Grown start named mayGrow (c.like field text)
  /-- A field contains a text in whatever letter case. -/
  | ilike {c : Condition} {field : String} (hc : Grown start named mayGrow c) (hgrow : mayGrow c)
    (hfield : named field) (text : String) : Grown start named mayGrow (c.ilike field text)
  /-- One of the entries of another condition. -/
  | or {c sub : Condition} (hc : Grown start named mayGrow c) (hgrow : mayGrow c)
    (hsub : Grown start named mayGrow sub) : Grown start named mayGrow (c.or sub)
  /-- Not another condition. -/
  | not {c sub : Condition} (hc : Grown start named mayGrow c) (hgrow : mayGrow c)
    (hsub : Grown start named mayGrow sub) : Grown start named mayGrow (c.not sub)

section Grown

variable {start mayGrow : Condition → Prop} {named : String → Prop}

/-- **What grows stays formed**, if the roots that may grow admit one more entry. -/
theorem Grown.formed (h : Grown start named mayGrow c)
    (hadmits : ∀ op count, op.Admits count → admits op count)
    (hleaf : ∀ p : Predicate, named p.field →
      (p.comparison ≠ .equal → ∃ s, p.operand = .text s) → leaf p)
    (hstart : ∀ c, start c → c.Formed admits leaf)
    (hroot : ∀ c, Grown start named mayGrow c → mayGrow c → ∀ count, admits c.op (count + 1)) :
    c.Formed admits leaf := by
  induction h with
  | start h => exact hstart _ h
  | equal hc hgrow hfield x ih =>
    exact ih.push (hroot _ hc hgrow) (.leaf (hleaf _ hfield fun hop => absurd rfl hop))
  | like hc hgrow hfield text ih =>
    exact ih.push (hroot _ hc hgrow) (.leaf (hleaf _ hfield fun _ => ⟨_, rfl⟩))
  | ilike hc hgrow hfield text ih =>
    exact ih.push (hroot _ hc hgrow) (.leaf (hleaf _ hfield fun _ => ⟨_, rfl⟩))
  | @or c sub hc hgrow _ ih ihsub =>
    rw [Condition.or]
    split_ifs with hempty
    · exact ih
    · have hpos : 0 < sub.entries.length :=
        List.length_pos_iff.mpr fun hnil => hempty (List.isEmpty_iff.mpr hnil)
      exact ih.push (hroot _ hc hgrow) (.group (hadmits .or _ hpos) ihsub.entries)
  | @not c sub hc hgrow _ ih ihsub =>
    rw [Condition.not]
    split_ifs with hempty
    · exact ih
    · have hsub := ihsub.toNode (Bool.eq_false_iff.mpr hempty)
      refine ih.push (hroot _ hc hgrow) (.group (hadmits .not 1 rfl) fun n hn => ?_)
      rw [List.mem_singleton.mp hn]
      exact hsub

/-- What grows from the empty condition joins by `AND`. -/
theorem Grown.op_eq_and (h : Grown (· = .empty) named mayGrow c) : c.op = .and := by
  induction h with
  | start h => rw [h]; rfl
  | equal _ _ _ _ ih => exact ih
  | like _ _ _ _ ih => exact ih
  | ilike _ _ _ _ ih => exact ih
  | or _ _ _ ih _ =>
    rw [Condition.or]
    split_ifs
    · exact ih
    · exact ih
  | not _ _ _ ih _ =>
    rw [Condition.not]
    split_ifs
    · exact ih
    · exact ih

end Grown

/-! ### What is read -/

/-- **A node that is read is sound**, whatever the document. -/
theorem sound_of_denotesNode {j : Json} {n : Node} (h : j.DenotesNode n) : n.Sound := by
  induction h using Json.DenotesNode.induction with
  | @leaf _ m op field x _ _ _ _ hne hx =>
    refine .leaf ⟨hne, fun hop => ?_⟩
    generalize m.value = v at hx
    cases hx with
    | text op s => exact ⟨s, rfl⟩
    | integer n => exact absurd rfl hop
    | large h => exact absurd rfl hop
    | real x => exact absurd rfl hop
  | group _ _ _ hcount hnodes ih =>
    refine .group (hnodes.length_eq ▸ hcount) fun n hn => ?_
    obtain ⟨_, _, _, hsound⟩ := ih n hn
    exact hsound

/-- What is read has been a node. -/
theorem exists_holds {j : Json} (h : ofJson? j = .ok c) : ∃ m, j.Holds m := by
  rw [ofJson?] at h
  split at h
  · cases h
  · rename_i m hm
    exact ⟨m, Json.decoder_eq_ok_iff.mp hm⟩

/-- Every entry of a condition that is read is denoted by an entry of its document. -/
theorem exists_denotes {j : Json} (h : ofJson? j = .ok c) {n : Node} (hn : n ∈ c.entries) :
    ∃ m entries e, j.Holds m ∧ m.entries = some entries ∧ e ∈ entries ∧ e.DenotesNode n := by
  obtain ⟨m, hm⟩ := exists_holds h
  obtain ⟨-, -, hentries⟩ := (ofJson?_eq_ok_iff_of_holds hm).mp h
  obtain ⟨e, he, hdenotes⟩ := Json.exists_of_forall₂ hentries n hn
  cases hsome : m.entries with
  | none => exact absurd (hsome ▸ he) List.not_mem_nil
  | some entries => exact ⟨m, entries, e, hm, hsome, by rwa [hsome] at he, hdenotes⟩

/-- **A condition that is read is sound**, whatever the document. -/
theorem sound_of_ofJson? {j : Json} (h : ofJson? j = .ok c) : c.Sound := by
  obtain ⟨m, hm⟩ := exists_holds h
  obtain ⟨-, hnot, hentries⟩ := (ofJson?_eq_ok_iff_of_holds hm).mp h
  refine ⟨fun hop => hentries.length_eq ▸ hnot hop, fun n hn => ?_⟩
  obtain ⟨_, _, _, _, _, _, hdenotes⟩ := exists_denotes h hn
  exact sound_of_denotesNode hdenotes

/-- **A condition to start with is sound.** -/
theorem Source.sound (h : Source c) : c.Sound := by
  cases h with
  | empty => exact Built.empty.sound
  | document h => exact sound_of_ofJson? h
  | text h =>
    rw [ofText?] at h
    split at h
    · cases h
    · exact sound_of_ofJson? h

end Condition

/-! ### What is missing from a text -/

namespace Node

mutual

/-- **A negation with a second entry is missing predicates**: a node without empty groups whose
template speaks of all its predicates has only negations of one entry. -/
theorem unaryNots_of_length_le {leaf : Predicate → Prop} : ∀ {m : Node},
    m.Formed (fun _ count => 0 < count) leaf →
    m.predicates.length ≤ (Template.predicates m.pieces).length → m.UnaryNots
  | .leaf _, _, _ => trivial
  | .group .not [], .group hcount _, _ => absurd hcount (Nat.lt_irrefl 0)
  | .group .not (m :: ms), .group _ hentries, hlength => by
    obtain ⟨hm, hms⟩ := List.forall_mem_cons.mp hentries
    rw [pieces, piecesOfHead, predicates, predicatesOfList, Template.predicates_negate,
      List.length_append] at hlength
    have hle := (sublist_predicates m).length_le
    -- nothing can stand behind the first entry, for it would have a predicate
    obtain rfl : ms = [] := by
      cases ms with
      | nil => rfl
      | cons n ns =>
        have hn := List.length_pos_iff.mpr (hms n List.mem_cons_self).predicates_ne_nil
        rw [predicatesOfList, List.length_append] at hlength
        omega
    rw [predicatesOfList, List.length_nil, Nat.add_zero] at hlength
    exact ⟨fun _ => rfl, unaryNots_of_length_le hm hlength, trivial⟩
  | .group .and _, .group _ hentries, hlength =>
    ⟨nofun, unaryNotsOfList_of_length_le .and hentries hlength⟩
  | .group .or _, .group _ hentries, hlength =>
    ⟨nofun, unaryNotsOfList_of_length_le .or hentries hlength⟩

/-- Joined nodes whose template speaks of all their predicates have only negations of one entry. -/
theorem unaryNotsOfList_of_length_le {leaf : Predicate → Prop} (op : Combinator) :
    ∀ {ms : List Node}, (∀ m ∈ ms, m.Formed (fun _ count => 0 < count) leaf) →
    (predicatesOfList ms).length ≤ (Template.predicates (piecesOfList op.piece ms)).length →
    UnaryNotsOfList ms
  | [], _, _ => trivial
  | m :: ms, hentries, hlength => by
    obtain ⟨hm, hms⟩ := List.forall_mem_cons.mp hentries
    rw [piecesOfList, predicatesOfList, Template.predicates_join, predicates_asEntry,
      List.length_append, List.length_append] at hlength
    have hle := (sublist_predicates m).length_le
    have hles := (sublist_predicatesOfList op ms).length_le
    exact ⟨unaryNots_of_length_le hm (by omega), unaryNotsOfList_of_length_le op hms (by omega)⟩

end

end Node

namespace Condition

variable {leaf : Predicate → Prop} {c : Condition}

/-- A condition is **written out** if none of its predicates is missing from its text, and none of
their values from the list beside it. -/
def WrittenOut (c : Condition) : Prop :=
  ∀ r : Rendering, (c.compile r).values = c.predicates.map (·.operand) ∧
    ∀ k p, c.predicates[k]? = some p →
      ∃ before after, (c.compile r).text = before ++ r.predicate (k + 1) p ++ after

/-- Where every negation has one entry, **every predicate has its place in the text**, behind the
places of the predicates before it. -/
theorem exists_text_eq (h : c.UnaryNots) (r : Rendering) {k : Nat} {p : Predicate}
    (hp : c.predicates[k]? = some p) :
    ∃ before after, c.template = before ++ .slot p :: after ∧
      (Template.predicates before).length = k ∧
      (c.compile r).text = r.fill 1 before ++ r.predicate (k + 1) p ++ r.fill (k + 2) after := by
  rw [← predicates_template h] at hp
  obtain ⟨before, after, htemplate, hlength⟩ := Template.exists_slot hp
  refine ⟨before, after, htemplate, hlength, ?_⟩
  rw [compile, htemplate, r.fill_append, Rendering.fill, hlength, Nat.add_comm 1 k,
    String.append_assoc]

/-- **A condition without empty groups is written out** exactly if every negation has one entry. -/
theorem writtenOut_iff (h : c.Formed (fun _ count => 0 < count) leaf) :
    c.WrittenOut ↔ c.UnaryNots := by
  constructor
  · intro hwritten
    have hvalues := (hwritten ⟨.question, .native⟩).1
    rw [values_compile] at hvalues
    have hlength := congrArg List.length hvalues
    rw [List.length_map, List.length_map] at hlength
    cases hempty : c.isEmpty with
    | false => exact Node.unaryNots_of_length_le (h.toNode hempty) (Nat.le_of_eq hlength.symm)
    | true =>
      obtain ⟨op, entries⟩ := c
      obtain rfl : entries = [] := List.isEmpty_iff.mp hempty
      have hop : op ≠ .not := h.count.elim And.right fun hcount => absurd hcount (Nat.lt_irrefl 0)
      exact ⟨fun hnot => absurd hnot hop, trivial⟩
  · intro hnots r
    refine ⟨values_compile_of_unaryNots hnots r, fun k p hp => ?_⟩
    obtain ⟨before, after, -, -, htext⟩ := exists_text_eq hnots r hp
    exact ⟨_, _, htext⟩

/-! ### What is kept -/

/-- **What growth keeps**, from the sources on and with named fields. No group inside a condition is
ever empty, and patterns are texts. A condition is written out exactly if every negation in it has
one entry, and so it is as long as no entry is added to a negation. -/
theorem grown_keeps_form {mayGrow : Condition → Prop} (h : Grown Source (· ≠ "") mayGrow c) :
    c.Formed (fun _ count => 0 < count) Predicate.Sound ∧ (c.WrittenOut ↔ c.UnaryNots) ∧
      ((∀ d, mayGrow d → d.op ≠ .not) → c.Sound ∧ c.WrittenOut) := by
  have hleaf : ∀ p : Predicate, p.field ≠ "" →
      (p.comparison ≠ .equal → ∃ s, p.operand = .text s) → p.Sound := fun p => .mk
  have hstart : ∀ c, Source c → c.Formed Combinator.Admits Predicate.Sound :=
    fun c hc => sound_iff_formed.mp hc.sound
  have hpos : ∀ op count, Combinator.Admits op count → 0 < count := by
    intro op count hcount
    rw [Combinator.Admits] at hcount
    split_ifs at hcount <;> omega
  have hform : c.Formed (fun _ count => 0 < count) Predicate.Sound :=
    h.formed hpos hleaf (fun c hc => (hstart c hc).mono hpos) fun _ _ _ count => Nat.succ_pos count
  refine ⟨hform, writtenOut_iff hform, fun hroots => ?_⟩
  have hsound : c.Formed Combinator.Admits Predicate.Sound := by
    refine h.formed (fun _ _ hcount => hcount) hleaf hstart fun d _ hd count => ?_
    rw [Combinator.Admits, if_neg (hroots d hd)]
    exact Nat.succ_pos count
  exact ⟨sound_iff_formed.mpr hsound, (writtenOut_iff hform).mpr hsound.unaryNots⟩

/-- The negation of one predicate, as it is read off a document. -/
def negation : Condition := ⟨.not, [.leaf ⟨"title", .equal, .text "Tintin in Tibet"⟩]⟩

theorem source_negation : Source negation :=
  .document (show ofJson? negation.toJson = .ok negation by rfl)

/-- A negation that is read may stand beside other entries. -/
theorem grown_keeps_form_beside :
    Grown Source (· ≠ "") (·.op ≠ .not) ((empty.not negation).like "author" "Herge") ∧
      ((empty.not negation).like "author" "Herge").Sound ∧
      ((empty.not negation).like "author" "Herge").WrittenOut := by
  have hgrown : Grown Source (· ≠ "") (·.op ≠ .not) ((empty.not negation).like "author" "Herge") :=
    .like (.not (.start .empty) (by decide) (.start source_negation)) (by decide) (by decide)
      "Herge"
  exact ⟨hgrown, (grown_keeps_form hgrown).2.2 fun _ hd => hd⟩

/-- **A negation that grows loses its second entry**: the predicate is there, and neither the text
nor the list of values has it. -/
theorem grown_negation_loses_entry :
    Grown Source (· ≠ "") (fun _ => True) (negation.equal "author" (.text "Herge")) ∧
      ¬(negation.equal "author" (.text "Herge")).UnaryNots ∧
      ¬(negation.equal "author" (.text "Herge")).WrittenOut ∧
      (negation.equal "author" (.text "Herge")).fields = ["title", "author"] ∧
      ((negation.equal "author" (.text "Herge")).compile ⟨.question, .native⟩).text =
        "NOT (title = ?)" := by
  refine ⟨.equal (.start source_negation) trivial (by decide) _, fun h => ?_, fun h => ?_, rfl, rfl⟩
  · exact absurd (h.1 rfl) (by decide)
  · exact absurd (congrArg List.length (h ⟨.question, .native⟩).1) (by decide)

end Condition

end Catalogue
