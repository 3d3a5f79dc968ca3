import Catalogue.Proofs.Condition.Growth
import Catalogue.Store.Statement

/-!
# Filters do not vanish

Groups without predicates leave nothing in a text, not even the word that would join them to the
next entry, and a negation looks at its first entry only. A condition that has entries could so
come out as no text at all, and a statement without a filter is about every book.

That does not happen to a condition that has grown from the empty one and from documents
(`Catalogue.Condition.grown_keeps_filter`). Growing never makes an empty group inside a condition,
whatever is added to what (`Catalogue.Condition.Grown.nonemptyGroups`), and a node without empty
groups leaves a predicate in its text because its first entry does
(`Catalogue.Node.Formed.pieces_ne_nil`).
-/

namespace Catalogue

/-! ### Nodes without empty groups -/

namespace Node

variable {admits : Combinator → Nat → Prop} {leaf leaf' : Predicate → Prop}

/-- What is formed as asked for is formed if less is asked of its predicates. -/
theorem Formed.imp {n : Node} (h : n.Formed admits leaf) (hleaf : ∀ p, leaf p → leaf' p) :
    n.Formed admits leaf' := by
  induction h with
  | leaf hp => exact .leaf (hleaf _ hp)
  | group hcount _ ih => exact .group hcount ih

/-- **A node without empty groups leaves something in its template**: its first entry does. -/
theorem Formed.pieces_ne_nil {n : Node} (h : n.Formed (fun _ count => 0 < count) leaf) :
    n.pieces ≠ [] := by
  induction h with
  | leaf _ => exact List.cons_ne_nil _ _
  | @group op entries hcount _ ih =>
    obtain ⟨m, ms, rfl⟩ := List.exists_cons_of_length_pos hcount
    have hm : m.pieces ≠ [] := ih m List.mem_cons_self
    have hjoined : ∀ word : Piece, piecesOfList word (m :: ms) ≠ [] := by
      intro word hnil
      rw [piecesOfList, Template.join_eq_nil, asEntry_eq_nil] at hnil
      exact hm hnil.1
    cases op with
    | and => exact hjoined .and
    | or => exact hjoined .or
    | not =>
      intro hnil
      rw [pieces, Template.negate_eq_nil] at hnil
      exact hm hnil

/-- A group without entries leaves nothing. -/
theorem pieces_group_nil (op : Combinator) : (group op []).pieces = [] := by
  cases op <;> rfl

end Node

namespace Condition

variable {c : Condition}

/-- **No group inside a condition that has grown is empty**, whatever its fields are called and
whatever it has grown from. -/
theorem Grown.nonemptyGroups {named : String → Prop} {mayGrow : Condition → Prop}
    (h : Grown Source named mayGrow c) :
    c.Formed (fun _ count => 0 < count) (fun _ => True) := by
  have hpos : ∀ op count, Combinator.Admits op count → 0 < count := by
    intro op count hcount
    rw [Combinator.Admits] at hcount
    split_ifs at hcount <;> omega
  refine h.formed hpos (fun _ _ _ => trivial) (fun c hc => ?_) fun _ _ _ count => Nat.succ_pos count
  have hsound := (sound_iff_formed.mp hc.sound).mono hpos
  exact ⟨hsound.count, fun n hn => (hsound.entries n hn).imp fun _ _ => trivial⟩

/-! ### Empty texts -/

/-- The text of a condition without empty groups is empty exactly if the condition is. -/
theorem Formed.text_eq_empty_iff {leaf : Predicate → Prop}
    (h : c.Formed (fun _ count => 0 < count) leaf) (r : Rendering) :
    (c.compile r).text = "" ↔ c.isEmpty = true := by
  rw [compile, r.fill_eq_empty_iff, template]
  constructor
  · intro hnil
    by_contra hne
    exact (h.toNode (Bool.eq_false_iff.mpr hne)).pieces_ne_nil hnil
  · intro hempty
    rw [Condition.toNode, List.isEmpty_iff.mp hempty]
    exact Node.pieces_group_nil c.op

/-- **An empty text has no values beside it**, whatever the condition. -/
theorem values_eq_nil_of_text (r : Rendering) (h : (c.compile r).text = "") :
    (c.compile r).values = [] := by
  rw [values_compile, (text_eq_empty_iff r).mp h, List.map_nil]

end Condition

/-- The part of a statement that filters rows is left out exactly if the expression is empty. -/
theorem Clause.filter_eq_empty_iff (x : Clause) : x.filter = "" ↔ x.text = "" := by
  rw [filter]
  split_ifs with h
  · exact iff_of_true rfl (String.isEmpty_iff.mp h)
  · refine iff_of_false (fun hnil => ?_) fun hnil => h (String.isEmpty_iff.mpr hnil)
    exact absurd (String.append_eq_empty_iff.mp hnil).1 (by decide)

/-! ### Statements -/

namespace Store.Statement

variable (d : Dialect)

/-- A text is the same without a part of it exactly if that part is empty. -/
theorem append_append_eq_iff (before part after : String) :
    before ++ part ++ after = before ++ after ↔ part = "" := by
  constructor
  · intro h
    have hlength := congrArg String.length h
    simp only [String.length_append] at hlength
    exact String.length_eq_zero_iff.mp (by omega)
  · intro h
    rw [h, String.append_empty]

/-- A count is one of all books exactly if the part that filters rows is empty. -/
theorem countText_eq_iff (c : Condition) :
    countText d c = "SELECT COUNT(*) FROM books" ↔ (c.compile d.rendering).filter = "" := by
  have h := append_append_eq_iff "SELECT COUNT(*) FROM books" (c.compile d.rendering).filter ""
  rwa [String.append_empty, String.append_empty] at h

/-- A search shows all books exactly if the part that filters rows is empty. -/
theorem booksText_eq_iff (s : Search) (w : Window) :
    booksText d s w =
        "SELECT " ++ shownText s ++ " FROM books" ++ " ORDER BY " ++ orderText s ++ w.clause ↔
      (s.condition.compile d.rendering).filter = "" := by
  have h := append_append_eq_iff ("SELECT " ++ shownText s ++ " FROM books")
    (s.condition.compile d.rendering).filter (" ORDER BY " ++ orderText s ++ w.clause)
  rwa [← String.append_assoc, ← String.append_assoc, ← String.append_assoc,
    ← String.append_assoc] at h

end Store.Statement

namespace Condition

open Store (Statement)

variable {c : Condition}

/-- **A filter never vanishes.** A condition that has grown, whatever from and however, has an empty
text exactly if it has no entries, under every rendering, and no values then. So the statements that
count and show books go without a filter for conditions without entries, and for no others. -/
theorem grown_keeps_filter (h : Grown Source (fun _ => True) (fun _ => True) c) :
    (∀ r : Rendering, ((c.compile r).text = "" ↔ c.isEmpty = true) ∧
      ((c.compile r).text = "" → (c.compile r).values = [])) ∧
    ∀ d : Dialect,
      ((Statement.count c).text? d = some "SELECT COUNT(*) FROM books" ↔ c.isEmpty = true) ∧
      ∀ (s : Search) (w : Window), s.condition = c →
        ((Statement.books s w).text? d =
            some ("SELECT " ++ Statement.shownText s ++ " FROM books" ++ " ORDER BY " ++
              Statement.orderText s ++ w.clause) ↔ c.isEmpty = true) := by
  have htext : ∀ r : Rendering, (c.compile r).text = "" ↔ c.isEmpty = true :=
    h.nonemptyGroups.text_eq_empty_iff
  have hfilter : ∀ d : Dialect, (c.compile d.rendering).filter = "" ↔ c.isEmpty = true := fun d =>
    (Clause.filter_eq_empty_iff _).trans (htext d.rendering)
  refine ⟨fun r => ⟨htext r, values_eq_nil_of_text r⟩, fun d => ⟨?_, ?_⟩⟩
  · rw [Statement.text?, Option.some.injEq, Statement.countText_eq_iff, hfilter]
  · rintro s w rfl
    rw [Statement.text?, Option.some.injEq, Statement.booksText_eq_iff, hfilter]

/-- A negation that was read and has grown, with one more negation beside its entry and a field
without a name. -/
def overgrown : Condition := (negation.not negation).equal "" (.integer 1)

theorem grown_keeps_filter_overgrown :
    Grown Source (fun _ => True) (fun _ => True) overgrown ∧
      (∀ r : Rendering, (overgrown.compile r).text ≠ "") ∧
      (Statement.count overgrown).text? .postgres ≠ some "SELECT COUNT(*) FROM books" ∧
      (Statement.count overgrown).text? .postgres =
        some "SELECT COUNT(*) FROM books WHERE NOT (title = $1)" := by
  have hnegation : Grown Source (fun _ => True) (fun _ => True) negation := .start source_negation
  have hgrown : Grown Source (fun _ => True) (fun _ => True) overgrown :=
    .equal (.not hnegation trivial hnegation) trivial trivial _
  obtain ⟨htext, hstatement⟩ := grown_keeps_filter hgrown
  refine ⟨hgrown, fun r hr => ?_, fun hcount => ?_, by decide⟩
  · exact absurd ((htext r).1.mp hr) (by decide)
  · exact absurd ((hstatement .postgres).1.mp hcount) (by decide)

end Condition

end Catalogue
