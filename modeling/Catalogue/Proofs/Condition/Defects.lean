import Catalogue.Proofs.Condition.Misshapen
import Mathlib.Data.List.Lex
import Mathlib.Data.Nat.Basic

/-!
# Defects of condition documents

A document that is no condition can be wrong in many places at once. Nodes are judged in depth-first
pre-order, a node before its entries and entries in their order, and a document is rejected for the
first defect that is found.

A node is found by its address, the list of the indices that lead to it from the outermost node
(`Catalogue.Json.node?`). Addresses in lexicographic order are nodes in pre-order, so the first
defect is the one with the least address (`Catalogue.Json.FirstDefect`). What is wrong with a node
by itself is stated apart from the reader, in the terms of the grammar: `Catalogue.Json.Defect` for
the nodes inside a condition, `Catalogue.Json.RootDefect` for the outermost one.

The reader takes the same step at every node: it rejects it for a defect of its own, or goes on to
its entries (`Catalogue.Node.ofJson?_step`, `Catalogue.Condition.ofJson?_step`). From this step
`Catalogue.Json.verdict_of_step` makes the verdict on a node out of the verdicts on its entries, and
by induction on how high the document is the reader says of every document what is to be said of it
(`Catalogue.Condition.verdict_ofJson?`).
-/

namespace Catalogue

namespace Json

/-! ### The nodes of a document -/

/-- The **entries** of a node, none if they are absent. -/
def entries (j : Json) : List Json := ((j.held 3 "e").getLast?.bind items?).getD []

/-- The **node at an address**: the outermost one at the empty address, otherwise a node inside the
entry whose index comes first. -/
def node? : List Nat → Json → Option Json
  | [], j => some j
  | i :: place, j => j.entries[i]?.bind (node? place)

/-- The entries of a node are among what it holds. -/
theorem Holds.entries_eq {j : Json} {m : Members} (h : j.Holds m) :
    j.entries = m.entries.getD [] := by
  rw [Json.entries, h.entries]

/-- A node holds one thing only. -/
theorem Holds.unique {j : Json} {m m' : Members} (h : j.Holds m) (h' : j.Holds m') : m = m' := by
  rw [holds_iff] at h h'
  exact h.2.2.trans h'.2.2.symm

/-- What holds something has the shape of a node. -/
theorem Holds.not_misshapen {j : Json} {m : Members} (h : j.Holds m) (mismatch : Mismatch) :
    ¬j.Misshapen mismatch := fun hm =>
  nomatch (decoder_eq_error_iff.mpr ⟨mismatch, hm, rfl⟩).symm.trans (decoder_eq_ok_iff.mpr h)

/-! ### What is wrong with a node by itself -/

/-- What is **wrong with a node inside a condition**, its entries apart, and how it is rejected: in
the order in which a node is judged. -/
inductive Defect : Json → Rejection → Prop
  /-- It does not have the shape of a node. -/
  | shape {j : Json} {mismatch : Mismatch} :
    j.Misshapen mismatch → Defect j (.malformed (.node (.unplaced mismatch) j.compact))
  /-- It has entries, but its operator is no combinator, or none for so many. -/
  | group {j : Json} {m : Members} {entries : List Json} :
    j.Holds m → m.entries = some entries →
      (∀ op : Combinator, m.operator = some op.name → ¬op.Admits entries.length) →
      Defect j (.unsupportedExpression m.operatorText j.compact)
  /-- It has none, but its operator is no comparison. -/
  | comparison {j : Json} {m : Members} :
    j.Holds m → m.entries = none → (∀ op : Comparison, m.operator ≠ some op.name) →
      Defect j (.unsupportedExpression m.operatorText j.compact)
  /-- Its value is none for its comparison. -/
  | operand {j : Json} {m : Members} {op : Comparison} :
    j.Holds m → m.entries = none → m.operator = some op.name →
      (∀ x, ¬DenotesOperand op m.value x) →
      Defect j (.unsupportedOperand m.value.compact j.compact)
  /-- Its field is absent or empty. -/
  | field {j : Json} {m : Members} {op : Comparison} {x : Operand} :
    j.Holds m → m.entries = none → m.operator = some op.name → DenotesOperand op m.value x →
      m.field.getD "" = "" → Defect j (.unsupportedExpression m.operatorText j.compact)

/-- What is **wrong with the outermost node**, its entries apart. -/
inductive RootDefect : Json → Rejection → Prop
  /-- It does not have the shape of a node. -/
  | shape {j : Json} {mismatch : Mismatch} :
    j.Misshapen mismatch → RootDefect j (.ofFault (.unplaced mismatch))
  /-- Its operator is no combinator. -/
  | operator {j : Json} {m : Members} {name : String} :
    j.Holds m → m.operator = some name → (∀ op : Combinator, name ≠ op.name) →
      RootDefect j (.unsupportedExpression name j.compact)
  /-- It is a negation of nothing, or of several nodes. -/
  | negation {j : Json} {m : Members} :
    j.Holds m → m.operator = some Combinator.not.name → (m.entries.getD []).length ≠ 1 →
      RootDefect j (.unsupportedExpression Combinator.not.name j.compact)

/-! ### The first one -/

/-- The rules by which the node at an address is judged: those given if it is the outermost one,
otherwise those for the nodes inside a condition. -/
def rulesAt (own : Json → Rejection → Prop) : List Nat → Json → Rejection → Prop
  | [] => own
  | _ :: _ => Defect

/-- A document has a **defect at an address**. -/
def DefectAt (own : Json → Rejection → Prop) (j : Json) (place : List Nat) (r : Rejection) : Prop :=
  ∃ n, j.node? place = some n ∧ rulesAt own place n r

/-- The **first defect** of a document: no node before it in pre-order has any. -/
structure FirstDefect (own : Json → Rejection → Prop) (j : Json) (place : List Nat)
    (r : Rejection) : Prop where
  /-- The defect is there. -/
  there : j.DefectAt own place r
  /-- No address before it has one. -/
  first : ∀ earlier < place, ∀ r', ¬j.DefectAt own earlier r'

/-- A document **without any defect**. -/
def Flawless (own : Json → Rejection → Prop) (j : Json) : Prop := ∀ place r, ¬j.DefectAt own place r

section Addresses

variable {own : Json → Rejection → Prop} {j e : Json} {i : Nat} {place : List Nat} {r : Rejection}

theorem defectAt_nil : j.DefectAt own [] r ↔ own j r :=
  ⟨fun ⟨_, hn, h⟩ => Option.some.inj hn ▸ h, fun h => ⟨j, rfl, h⟩⟩

theorem rulesAt_defect (place : List Nat) : rulesAt Defect place = Defect := by
  cases place <;> rfl

/-- A defect further in is one of an entry. -/
theorem defectAt_cons :
    j.DefectAt own (i :: place) r ↔ ∃ e, j.entries[i]? = some e ∧ e.DefectAt Defect place r := by
  simp only [DefectAt, node?, Option.bind_eq_some_iff, rulesAt_defect]
  constructor
  · rintro ⟨n, ⟨e, he, hn⟩, h⟩
    exact ⟨e, he, n, hn, h⟩
  · rintro ⟨e, he, n, hn, h⟩
    exact ⟨n, ⟨e, he, hn⟩, h⟩

/-- A document has no defect if neither the outermost node nor any entry has one. -/
theorem flawless_iff :
    j.Flawless own ↔ (∀ r, ¬own j r) ∧ ∀ e ∈ j.entries, e.Flawless Defect := by
  constructor
  · intro h
    refine ⟨fun r hr => h [] r (defectAt_nil.mpr hr), fun e he place r hr => ?_⟩
    obtain ⟨i, hi⟩ := List.mem_iff_getElem?.mp he
    exact h (i :: place) r (defectAt_cons.mpr ⟨e, hi, hr⟩)
  · rintro ⟨hown, hentries⟩ (_ | ⟨i, place⟩) r hr
    · exact hown r (defectAt_nil.mp hr)
    · obtain ⟨e, he, hr⟩ := defectAt_cons.mp hr
      exact hentries e (List.mem_of_getElem? he) place r hr

/-- The outermost node comes before all others. -/
theorem firstDefect_nil : j.FirstDefect own [] r ↔ own j r :=
  ⟨fun h => defectAt_nil.mp h.there,
    fun h => ⟨defectAt_nil.mpr h, fun _ hlt => absurd hlt (List.not_lt_nil _)⟩⟩

/-- **A defect inside an entry comes first** if the outermost node has none, no entry before has
any, and it comes first in its own entry. -/
theorem firstDefect_cons :
    j.FirstDefect own (i :: place) r ↔
      (∀ r', ¬own j r') ∧ (∀ k < i, ∀ e, j.entries[k]? = some e → e.Flawless Defect) ∧
        ∃ e, j.entries[i]? = some e ∧ e.FirstDefect Defect place r := by
  constructor
  · rintro ⟨hthere, hfirst⟩
    obtain ⟨e, he, hthere⟩ := defectAt_cons.mp hthere
    refine ⟨fun r' h => ?_, fun k hk e' he' place' r' h => ?_, e, he, hthere,
      fun earlier hlt r' h => ?_⟩
    · exact hfirst [] (List.nil_lt_cons i place) r' (defectAt_nil.mpr h)
    · exact hfirst (k :: place') (List.cons_lt_cons_iff.mpr (.inl hk)) r'
        (defectAt_cons.mpr ⟨e', he', h⟩)
    · exact hfirst (i :: earlier) (List.cons_lt_cons_iff.mpr (.inr ⟨rfl, hlt⟩)) r'
        (defectAt_cons.mpr ⟨e, he, h⟩)
  · rintro ⟨hown, hbefore, e, he, hthere, hfirst⟩
    refine ⟨defectAt_cons.mpr ⟨e, he, hthere⟩, ?_⟩
    rintro (_ | ⟨k, earlier⟩) hlt r' h
    · exact hown r' (defectAt_nil.mp h)
    · obtain ⟨e', he', h⟩ := defectAt_cons.mp h
      rcases List.cons_lt_cons_iff.mp hlt with hk | ⟨rfl, hless⟩
      · exact hbefore k hk e' he' earlier r' h
      · obtain rfl := Option.some.inj (he.symm.trans he')
        exact hfirst earlier hless r' h

end Addresses

end Json

/-! ### Defects are rejected -/

namespace Predicate

/-- An unknown comparison is rejected. -/
theorem ofMembers?_of_comparison {m : Members} (raw : String)
    (h : ∀ op : Comparison, m.operator ≠ some op.name) :
    ofMembers? raw m = .error (.unsupportedExpression m.operatorText raw) := by
  have hnone : Comparison.ofName? m.operatorText = none := by
    refine Option.eq_none_iff_forall_ne_some.mpr fun op hop => h op ?_
    exact (Members.operatorText_eq_iff op.name_ne_empty).mp (Comparison.ofName?_eq_some_iff.mp hop)
  rw [ofMembers?, hnone]

/-- A known comparison is found. -/
theorem ofName?_operatorText {m : Members} {op : Comparison} (h : m.operator = some op.name) :
    Comparison.ofName? m.operatorText = some op :=
  Comparison.ofName?_eq_some_iff.mpr ((Members.operatorText_eq_iff op.name_ne_empty).mpr h)

/-- A value that is none for its comparison is rejected. -/
theorem ofMembers?_of_operand {m : Members} {op : Comparison} (raw : String)
    (hop : m.operator = some op.name) (h : ∀ x, ¬Json.DenotesOperand op m.value x) :
    ofMembers? raw m = .error (.unsupportedOperand m.value.compact raw) := by
  have hnone : operandOf? op m.value = none :=
    Option.eq_none_iff_forall_ne_some.mpr fun x hx => h x (operandOf?_eq_some_iff.mp hx)
  simp only [ofMembers?, ofName?_operatorText hop, hnone]

/-- A predicate without a field is rejected. -/
theorem ofMembers?_of_field {m : Members} {op : Comparison} {x : Operand} (raw : String)
    (hop : m.operator = some op.name) (hx : Json.DenotesOperand op m.value x)
    (h : m.field.getD "" = "") :
    ofMembers? raw m = .error (.unsupportedExpression m.operatorText raw) := by
  simp only [ofMembers?, ofName?_operatorText hop, operandOf?_eq_some_iff.mpr hx, h]
  rfl

/-- **What is rejected as a predicate** is rejected for its comparison, its value or its field. -/
theorem defect_of_ofMembers?_eq_error {j : Json} {m : Members} {r : Rejection} (hm : j.Holds m)
    (he : m.entries = none) (h : ofMembers? j.compact m = .error r) : j.Defect r := by
  by_cases hop : ∃ op : Comparison, m.operator = some op.name
  · obtain ⟨op, hop⟩ := hop
    by_cases hx : ∃ x, Json.DenotesOperand op m.value x
    · obtain ⟨x, hx⟩ := hx
      by_cases hfield : m.field.getD "" = ""
      · rw [ofMembers?_of_field _ hop hx hfield] at h
        cases h
        exact .field hm he hop hx hfield
      · obtain ⟨field, hfield'⟩ : ∃ field, m.field = some field := by
          cases hsome : m.field with
          | none => exact absurd (by rw [hsome]; rfl) hfield
          | some field => exact ⟨field, rfl⟩
        rw [hfield', Option.getD_some] at hfield
        have hread : ofMembers? j.compact m = .ok ⟨field, op, x⟩ :=
          ofMembers?_eq_ok_iff.mpr ⟨hop, hfield', hfield, hx⟩
        cases hread.symm.trans h
    · have hnone := not_exists.mp hx
      rw [ofMembers?_of_operand _ hop hnone] at h
      cases h
      exact .operand hm he hop hnone
  · have hnone := not_exists.mp hop
    rw [ofMembers?_of_comparison _ hnone] at h
    cases h
    exact .comparison hm he hnone

end Predicate

/-- Entries are no group if their operator is no combinator, or none for so many. -/
theorem Combinator.ofEntries?_eq_none_iff {m : Members} {count : Nat} :
    ofEntries? m.operatorText count = none ↔
      ∀ op : Combinator, m.operator = some op.name → ¬op.Admits count := by
  rw [Option.eq_none_iff_forall_ne_some]
  refine forall_congr' fun op => ?_
  rw [Ne, ofEntries?_eq_some_iff, Members.operatorText_eq_iff op.name_ne_empty, not_and]

/-- An operator that is no combinator is none for the outermost node, either. -/
theorem Condition.rootCombinator?_eq_none {m : Members} {name : String}
    (hname : m.operator = some name) (h : ∀ op : Combinator, name ≠ op.name) :
    rootCombinator? m = none := by
  refine Option.eq_none_iff_forall_ne_some.mpr fun op hop => ?_
  rcases rootCombinator?_eq_some_iff.mp hop with ⟨habsent, -⟩ | hsome
  · exact nomatch hname.symm.trans habsent
  · exact h op (Option.some.inj (hname.symm.trans hsome))

namespace Json

variable {j : Json} {m : Members} {r : Rejection}

/-- **A node with a defect is rejected for it.** -/
theorem Defect.ofJson?_eq (h : j.Defect r) (depth : Nat) :
    Node.ofJson? (depth + 1) j = .error r := by
  cases h with
  | shape hshape => rw [Node.ofJson?, decoder_eq_error_iff.mpr ⟨_, hshape, rfl⟩]
  | group hm he hop =>
    rw [Node.ofJson?, decoder_eq_ok_iff.mpr hm]
    simp only [he, Combinator.ofEntries?_eq_none_iff.mpr hop]
  | comparison hm he hop =>
    rw [Node.ofJson?, decoder_eq_ok_iff.mpr hm]
    simp only [he, Predicate.ofMembers?_of_comparison j.compact hop]
  | operand hm he hop hx =>
    rw [Node.ofJson?, decoder_eq_ok_iff.mpr hm]
    simp only [he, Predicate.ofMembers?_of_operand j.compact hop hx]
  | field hm he hop hx hfield =>
    rw [Node.ofJson?, decoder_eq_ok_iff.mpr hm]
    simp only [he, Predicate.ofMembers?_of_field j.compact hop hx hfield]

/-- An outermost node with a defect is rejected for it. -/
theorem RootDefect.ofJson?_eq (h : j.RootDefect r) : Condition.ofJson? j = .error r := by
  cases h with
  | shape hshape => rw [Condition.ofJson?, decoder_eq_error_iff.mpr ⟨_, hshape, rfl⟩]
  | operator hm hname hop =>
    have hnone := Condition.rootCombinator?_eq_none hname hop
    rw [Condition.ofJson?, decoder_eq_ok_iff.mpr hm]
    simp only [hnone, Members.operatorText, hname, Option.getD_some]
  | negation hm hname hcount =>
    rw [Condition.ofJson?, decoder_eq_ok_iff.mpr hm]
    simp only [Condition.rootCombinator?_eq_some_iff.mpr (.inr hname)]
    rw [if_pos ⟨trivial, hcount⟩]

/-- A node has one defect of its own at most. -/
theorem Defect.unique {r' : Rejection} (h : j.Defect r) (h' : j.Defect r') : r = r' :=
  Except.error.inj ((h.ofJson?_eq 0).symm.trans (h'.ofJson?_eq 0))

/-- The outermost node has one defect of its own at most. -/
theorem RootDefect.unique {r' : Rejection} (h : j.RootDefect r) (h' : j.RootDefect r') : r = r' :=
  Except.error.inj (h.ofJson?_eq.symm.trans h'.ofJson?_eq)

/-- There is one first defect at most, if every node has one defect of its own at most. -/
theorem FirstDefect.unique {own : Json → Rejection → Prop} {place place' : List Nat}
    {r' : Rejection} (h : j.FirstDefect own place r) (h' : j.FirstDefect own place' r')
    (hown : ∀ {n r r'}, own n r → own n r' → r = r') : place = place' ∧ r = r' := by
  have hplace : place = place' := by
    rcases lt_trichotomy place place' with hlt | heq | hlt
    · exact absurd h.there (h'.first place hlt r)
    · exact heq
    · exact absurd h'.there (h.first place' hlt r')
  subst hplace
  obtain ⟨n, hn, hr⟩ := h.there
  obtain ⟨n', hn', hr'⟩ := h'.there
  obtain rfl := Option.some.inj (hn.symm.trans hn')
  cases place with
  | nil => exact ⟨rfl, hown hr hr'⟩
  | cons i place => exact ⟨rfl, Defect.unique hr hr'⟩

/-! ### Nodes without a defect of their own -/

/-- A node with entries is a group of its own right if its operator is a combinator for so many. -/
theorem not_defect_iff_of_group {entries : List Json} (hm : j.Holds m)
    (he : m.entries = some entries) :
    (∀ r, ¬j.Defect r) ↔ ∃ op : Combinator, m.operator = some op.name ∧
      op.Admits entries.length := by
  constructor
  · intro h
    by_contra hop
    refine h _ (.group hm he fun op hname hadmits => hop ⟨op, hname, hadmits⟩)
  · rintro ⟨op, hname, hadmits⟩ r hr
    have hgroup : ∀ {m'}, j.Holds m' → m'.entries ≠ none := by
      intro m' hm' he'
      obtain rfl := hm.unique hm'
      exact nomatch he.symm.trans he'
    cases hr with
    | shape hshape => exact hm.not_misshapen _ hshape
    | group hm' he' hop =>
      obtain rfl := hm.unique hm'
      obtain rfl := Option.some.inj (he.symm.trans he')
      exact hop op hname hadmits
    | comparison hm' he' => exact hgroup hm' he'
    | operand hm' he' => exact hgroup hm' he'
    | field hm' he' => exact hgroup hm' he'

/-- The outermost node has no defect of its own if its operator is a combinator, and a negation has
one entry. -/
theorem not_rootDefect_iff (hm : j.Holds m) :
    (∀ r, ¬j.RootDefect r) ↔ ∃ op, Condition.rootCombinator? m = some op ∧
      (op = .not → (m.entries.getD []).length = 1) := by
  constructor
  · intro h
    have hop : ∃ op, Condition.rootCombinator? m = some op := by
      cases hname : m.operator with
      | none => exact ⟨.and, Condition.rootCombinator?_eq_some_iff.mpr (.inl ⟨hname, rfl⟩)⟩
      | some name =>
        by_contra hop
        refine h _ (.operator hm hname fun op heq => hop ⟨op, ?_⟩)
        exact Condition.rootCombinator?_eq_some_iff.mpr (.inr (hname.trans (congrArg some heq)))
    obtain ⟨op, hop⟩ := hop
    refine ⟨op, hop, ?_⟩
    rintro rfl
    by_contra hcount
    rcases Condition.rootCombinator?_eq_some_iff.mp hop with ⟨-, hand⟩ | hname
    · cases hand
    · exact h _ (.negation hm hname hcount)
  · rintro ⟨op, hop, hnot⟩ r hr
    cases hr with
    | shape hshape => exact hm.not_misshapen _ hshape
    | operator hm' hname hunknown =>
      obtain rfl := hm.unique hm'
      exact nomatch hop.symm.trans (Condition.rootCombinator?_eq_none hname hunknown)
    | negation hm' hname hcount =>
      obtain rfl := hm.unique hm'
      have hop' := Condition.rootCombinator?_eq_some_iff.mpr (.inr hname)
      exact hcount (hnot (Option.some.inj (hop.symm.trans hop')))

end Json

/-! ### One step of the reader -/

/-- **What the reader does at a node inside a condition**: it rejects it for a defect of its own, or
goes on to its entries. -/
theorem Node.ofJson?_step (depth : Nat) (j : Json) :
    (∃ r, j.Defect r ∧ ofJson? (depth + 1) j = .error r) ∨
      (∀ r, ¬j.Defect r) ∧ ∃ make : List Node → Node,
        ofJson? (depth + 1) j = (each (ofJson? depth) j.entries).map make := by
  cases hread : Members.decoder.ofValue j with
  | error f =>
    obtain ⟨mismatch, hshape, rfl⟩ := Json.decoder_eq_error_iff.mp hread
    exact .inl ⟨_, .shape hshape, (Json.Defect.shape hshape).ofJson?_eq depth⟩
  | ok m =>
    have hm := Json.decoder_eq_ok_iff.mp hread
    cases he : m.entries with
    | none =>
      cases hp : Predicate.ofMembers? j.compact m with
      | error r =>
        have hdefect := Predicate.defect_of_ofMembers?_eq_error hm he hp
        exact .inl ⟨r, hdefect, hdefect.ofJson?_eq depth⟩
      | ok p =>
        -- a predicate is a node whose entries are read, since it has none
        have hok : ofJson? (depth + 1) j = .ok (.leaf p) := by
          rw [ofJson?, hread]
          simp only [he, hp]
        have hnone : ∀ r, ¬j.Defect r := by
          intro r hr
          cases (hr.ofJson?_eq depth).symm.trans hok
        refine .inr ⟨hnone, fun _ => .leaf p, ?_⟩
        rw [hok, hm.entries_eq, he]
        rfl
    | some entries =>
      cases hop : Combinator.ofEntries? m.operatorText entries.length with
      | none =>
        have hdefect := Json.Defect.group hm he (Combinator.ofEntries?_eq_none_iff.mp hop)
        exact .inl ⟨_, hdefect, hdefect.ofJson?_eq depth⟩
      | some op =>
        obtain ⟨hname, hadmits⟩ := Combinator.ofEntries?_eq_some_iff.mp hop
        rw [Members.operatorText_eq_iff op.name_ne_empty] at hname
        refine .inr ⟨(Json.not_defect_iff_of_group hm he).mpr ⟨op, hname, hadmits⟩, .group op, ?_⟩
        rw [hm.entries_eq, he, Option.getD_some, ofJson?, hread]
        simp only [he, hop]
        cases each (ofJson? depth) entries <;> rfl

/-- **What the reader does at the outermost node** is the same, by other rules. -/
theorem Condition.ofJson?_step (j : Json) :
    (∃ r, j.RootDefect r ∧ ofJson? j = .error r) ∨
      (∀ r, ¬j.RootDefect r) ∧ ∃ make : List Node → Condition,
        ofJson? j = (Node.each (Node.ofJson? j.height) j.entries).map make := by
  cases hread : Members.decoder.ofValue j with
  | error f =>
    obtain ⟨mismatch, hshape, rfl⟩ := Json.decoder_eq_error_iff.mp hread
    exact .inl ⟨_, .shape hshape, (Json.RootDefect.shape hshape).ofJson?_eq⟩
  | ok m =>
    have hm := Json.decoder_eq_ok_iff.mp hread
    by_cases hown : ∃ r, j.RootDefect r
    · obtain ⟨r, hr⟩ := hown
      exact .inl ⟨r, hr, hr.ofJson?_eq⟩
    · have hnone := not_exists.mp hown
      obtain ⟨op, hop, hnot⟩ := (Json.not_rootDefect_iff hm).mp hnone
      have hcount : ¬(op = .not ∧ (m.entries.getD []).length ≠ 1) := fun h => h.2 (hnot h.1)
      refine .inr ⟨hnone, (⟨op, ·⟩), ?_⟩
      rw [ofJson?, hread, hm.entries_eq]
      simp only [hop, if_neg hcount]
      cases Node.each (Node.ofJson? j.height) (m.entries.getD []) <;> rfl

/-! ### The verdict on a document -/

namespace Json

/-- What is to be **said of a document**: one without any defect is accepted, any other is rejected
for its first defect. -/
inductive Verdict {α : Type} (own : Json → Rejection → Prop) (j : Json) : Except Rejection α → Prop
  /-- There is no defect. -/
  | accepted (a : α) : j.Flawless own → Verdict own j (.ok a)
  /-- There is one, and none before it. -/
  | rejected {place : List Nat} {r : Rejection} :
    j.FirstDefect own place r → Verdict own j (.error r)

variable {α : Type} {own : Json → Rejection → Prop}

/-- **Entries one by one** are all without any defect, or the first that has one is rejected. -/
theorem each_cases {read : Json → Except Rejection Node} {js : List Json}
    (h : ∀ e ∈ js, Verdict Defect e (read e)) :
    (∃ ns, Node.each read js = .ok ns ∧ ∀ e ∈ js, e.Flawless Defect) ∨
      ∃ (i : Nat) (e : Json) (place : List Nat) (r : Rejection),
        Node.each read js = .error r ∧ js[i]? = some e ∧
          (∀ k < i, ∀ e' : Json, js[k]? = some e' → e'.Flawless Defect) ∧
          e.FirstDefect Defect place r := by
  induction js with
  | nil => exact .inl ⟨[], rfl, fun _ he => absurd he List.not_mem_nil⟩
  | cons j js ih =>
    have hj := h j List.mem_cons_self
    rw [Node.each]
    generalize read j = x at hj
    cases hj with
    | rejected hfirst =>
      exact .inr ⟨0, j, _, _, rfl, rfl, fun k hk => absurd hk (Nat.not_lt_zero k), hfirst⟩
    | accepted n hflawless =>
      rcases ih fun e he => h e (List.mem_cons_of_mem j he) with
        ⟨ns, hns, hall⟩ | ⟨i, e, place, r, hr, he, hbefore, hfirst⟩
      · exact .inl ⟨n :: ns, by rw [hns], List.forall_mem_cons.mpr ⟨hflawless, hall⟩⟩
      · refine .inr ⟨i + 1, e, place, r, by rw [hr], he, ?_, hfirst⟩
        rintro (_ | k) hk e' he'
        · obtain rfl := Option.some.inj he'
          exact hflawless
        · exact hbefore k (Nat.lt_of_succ_lt_succ hk) e' he'

/-- **The verdict on a node** follows from what the reader does at the node, and from the verdicts
on its entries. -/
theorem verdict_of_step {j : Json} {x : Except Rejection α} {read : Json → Except Rejection Node}
    (hstep : (∃ r, own j r ∧ x = .error r) ∨
      (∀ r, ¬own j r) ∧ ∃ make, x = (Node.each read j.entries).map make)
    (hentries : ∀ e ∈ j.entries, Verdict Defect e (read e)) : Verdict own j x := by
  rcases hstep with ⟨r, hr, rfl⟩ | ⟨hown, make, rfl⟩
  · exact .rejected (firstDefect_nil.mpr hr)
  · rcases each_cases hentries with ⟨ns, hns, hall⟩ | ⟨i, e, place, r, hr, he, hbefore, hfirst⟩
    · rw [hns]
      exact .accepted (make ns) (flawless_iff.mpr ⟨hown, hall⟩)
    · rw [hr]
      exact .rejected (firstDefect_cons.mpr ⟨hown, hbefore, e, he, hfirst⟩)

/-- An entry is less high than its node. -/
theorem height_lt_of_mem_entries {j e : Json} (h : e ∈ j.entries) : e.height < j.height := by
  rw [entries] at h
  cases hlast : (j.held 3 "e").getLast? with
  | none =>
    rw [hlast] at h
    exact absurd h List.not_mem_nil
  | some v =>
    rw [hlast] at h
    cases v with
    | array items =>
      have harray : (array items).height < j.height :=
        height_lt_of_mem_held (List.mem_of_getLast? hlast)
      have hitem := height_le_itemsHeight (show e ∈ items from h)
      rw [height] at harray
      omega
    | _ => exact absurd h List.not_mem_nil

end Json

/-- **The verdict on a node inside a condition.** -/
theorem Node.verdict_ofJson? {depth : Nat} {j : Json} (h : j.height < depth) :
    j.Verdict Json.Defect (ofJson? depth j) := by
  -- an entry is less high than its node, so the fuel that is left suffices for it
  induction depth generalizing j with
  | zero => exact absurd h (Nat.not_lt_zero _)
  | succ depth ih =>
    refine Json.verdict_of_step (ofJson?_step depth j) fun e he => ih ?_
    have := Json.height_lt_of_mem_entries he
    omega

/-- **The verdict on a condition document.** -/
theorem Condition.verdict_ofJson? (j : Json) : j.Verdict Json.RootDefect (ofJson? j) :=
  Json.verdict_of_step (ofJson?_step j) fun _ he =>
    Node.verdict_ofJson? (Json.height_lt_of_mem_entries he)

namespace Json

section Verdicts

variable {α : Type} {own : Json → Rejection → Prop} {j : Json} {x : Except Rejection α}

/-- A document is accepted exactly if it has no defect. -/
theorem Verdict.exists_ok_iff (h : Verdict own j x) : (∃ a, x = .ok a) ↔ j.Flawless own := by
  cases h with
  | accepted a hflawless => exact iff_of_true ⟨a, rfl⟩ hflawless
  | rejected hfirst => exact iff_of_false nofun fun hflawless => hflawless _ _ hfirst.there

/-- A document is rejected exactly for its first defect. -/
theorem Verdict.eq_error_iff (hown : ∀ {n r r'}, own n r → own n r' → r = r')
    (h : Verdict own j x) (r : Rejection) :
    x = .error r ↔ ∃! place, j.FirstDefect own place r := by
  constructor
  · rintro rfl
    cases h with
    | rejected hfirst =>
      exact ⟨_, hfirst, fun place hplace => (hplace.unique hfirst hown).1⟩
  · rintro ⟨place, hplace, -⟩
    cases h with
    | accepted a hflawless => exact absurd hplace.there (hflawless place r)
    | rejected hfirst => rw [(hplace.unique hfirst hown).2]

end Verdicts

end Json

end Catalogue
