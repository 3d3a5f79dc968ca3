import Catalogue.Condition.Document
import Mathlib.Data.List.Forall2
import Mathlib.Data.List.Basic

/-!
# The grammar of condition documents

Which documents are conditions, and which condition each of them is: the grammar is stated by
itself, as a relation between documents and trees, and the reader is shown to accept it exactly.

A node of a document is an object or an array of at most four items, and holds four things: `o`,
`f`, `v` and `e`, in this order if it is an array (`Catalogue.Json.IsNode`, `Catalogue.Json.held`).
What is absent is as good as `null`. By what it holds a node is a predicate or a group
(`Catalogue.Json.DenotesNode`); the outermost node is a group under rules of its own
(`Catalogue.Json.DenotesCondition`).

Nodes of a document are read with as much fuel as the document is high. That this is enough is part
of `Catalogue.Node.ofJson?_eq_ok_iff`, which is by induction on the fuel: what a node holds is less
high than the node.
-/

namespace Catalogue

/-- So many **entries** may a group inside a condition have. -/
def Combinator.Admits (op : Combinator) (count : Nat) : Prop :=
  if op = .not then count = 1 else 0 < count

namespace Json

/-! ### What a node holds -/

/-- A **node** is an object, whatever other members it has, or an array of at most four items. -/
def IsNode : Json → Prop
  | .object _ => True
  | .array items => items.length ≤ 4
  | _ => False

/-- The values that a node **holds** in the place of one of its parts: the members of the key of an
object, or the item of the index of an array. There is at most one, unless an object has the same
key twice; then the last one counts. -/
def held (index : Nat) (key : String) : Json → List Json
  | .object members => (members.filter (·.1 = key)).map (·.2)
  | .array items => items[index]?.toList
  | _ => []

/-- A value where a **text is optional**: a text or `null`. -/
def IsText : Json → Prop
  | .null => True
  | .text _ => True
  | _ => False

/-- The text, of a text. -/
def text? : Json → Option String
  | .text s => some s
  | _ => none

/-- A value where an **array is optional**: an array or `null`. -/
def IsArray : Json → Prop
  | .null => True
  | .array _ => True
  | _ => False

/-- The items, of an array. -/
def items? : Json → Option (List Json)
  | .array items => some items
  | _ => none

/-- The optional parts of a node are texts and arrays. -/
structure IsTyped (j : Json) : Prop where
  /-- The operator is a text. -/
  operator : ∀ v ∈ j.held 0 "o", v.IsText
  /-- The field is a text. -/
  field : ∀ v ∈ j.held 1 "f", v.IsText
  /-- The entries are an array. -/
  entries : ∀ v ∈ j.held 3 "e", v.IsArray

/-- A node **holds** an operator, a field, a value and entries, each of which may be absent. -/
structure Holds (j : Json) (m : Members) : Prop where
  /-- It is a node at all. -/
  isNode : j.IsNode
  /-- Its parts are of the right kind. -/
  isTyped : j.IsTyped
  /-- The operator. -/
  operator : m.operator = (j.held 0 "o").getLast?.bind text?
  /-- The field. -/
  field : m.field = (j.held 1 "f").getLast?.bind text?
  /-- The value. -/
  value : m.value = (j.held 2 "v").getLast?.getD .null
  /-- The entries. -/
  entries : m.entries = (j.held 3 "e").getLast?.bind items?

/-! ### What it denotes -/

/-- The value that a JSON value denotes **under a comparison**: a text under any, a number under an
equality. A whole number stays one if it fits a signed 64-bit word. -/
inductive DenotesOperand : Comparison → Json → Operand → Prop
  /-- A text. -/
  | text (op : Comparison) (s : String) : DenotesOperand op (.text s) (.text s)
  /-- A whole number that fits. -/
  | integer (n : Int64) : DenotesOperand .equal (.integer n.toInt) (.integer n)
  /-- A whole number that does not. -/
  | large {n : Int} (h : ¬Word.IsSigned n) :
    DenotesOperand .equal (.integer n) (.real (Float.ofInt n))
  /-- Any other number. -/
  | real (x : FiniteFloat) : DenotesOperand .equal (.real x) (.real x.value)

/-- The **node that a JSON value denotes** inside a condition. -/
inductive DenotesNode : Json → Node → Prop
  /-- Without entries it is a predicate: the comparison is known, the value is one for it, and the
  field is not empty. -/
  | leaf {j : Json} {m : Members} {op : Comparison} {field : String} {x : Operand} :
    j.Holds m → m.entries = none → m.operator = some op.name → m.field = some field →
      field ≠ "" → DenotesOperand op m.value x → DenotesNode j (.leaf ⟨field, op, x⟩)
  /-- With entries it is a group: the combinator is known and admits so many entries, and every
  entry denotes a node. -/
  | group {j : Json} {m : Members} {op : Combinator} {entries : List Json} {nodes : List Node} :
    j.Holds m → m.entries = some entries → m.operator = some op.name →
      op.Admits entries.length → List.Forall₂ DenotesNode entries nodes →
      DenotesNode j (.group op nodes)

/-- The **condition that a JSON value denotes**. It joins by `AND` unless it says otherwise, may be
empty unless it is a negation, and every entry denotes a node. -/
structure DenotesCondition (j : Json) (c : Condition) : Prop where
  /-- It holds something, and what it holds as field and value has no effect. -/
  exists_holds : ∃ m, j.Holds m ∧
    ((m.operator = none ∧ c.op = .and) ∨ m.operator = some c.op.name) ∧
    (c.op = .not → (m.entries.getD []).length = 1) ∧
    List.Forall₂ DenotesNode (m.entries.getD []) c.entries

/-! ### Induction over what is denoted -/

theorem exists_of_forall₂ {R : Json → Node → Prop} {js : List Json} {ns : List Node}
    (h : List.Forall₂ R js ns) : ∀ n ∈ ns, ∃ j ∈ js, R j n := by
  induction h with
  | nil => exact fun _ hn => absurd hn List.not_mem_nil
  | cons hn _ ih =>
    refine List.forall_mem_cons.mpr ⟨⟨_, List.mem_cons_self, hn⟩, fun n hn => ?_⟩
    obtain ⟨j, hj, h⟩ := ih n hn
    exact ⟨j, List.mem_cons_of_mem _ hj, h⟩

/-- **What a node denotes is built from what its entries denote**: what is so of predicates, and of
a group as soon as each of its nodes is denoted by an entry of which it is so, is so of all that is
denoted. -/
@[elab_as_elim]
theorem DenotesNode.induction {motive : (j : Json) → (n : Node) → j.DenotesNode n → Prop}
    (leaf : ∀ {j : Json} {m : Members} {op : Comparison} {field : String} {x : Operand}
      (hm : j.Holds m) (he : m.entries = none) (hop : m.operator = some op.name)
      (hfield : m.field = some field) (hne : field ≠ "") (hx : DenotesOperand op m.value x),
      motive j (.leaf ⟨field, op, x⟩) (.leaf hm he hop hfield hne hx))
    (group : ∀ {j : Json} {m : Members} {op : Combinator} {entries : List Json} {nodes : List Node}
      (hm : j.Holds m) (he : m.entries = some entries) (hop : m.operator = some op.name)
      (hcount : op.Admits entries.length) (hnodes : List.Forall₂ DenotesNode entries nodes),
      (∀ n ∈ nodes, ∃ e ∈ entries, ∃ h, motive e n h) →
      motive j (.group op nodes) (.group hm he hop hcount hnodes))
    {j : Json} {n : Node} (h : j.DenotesNode n) : motive j n h :=
  @DenotesNode.rec motive
    (fun js ns _ => List.Forall₂ (fun j n => ∃ h, motive j n h) js ns)
    leaf
    (fun hm he hop hcount hnodes ih =>
      group hm he hop hcount hnodes (exists_of_forall₂ ih))
    .nil (fun hn _ ihn ihns => .cons ⟨hn, ihn⟩ ihns) j n h

/-! ### Reading the parts of a node -/

theorem optional_text_of_isText {v : Json} (h : v.IsText) :
    (Decoder.optional .text).ofValue v = .ok v.text? := by
  cases v with
  | null => rfl
  | text t => rfl
  | _ => exact h.elim

/-- What is refused where a text is optional. -/
theorem optional_text_eq_error {v : Json} (h : ¬v.IsText) :
    (Decoder.optional .text).ofValue v = .error (.unplaced (.kind v.found .text)) := by
  cases v with
  | null => exact absurd trivial h
  | text t => exact absurd trivial h
  | _ => rfl

theorem optional_items_of_isArray {v : Json} (h : v.IsArray) :
    (Decoder.optional (.list .any)).ofValue v = .ok v.items? := by
  cases v with
  | null => rfl
  | array items =>
    have hany : Decoder.any.ofValue = fun v => pure v := rfl
    have hitems : (Decoder.list .any).ofValue (.array items) = .ok items := by
      show items.mapM Decoder.any.ofValue = .ok items
      rw [hany, List.mapM_pure, List.map_id']
      rfl
    show ((Decoder.list .any).ofValue (.array items)).map some = .ok (some items)
    rw [hitems]
    rfl
  | _ => exact h.elim

/-- What is refused where an array is optional. -/
theorem optional_items_eq_error {v : Json} (h : ¬v.IsArray) :
    (Decoder.optional (.list .any)).ofValue v = .error (.unplaced (.kind v.found .sequence)) := by
  cases v with
  | null => exact absurd trivial h
  | array items => exact absurd trivial h
  | _ => rfl

/-! ### Reading a node -/

theorem held_object_cons (index : Nat) (key k : String) (v : Json)
    (members : List (String × Json)) :
    held index key (.object ((k, v) :: members)) =
      if k = key then v :: held index key (.object members)
      else held index key (.object members) := by
  rw [held, held, List.filter_cons]
  split_ifs with h₁ h₂ h₂
  · rfl
  · exact absurd (of_decide_eq_true h₁) h₂
  · exact absurd (decide_eq_true h₂) h₁
  · rfl

/-- What a node makes of a record that has something in it already: the last value counts. -/
def taken (a : Members) (j : Json) : Members where
  operator := (j.held 0 "o").foldl (fun _ v => v.text?) a.operator
  field := (j.held 1 "f").foldl (fun _ v => v.text?) a.field
  value := (j.held 2 "v").foldl (fun _ v => v) a.value
  entries := (j.held 3 "e").foldl (fun _ v => v.items?) a.entries

/-- A member of an object is of the kind that its key wants. -/
structure IsTypedMember (k : String) (v : Json) : Prop where
  /-- The operator is a text. -/
  operator : k = "o" → v.IsText
  /-- The field is a text. -/
  field : k = "f" → v.IsText
  /-- The entries are an array. -/
  entries : k = "e" → v.IsArray

/-- What one member makes of a record. -/
def takenMember (a : Members) (k : String) (v : Json) : Members :=
  if k = "o" then { a with operator := v.text? }
  else if k = "f" then { a with field := v.text? }
  else if k = "v" then { a with value := v }
  else if k = "e" then { a with entries := v.items? }
  else a

theorem isTyped_cons (k : String) (v : Json) (members : List (String × Json)) :
    (object ((k, v) :: members)).IsTyped ↔ IsTypedMember k v ∧ (object members).IsTyped := by
  have hmem : ∀ {index : Nat} {key : String} {P : Json → Prop},
      (∀ w ∈ held index key (.object ((k, v) :: members)), P w) ↔
        (k = key → P v) ∧ ∀ w ∈ held index key (.object members), P w := by
    intro index key P
    rw [held_object_cons]
    split <;> simp [*]
  constructor
  · rintro ⟨ho, hf, he⟩
    rw [hmem] at ho hf he
    exact ⟨⟨ho.1, hf.1, he.1⟩, ⟨ho.2, hf.2, he.2⟩⟩
  · rintro ⟨⟨ho, hf, he⟩, ⟨ho', hf', he'⟩⟩
    exact ⟨hmem.mpr ⟨ho, ho'⟩, hmem.mpr ⟨hf, hf'⟩, hmem.mpr ⟨he, he'⟩⟩

theorem taken_cons (a : Members) (k : String) (v : Json) (members : List (String × Json)) :
    taken a (.object ((k, v) :: members)) = taken (takenMember a k v) (.object members) := by
  simp only [taken, held_object_cons, takenMember]
  by_cases ho : k = "o"
  · subst ho
    rfl
  · by_cases hf : k = "f"
    · subst hf
      rfl
    · by_cases hv : k = "v"
      · subst hv
        rfl
      · by_cases he : k = "e"
        · subst he
          rfl
        · simp only [ho, hf, hv, he, if_false]

/-- A member of the right kind is taken over. -/
theorem ofMembers_cons_of_isTyped {k : String} {v : Json} (h : IsTypedMember k v)
    (members : List (String × Json)) (a : Members) :
    Decoder.ofMembers Members.fields ((k, v) :: members) a =
      Decoder.ofMembers Members.fields members (takenMember a k v) := by
  rw [Decoder.ofMembers]
  by_cases ho : k = "o"
  · subst ho
    simp [Members.fields, Decoder.Field.free, Decoder.Field.of, Except.map,
      optional_text_of_isText (h.operator rfl), takenMember]
  · by_cases hf : k = "f"
    · subst hf
      simp [Members.fields, Decoder.Field.free, Decoder.Field.of, Except.map,
        optional_text_of_isText (h.field rfl), takenMember]
    · by_cases hv : k = "v"
      · subst hv
        simp [Members.fields, Decoder.Field.free, Decoder.Field.of, Except.map, Decoder.any,
          takenMember]
      · by_cases he : k = "e"
        · subst he
          simp [Members.fields, Decoder.Field.free, Decoder.Field.of, Except.map,
            optional_items_of_isArray (h.entries rfl), takenMember]
        · simp [Members.fields, Decoder.Field.free, Decoder.Field.of, takenMember, ho, hf, hv, he,
            Ne.symm ho, Ne.symm hf, Ne.symm hv, Ne.symm he]

/-- What the part of a key has to be, if it is not free. -/
def wantedPart (key : String) : Wanted := if key = "e" then .sequence else .text

/-- A member of the wrong kind is refused for its kind. -/
theorem ofMembers_cons_eq_error {k : String} {v : Json} (h : ¬IsTypedMember k v)
    (members : List (String × Json)) (a : Members) :
    Decoder.ofMembers Members.fields ((k, v) :: members) a =
      .error (.unplaced (.kind v.found (wantedPart k))) := by
  rw [Decoder.ofMembers]
  by_cases ho : k = "o"
  · subst ho
    have hv : ¬v.IsText := fun hv =>
      h ⟨fun _ => hv, fun hk => absurd hk (by decide), fun hk => absurd hk (by decide)⟩
    simp [Members.fields, Decoder.Field.free, Decoder.Field.of, Except.map,
      optional_text_eq_error hv, wantedPart]
  · by_cases hf : k = "f"
    · subst hf
      have hv : ¬v.IsText := fun hv =>
        h ⟨fun hk => absurd hk (by decide), fun _ => hv, fun hk => absurd hk (by decide)⟩
      simp [Members.fields, Decoder.Field.free, Decoder.Field.of, Except.map,
        optional_text_eq_error hv, wantedPart]
    · by_cases he : k = "e"
      · subst he
        have hv : ¬v.IsArray := fun hv =>
          h ⟨fun hk => absurd hk (by decide), fun hk => absurd hk (by decide), fun _ => hv⟩
        simp [Members.fields, Decoder.Field.free, Decoder.Field.of, Except.map,
          optional_items_eq_error hv, wantedPart]
      · exact absurd ⟨fun hk => absurd hk ho, fun hk => absurd hk hf, fun hk => absurd hk he⟩ h

/-- **An object is read member by member**: its parts have to be of the right kind, and the last
member of a key counts. -/
theorem ofMembers_eq_ok_iff (members : List (String × Json)) (a m : Members) :
    Decoder.ofMembers Members.fields members a = .ok m ↔
      (object members).IsTyped ∧ m = taken a (.object members) := by
  induction members generalizing a with
  | nil =>
    have htyped : (object []).IsTyped := ⟨by simp [held], by simp [held], by simp [held]⟩
    rw [Decoder.ofMembers, Except.ok.injEq]
    exact ⟨fun h => ⟨htyped, h.symm⟩, fun h => h.2.symm⟩
  | cons member members ih =>
    -- the member counts until another of its key comes
    obtain ⟨k, v⟩ := member
    rw [isTyped_cons, taken_cons]
    by_cases h : IsTypedMember k v
    · rw [ofMembers_cons_of_isTyped h, ih]
      simp only [h, true_and]
    · rw [ofMembers_cons_eq_error h]
      refine iff_of_false (fun hread => ?_) fun h' => h h'.1.1
      cases hread

/-- The members that an array stands for. -/
def keyed (items : List Json) : List (String × Json) := ["o", "f", "v", "e"].zip items

/-- **An array of at most four items** holds what the object of its items holds. -/
theorem held_keyed {items : List Json} (h : items.length ≤ 4) :
    (array items).held 0 "o" = (object (keyed items)).held 0 "o" ∧
      (array items).held 1 "f" = (object (keyed items)).held 1 "f" ∧
      (array items).held 2 "v" = (object (keyed items)).held 2 "v" ∧
      (array items).held 3 "e" = (object (keyed items)).held 3 "e" := by
  rcases items with _ | ⟨o, _ | ⟨f, _ | ⟨v, _ | ⟨e, _ | ⟨x, rest⟩⟩⟩⟩⟩
  · exact ⟨rfl, rfl, rfl, rfl⟩
  · exact ⟨rfl, rfl, rfl, rfl⟩
  · exact ⟨rfl, rfl, rfl, rfl⟩
  · exact ⟨rfl, rfl, rfl, rfl⟩
  · exact ⟨rfl, rfl, rfl, rfl⟩
  · simp only [List.length_cons] at h
    omega

/-- An array of at most four items is read as the object of its items. -/
theorem ofItems_eq_ofMembers {items : List Json} (h : items.length ≤ 4)
    (tooShort : Nat → Mismatch) (length : Nat) (a : Members) :
    Decoder.ofItems tooShort length 0 Members.fields items a =
      Decoder.ofMembers Members.fields (keyed items) a := by
  rcases items with _ | ⟨o, _ | ⟨f, _ | ⟨v, _ | ⟨e, _ | ⟨x, rest⟩⟩⟩⟩⟩
  · rfl
  · rfl
  · rfl
  · rfl
  · rfl
  · simp only [List.length_cons] at h
    omega

/-- Items behind the last field are noticed after all of the fields. -/
theorem ofItems_append_cons {σ : Type} {fields : List (Decoder.Field σ)} {front : List Json}
    (h : front.length = fields.length) (tooShort : Nat → Mismatch) (length index : Nat) (x : Json)
    (rest : List Json) (a : σ) :
    Decoder.ofItems tooShort length index fields (front ++ x :: rest) a =
      (Decoder.ofItems tooShort length index fields front a).bind fun _ =>
        .error (.unplaced (.tooLong length)) := by
  induction fields generalizing index front a with
  | nil =>
    obtain rfl := List.length_eq_zero_iff.mp h
    rfl
  | cons field fields ih =>
    obtain ⟨v, front, rfl⟩ := List.exists_cons_of_length_eq_add_one h
    rw [List.cons_append, Decoder.ofItems, Decoder.ofItems]
    cases field.decode.ofValue v with
    | error f => rfl
    | ok put => exact ih (Nat.succ.inj h) (index + 1) (put a)

/-- **An array of too many items** is read like its first four, and refused even then. -/
theorem ofItems_eq_of_lt_length {items : List Json} (h : 4 < items.length)
    (tooShort : Nat → Mismatch) (length : Nat) (a : Members) :
    Decoder.ofItems tooShort length 0 Members.fields items a =
      (Decoder.ofMembers Members.fields (keyed items) a).bind fun _ =>
        .error (.unplaced (.tooLong length)) := by
  rcases items with _ | ⟨o, _ | ⟨f, _ | ⟨v, _ | ⟨e, _ | ⟨x, rest⟩⟩⟩⟩⟩
  all_goals simp only [List.length_nil, List.length_cons] at h
  iterate 5 omega
  rw [show keyed (o :: f :: v :: e :: x :: rest) = keyed [o, f, v, e] from rfl,
    ← ofItems_eq_ofMembers (Nat.le_refl [o, f, v, e].length) tooShort length a]
  exact ofItems_append_cons (show [o, f, v, e].length = Members.fields.length from rfl) tooShort
    length 0 x rest a

/-- What a node makes of an empty record is what it holds. -/
theorem holds_iff {j : Json} {m : Members} :
    j.Holds m ↔ j.IsNode ∧ j.IsTyped ∧ m = taken ⟨none, none, .null, none⟩ j := by
  have hlast : ∀ {β : Type} (f : Json → Option β) (vs : List Json),
      vs.foldl (fun _ v => f v) none = vs.getLast?.bind f := by
    intro β f vs
    rcases List.eq_nil_or_concat' vs with rfl | ⟨vs, v, rfl⟩ <;> simp
  have hvalue : ∀ vs : List Json, vs.foldl (fun _ v => v) .null = vs.getLast?.getD .null := by
    intro vs
    rcases List.eq_nil_or_concat' vs with rfl | ⟨vs, v, rfl⟩ <;> simp
  simp only [taken, hlast, hvalue]
  constructor
  · rintro ⟨hnode, htyped, ho, hf, hv, he⟩
    refine ⟨hnode, htyped, ?_⟩
    rw [← ho, ← hf, ← hv, ← he]
  · rintro ⟨hnode, htyped, rfl⟩
    exact ⟨hnode, htyped, rfl, rfl, rfl, rfl⟩

/-- No part of a node has to be there. -/
theorem missing?_eq_none (names : List String) : Decoder.missing? Members.fields names = none := by
  simp [Decoder.missing?, Members.fields, Decoder.Field.free, Decoder.Field.of]

/-- An object is read as its members are. -/
theorem decoder_object (members : List (String × Json)) :
    Members.decoder.ofValue (.object members) =
      Decoder.ofMembers Members.fields members ⟨none, none, .null, none⟩ := by
  simp only [Members.decoder, Decoder.record, missing?_eq_none]
  cases Decoder.ofMembers Members.fields members ⟨none, none, .null, none⟩ <;> rfl

/-- **The decoder reads off a node what it holds.** -/
theorem decoder_eq_ok_iff {j : Json} {m : Members} :
    Members.decoder.ofValue j = .ok m ↔ j.Holds m := by
  rw [holds_iff]
  cases j with
  | object members =>
    rw [decoder_object, ofMembers_eq_ok_iff]
    exact ⟨fun h => ⟨trivial, h⟩, fun h => h.2⟩
  | array items =>
    by_cases hlength : items.length ≤ 4
    · obtain ⟨ho, hf, hv, he⟩ := held_keyed hlength
      have htyped : (array items).IsTyped ↔ (object (keyed items)).IsTyped := by
        constructor
        · rintro ⟨h₀, h₁, h₃⟩
          exact ⟨ho ▸ h₀, hf ▸ h₁, he ▸ h₃⟩
        · rintro ⟨h₀, h₁, h₃⟩
          exact ⟨ho ▸ h₀, hf ▸ h₁, he ▸ h₃⟩
      rw [htyped, taken, ho, hf, hv, he]
      simp only [Members.decoder, Decoder.record, ofItems_eq_ofMembers hlength]
      rw [ofMembers_eq_ok_iff]
      exact ⟨fun h => ⟨hlength, h⟩, fun h => h.2⟩
    · refine iff_of_false ?_ fun h => hlength h.1
      simp only [Members.decoder, Decoder.record,
        ofItems_eq_of_lt_length (Nat.lt_of_not_le hlength)]
      cases Decoder.ofMembers Members.fields (keyed items) ⟨none, none, .null, none⟩ with
      | error f =>
        intro h
        cases h
      | ok a =>
        intro h
        cases h
  | _ => exact iff_of_false (fun h => nomatch h) fun h => h.1

/-! ### What a node holds is less high -/

theorem height_le_itemsHeight {v : Json} {items : List Json} (h : v ∈ items) :
    v.height ≤ itemsHeight items := by
  induction items with
  | nil => exact absurd h List.not_mem_nil
  | cons w items ih =>
    rw [itemsHeight]
    rcases List.mem_cons.mp h with rfl | h
    · exact Nat.le_max_left _ _
    · exact Nat.le_trans (ih h) (Nat.le_max_right _ _)

theorem height_le_membersHeight {member : String × Json} {members : List (String × Json)}
    (h : member ∈ members) : member.2.height ≤ membersHeight members := by
  induction members with
  | nil => exact absurd h List.not_mem_nil
  | cons m members ih =>
    rw [membersHeight]
    rcases List.mem_cons.mp h with rfl | h
    · exact Nat.le_max_left _ _
    · exact Nat.le_trans (ih h) (Nat.le_max_right _ _)

theorem height_lt_of_mem_held {j v : Json} {index : Nat} {key : String}
    (h : v ∈ j.held index key) : v.height < j.height := by
  cases j with
  | object members =>
    obtain ⟨member, hmember, rfl⟩ := List.mem_map.mp h
    rw [height]
    exact Nat.lt_succ_of_le (height_le_membersHeight (List.mem_filter.mp hmember).1)
  | array items =>
    rw [height]
    refine Nat.lt_succ_of_le (height_le_itemsHeight ?_)
    exact List.mem_of_getElem? (Option.mem_toList.mp h)
  | _ => exact absurd h List.not_mem_nil

/-- **An entry is less high than its node.** -/
theorem height_lt_of_holds {j : Json} {m : Members} (h : j.Holds m) {entries : List Json}
    (he : m.entries = some entries) : ∀ e ∈ entries, e.height + 1 < j.height := by
  intro e hmem
  obtain ⟨v, hv, hitems⟩ := Option.bind_eq_some_iff.mp (h.entries.symm.trans he)
  obtain rfl : v = .array entries := by
    cases v with
    | array items => exact congrArg Json.array (Option.some.inj hitems)
    | _ => exact absurd hitems (by simp [items?])
  have harray : (array entries).height < j.height :=
    height_lt_of_mem_held (List.mem_of_getLast? hv)
  have hentry : e.height < (array entries).height := by
    rw [height]
    exact Nat.lt_succ_of_le (height_le_itemsHeight hmem)
  omega

end Json

/-! ### Reading what a node denotes -/

/-- A comparison is found by its name only. -/
theorem Comparison.ofName?_eq_some_iff {s : String} {op : Comparison} :
    ofName? s = some op ↔ s = op.name := by
  constructor
  · intro h
    simp only [ofName?] at h
    split_ifs at h with h₁ h₂ h₃ <;> cases h <;> assumption
  · rintro rfl
    exact ofName?_name op

/-- A combinator is found by its name only. -/
theorem Combinator.ofName?_eq_some_iff {s : String} {op : Combinator} :
    ofName? s = some op ↔ s = op.name := by
  constructor
  · intro h
    simp only [ofName?] at h
    split_ifs at h with h₁ h₂ h₃ <;> cases h <;> assumption
  · rintro rfl
    exact ofName?_name op

/-- A group is read with as many entries as its combinator admits. -/
theorem Combinator.ofEntries?_eq_some_iff {s : String} {count : Nat} {op : Combinator} :
    ofEntries? s count = some op ↔ s = op.name ∧ op.Admits count := by
  rw [← ofName?_eq_some_iff, ofEntries?]
  cases ofName? s with
  | none => simp
  | some found =>
    rw [Option.some.injEq]
    cases found with
    | not =>
      by_cases hcount : count = 1
      · simp only [hcount, if_true, Option.some.injEq]
        exact ⟨fun h => ⟨h, h ▸ rfl⟩, fun h => h.1⟩
      · simp only [hcount, if_false]
        exact iff_of_false (fun h => nomatch h) fun h => hcount (by simpa [← h.1, Admits] using h.2)
    | _ =>
      by_cases hcount : count = 0
      · simp only [hcount, if_true]
        exact iff_of_false (fun h => nomatch h) fun h => by simpa [← h.1, Admits] using h.2
      · simp only [hcount, if_false, Option.some.injEq]
        refine ⟨fun h => ⟨h, ?_⟩, fun h => h.1⟩
        subst h
        exact Nat.pos_of_ne_zero hcount

/-- The value of a predicate is what its JSON value denotes. -/
theorem Predicate.operandOf?_eq_some_iff {op : Comparison} {v : Json} {x : Operand} :
    operandOf? op v = some x ↔ Json.DenotesOperand op v x := by
  constructor
  · intro h
    cases v with
    | text s =>
      obtain rfl : Operand.text s = x := Option.some.inj h
      exact .text op s
    | integer n =>
      rw [operandOf?] at h
      split_ifs at h with hop
      obtain rfl : Operand.ofInteger n = x := Option.some.inj h
      rw [hop, Operand.ofInteger]
      split_ifs with hn
      · have hround : (Int64.ofInt n).toInt = n := by
          simp only [Word.IsSigned, Word.half] at hn
          exact Int64.toInt_ofInt_of_le (by omega) (by omega)
        have := Json.DenotesOperand.integer (Int64.ofInt n)
        rwa [hround] at this
      · exact .large hn
    | real y =>
      rw [operandOf?] at h
      split_ifs at h with hop
      obtain rfl : Operand.real y.value = x := Option.some.inj h
      rw [hop]
      exact .real y
    | _ => exact nomatch h
  · rintro (⟨op, s⟩ | ⟨n⟩ | ⟨hn⟩ | ⟨y⟩)
    · rfl
    · rw [operandOf?, if_pos rfl, Operand.ofInteger, if_pos (Word.isSigned_toInt n),
        Int64.ofInt_toInt]
    · rw [operandOf?, if_pos rfl, Operand.ofInteger, if_neg hn]
    · rfl

/-- The operator of a node is a name if it is there. -/
theorem Members.operatorText_eq_iff {m : Members} {name : String} (h : name ≠ "") :
    m.operatorText = name ↔ m.operator = some name := by
  rw [operatorText]
  cases m.operator with
  | none => exact iff_of_false (fun hnil => h hnil.symm) (fun hnone => nomatch hnone)
  | some s => exact ⟨congrArg some, Option.some.inj⟩

theorem Comparison.name_ne_empty (op : Comparison) : op.name ≠ "" := by
  cases op <;> decide

theorem Combinator.name_ne_empty (op : Combinator) : op.name ≠ "" := by
  cases op <;> decide

/-- **A predicate is read** off a node exactly if the node denotes it, entries apart. -/
theorem Predicate.ofMembers?_eq_ok_iff {raw : String} {m : Members} {p : Predicate} :
    ofMembers? raw m = .ok p ↔ m.operator = some p.comparison.name ∧ m.field = some p.field ∧
      p.field ≠ "" ∧ Json.DenotesOperand p.comparison m.value p.operand := by
  constructor
  · intro h
    rw [ofMembers?] at h
    split at h
    · exact nomatch h
    · rename_i op hop
      split at h
      · exact nomatch h
      · rename_i x hx
        dsimp only at h
        split_ifs at h with hempty
        obtain rfl := Except.ok.inj h
        rw [Comparison.ofName?_eq_some_iff,
          Members.operatorText_eq_iff op.name_ne_empty] at hop
        have hne : m.field.getD "" ≠ "" := fun hnil => hempty (String.isEmpty_iff.mpr hnil)
        refine ⟨hop, ?_, hne, operandOf?_eq_some_iff.mp hx⟩
        cases hfield : m.field with
        | none => exact absurd (by rw [hfield]; rfl) hne
        | some field => rfl
  · obtain ⟨field, op, x⟩ := p
    rintro ⟨hop, hfield, hne, hx⟩
    dsimp only at hop hfield hne hx
    rw [← Members.operatorText_eq_iff op.name_ne_empty, ← Comparison.ofName?_eq_some_iff] at hop
    rw [← operandOf?_eq_some_iff] at hx
    have hempty : ¬field.isEmpty := fun h => hne (String.isEmpty_iff.mp h)
    simp only [ofMembers?, hop, hx, hfield, Option.getD_some, if_neg hempty]

namespace Node

/-- What comes of values one by one is what each of them denotes. -/
theorem each_eq_ok_iff {read : Json → Except Rejection Node} {js : List Json}
    (h : ∀ j ∈ js, ∀ n, read j = .ok n ↔ j.DenotesNode n) {ns : List Node} :
    each read js = .ok ns ↔ List.Forall₂ Json.DenotesNode js ns := by
  induction js generalizing ns with
  | nil =>
    rw [each, Except.ok.injEq, List.forall₂_nil_left_iff]
    exact eq_comm
  | cons j js ih =>
    have hj := h j List.mem_cons_self
    have hjs : ∀ ns, each read js = .ok ns ↔ List.Forall₂ Json.DenotesNode js ns := fun _ =>
      ih fun k hk => h k (List.mem_cons_of_mem _ hk)
    rw [each, List.forall₂_cons_left_iff]
    constructor
    · intro hread
      split at hread
      · exact nomatch hread
      · rename_i n hn
        split at hread
        · exact nomatch hread
        · rename_i rest hrest
          exact ⟨n, rest, (hj n).mp hn, (hjs rest).mp hrest, (Except.ok.inj hread).symm⟩
    · rintro ⟨n, rest, hn, hrest, rfl⟩
      rw [(hj n).mpr hn, (hjs rest).mpr hrest]

/-- **A node is read exactly if a document denotes it**, with as much fuel as the document is
high. -/
theorem ofJson?_eq_ok_iff {depth : Nat} {j : Json} (h : j.height < depth) {n : Node} :
    ofJson? depth j = .ok n ↔ j.DenotesNode n := by
  induction depth generalizing j n with
  | zero => omega
  | succ depth ih =>
    -- entries are less high than the node, so the fuel that is left suffices for them
    have hentries : ∀ {m entries nodes}, j.Holds m → m.entries = some entries →
        (each (ofJson? depth) entries = .ok nodes ↔
          List.Forall₂ Json.DenotesNode entries nodes) := by
      intro m entries nodes hm he
      refine each_eq_ok_iff fun e hmem n => ih ?_
      have := Json.height_lt_of_holds hm he e hmem
      omega
    constructor
    · -- what the reader accepts at each of its branches is a production of the grammar
      intro hread
      rw [ofJson?] at hread
      split at hread
      · exact nomatch hread
      · rename_i m hm
        have hm := Json.decoder_eq_ok_iff.mp hm
        split at hread
        · rename_i entries he
          split at hread
          · exact nomatch hread
          · rename_i op hop
            obtain ⟨hop, hcount⟩ := Combinator.ofEntries?_eq_some_iff.mp hop
            split at hread
            · exact nomatch hread
            · rename_i nodes hnodes
              obtain rfl := Except.ok.inj hread
              exact .group hm he ((Members.operatorText_eq_iff op.name_ne_empty).mp hop) hcount
                ((hentries hm he).mp hnodes)
        · rename_i he
          split at hread
          · exact nomatch hread
          · rename_i p hp
            obtain rfl := Except.ok.inj hread
            obtain ⟨hop, hfield, hne, hx⟩ := Predicate.ofMembers?_eq_ok_iff.mp hp
            exact .leaf hm he hop hfield hne hx
    · rintro (⟨hm, he, hop, hfield, hne, hx⟩ | ⟨hm, he, hop, hcount, hnodes⟩)
      · have hp : ∀ raw, Predicate.ofMembers? raw _ = .ok ⟨_, _, _⟩ := fun raw =>
          Predicate.ofMembers?_eq_ok_iff.mpr ⟨hop, hfield, hne, hx⟩
        rw [ofJson?, Json.decoder_eq_ok_iff.mpr hm]
        simp only [he, hp]
      · rw [ofJson?, Json.decoder_eq_ok_iff.mpr hm]
        rw [← Members.operatorText_eq_iff (Combinator.name_ne_empty _)] at hop
        simp only [he, Combinator.ofEntries?_eq_some_iff.mpr ⟨hop, hcount⟩,
          (hentries hm he).mpr hnodes]

end Node

namespace Condition

/-- The outermost group joins by `AND` if it does not say otherwise. -/
theorem rootCombinator?_eq_some_iff {m : Members} {op : Combinator} :
    rootCombinator? m = some op ↔ (m.operator = none ∧ op = .and) ∨ m.operator = some op.name := by
  rw [rootCombinator?]
  cases m.operator with
  | none => simp [eq_comm]
  | some name => simp [Combinator.ofName?_eq_some_iff]

/-- **A condition is read** off a node that holds an operator and entries: the operator is known,
a negation has one entry, and every entry denotes a node. -/
theorem ofJson?_eq_ok_iff_of_holds {j : Json} {m : Members} (h : j.Holds m) {c : Condition} :
    ofJson? j = .ok c ↔
      ((m.operator = none ∧ c.op = .and) ∨ m.operator = some c.op.name) ∧
        (c.op = .not → (m.entries.getD []).length = 1) ∧
          List.Forall₂ Json.DenotesNode (m.entries.getD []) c.entries := by
  have hentries : ∀ nodes, Node.each (Node.ofJson? j.height) (m.entries.getD []) = .ok nodes ↔
      List.Forall₂ Json.DenotesNode (m.entries.getD []) nodes := by
    intro nodes
    refine Node.each_eq_ok_iff fun e hmem n => Node.ofJson?_eq_ok_iff ?_
    cases he : m.entries with
    | none =>
      rw [he] at hmem
      exact absurd hmem List.not_mem_nil
    | some entries =>
      rw [he] at hmem
      have := Json.height_lt_of_holds h he e hmem
      omega
  rw [← rootCombinator?_eq_some_iff, ofJson?, Json.decoder_eq_ok_iff.mpr h]
  dsimp only
  constructor
  · intro hread
    split at hread
    · exact nomatch hread
    · rename_i op hop
      split_ifs at hread with hnot
      split at hread
      · exact nomatch hread
      · rename_i nodes hnodes
        obtain rfl := Except.ok.inj hread
        exact ⟨hop, fun hop => Classical.byContradiction fun hlength => hnot ⟨hop, hlength⟩,
          (hentries nodes).mp hnodes⟩
  · rintro ⟨hop, hnot, hnodes⟩
    have hadmits : ¬(c.op = .not ∧ (m.entries.getD []).length ≠ 1) := fun h => h.2 (hnot h.1)
    simp only [hop, if_neg hadmits, (hentries c.entries).mpr hnodes]

/-- **Conditions are read by their grammar**, and by nothing else: a document is accepted exactly if
it denotes a condition, and then it is the condition that is read. -/
theorem ofJson?_accepts_grammar (j : Json) (c : Condition) :
    ofJson? j = .ok c ↔ j.DenotesCondition c := by
  constructor
  · intro hread
    obtain ⟨m, hm⟩ : ∃ m, j.Holds m := by
      rw [ofJson?] at hread
      split at hread
      · exact nomatch hread
      · rename_i m hm
        exact ⟨m, Json.decoder_eq_ok_iff.mp hm⟩
    exact ⟨m, hm, (ofJson?_eq_ok_iff_of_holds hm).mp hread⟩
  · rintro ⟨m, hm, hc⟩
    exact (ofJson?_eq_ok_iff_of_holds hm).mpr hc

/-- Nodes may be arrays and objects in turn, and the operator of the outermost one may be absent. -/
example :
    ofJson? (.object [("e", .array [.array [.text "=", .text "id", .integer 3],
      .object [("e", .array [.array [.text "LIKE", .text "title", .text "%x%"]]),
        ("f", .null), ("o", .text "NOT")]])]) =
    .ok ⟨.and, [.leaf ⟨"id", .equal, .integer 3⟩,
      .group .not [.leaf ⟨"title", .like, .text "%x%"⟩]]⟩ := by
  rfl

end Condition

end Catalogue
