import Catalogue.Proofs.Json.Scalars
import Mathlib.Data.List.Basic

/-!
# Written values are read back

The compact text of a value is read as that value with the members of its objects in order
(`Catalogue.Json.normal`), if arrays and objects nest in it no deeper than the reader goes, and is
refused otherwise: `Catalogue.Json.value_chars`, and `Catalogue.Json.ofText?_compact` for whole
texts. This is about values whose numbers are whole and fit 64 bits (`Catalogue.Json.Plain`).

The proof is by induction on the value. An array or an object is read by a loop, and one lemma for
each of the two loops says what one turn does with one item or member and the text behind it; a
fault of the item is a fault of the loop, so the two outcomes are carried together
(`Catalogue.Json.ReadsIf`).
-/

namespace Catalogue

namespace Json

/-! ### Values that read back -/

/-- A value is **plain** if its numbers are whole and fit 64 bits. -/
inductive Plain : Json → Prop
  /-- The value `null`. -/
  | null : Plain .null
  /-- A truth value. -/
  | bool (b : Bool) : Plain (.bool b)
  /-- A whole number that fits. -/
  | integer {n : Int} (h : FitsWord n) : Plain (.integer n)
  /-- A string. -/
  | text (s : String) : Plain (.text s)
  /-- An array of plain values. -/
  | array {items : List Json} (h : ∀ v ∈ items, Plain v) : Plain (.array items)
  /-- An object of plain values. -/
  | object {members : List (String × Json)} (h : ∀ m ∈ members, Plain m.2) :
    Plain (.object members)

mutual

/-- A value **with the members of its objects in order**, the last of one key in place of all. -/
def normal : Json → Json
  | .array items => .array (normalItems items)
  | .object members => .object (normalMembers [] members)
  | v => v

/-- The items of an array, each with its members in order. -/
def normalItems : List Json → List Json
  | [] => []
  | v :: rest => v.normal :: normalItems rest

/-- Members put in their places, one after the other. -/
def normalMembers (out : List (String × Json)) : List (String × Json) → List (String × Json)
  | [] => out
  | (k, v) :: rest => normalMembers (insertMember k v.normal out) rest

end

/-! ### Two outcomes -/

/-- A reader **refuses** written characters. -/
def Refuses {α : Type} (read : Reader α) (text : List Char) : Prop :=
  ∀ rest p, Closed rest → ∃ f, read ⟨written text ++ rest, p⟩ = .error f

/-- A reader reads written characters if they fit, **and refuses them if not**. -/
def ReadsIf {α : Type} (fits : Prop) (read : Reader α) (text : List Char) (a : α) : Prop :=
  (fits → Reads read text a) ∧ (¬fits → Refuses read text)

theorem Reads.readsIf {α : Type} {fits : Prop} {read : Reader α} {text : List Char} {a : α}
    (h : Reads read text a) (hfits : fits) : ReadsIf fits read text a :=
  ⟨fun _ => h, fun hnot => absurd hfits hnot⟩

/-- What is read may be made into **something else**. -/
theorem ReadsIf.map {α β : Type} {fits : Prop} {read : Reader α} {text : List Char} {a : α}
    (h : ReadsIf fits read text a) (g : α → β) :
    ReadsIf fits (fun c => (read c).map (Prod.map g id)) text (g a) := by
  constructor
  · intro hfits rest p hrest
    obtain ⟨q, hq⟩ := h.1 hfits rest p hrest
    refine ⟨q, ?_⟩
    dsimp only
    rw [hq]
    rfl
  · intro hnot rest p hrest
    obtain ⟨f, hf⟩ := h.2 hnot rest p hrest
    refine ⟨f, ?_⟩
    dsimp only
    rw [hf]
    rfl

/-- What follows a bracket may be left to **another reader**. -/
theorem ReadsIf.cons {α : Type} {fits : Prop} {read read' : Reader α} {c : Char} {text : List Char}
    {a : α} (h : ReadsIf fits read' text a)
    (hread : ∀ rest p, read ⟨.char c :: rest, p⟩ = read' ⟨rest, p.after (.char c)⟩) :
    ReadsIf fits read (c :: text) a := by
  constructor
  · intro hfits rest p hrest
    rw [written_cons, List.cons_append, hread]
    exact h.1 hfits rest _ hrest
  · intro hnot rest p hrest
    rw [written_cons, List.cons_append, hread]
    exact h.2 hnot rest _ hrest

/-! ### One item -/

/-- Characters that may **begin an item**: they begin with neither a space nor the end of an
array. -/
def BeginsItem (text : List Char) : Prop :=
  ∃ c cs, text = c :: cs ∧ Cursor.isSpace c = false ∧ c ≠ ']'

/-- What stands in front of an item: a comma, unless it is the first. -/
def lead (first : Bool) : List Char := if first then [] else [',']

/-- An item is found behind its comma. -/
theorem nextItem_lead {text : List Char} (h : BeginsItem text) (first : Bool) (rest : List Symbol)
    (p : Position) :
    ∃ q, nextItem first ⟨written (lead first ++ text) ++ rest, p⟩ =
      .ok (some ⟨written text ++ rest, q⟩) := by
  obtain ⟨c, cs, rfl, hspace, hend⟩ := h
  cases first with
  | true =>
    refine ⟨p, ?_⟩
    simp only [lead, if_true, List.nil_append, written_cons, List.cons_append, nextItem,
      skipSpace_eq_self hspace, hend, if_false]
  | false =>
    refine ⟨p.after (.char ','), ?_⟩
    have hcomma : Cursor.isSpace ',' = false := by decide
    have hne : ¬(Symbol.char c = .char ']') := fun h => hend (Symbol.char.inj h)
    simp only [lead, Bool.false_eq_true, if_false, List.cons_append, List.nil_append, written_cons,
      nextItem, skipSpace_eq_self hcomma, advance_cons, skipSpace_eq_self hspace, hne, if_true,
      Char.reduceEq]

/-- **One turn of the loop over items** reads one item; the turns that follow read the rest. -/
theorem foldItems_cons {σ : Type} {read : σ → Reader σ} {fuel index : Nat} {out a b : σ}
    {fits fits' : Prop} {text tail : List Char} (hbegins : BeginsItem text)
    (htail : ∀ rest, Closed (written tail ++ rest)) (h : ReadsIf fits (read out) text a)
    (h' : ReadsIf fits' (foldItems read fuel (index + 1) a) tail b) :
    ReadsIf (fits ∧ fits') (foldItems read (fuel + 1) index out)
      (lead (index = 0) ++ text ++ tail) b := by
  have hnext := fun rest p => nextItem_lead hbegins (decide (index = 0)) (written tail ++ rest) p
  constructor
  · rintro ⟨hfits, hfits'⟩ rest p hrest
    obtain ⟨q, hq⟩ := hnext rest p
    obtain ⟨q₁, hq₁⟩ := h.1 hfits _ q (htail rest)
    obtain ⟨q₂, hq₂⟩ := h'.1 hfits' rest q₁ hrest
    refine ⟨q₂, ?_⟩
    rw [written_append, List.append_assoc, foldItems, hq]
    simp only [hq₁, hq₂]
  · intro hnot rest p hrest
    obtain ⟨q, hq⟩ := hnext rest p
    rw [written_append, List.append_assoc, foldItems, hq]
    by_cases hfits : fits
    · -- the fault is in one of the items that follow
      obtain ⟨q₁, hq₁⟩ := h.1 hfits _ q (htail rest)
      simp only [hq₁]
      exact h'.2 (fun hfits' => hnot ⟨hfits, hfits'⟩) rest q₁ hrest
    · obtain ⟨f, hf⟩ := h.2 hfits _ q (htail rest)
      simp only [hf]
      exact ⟨_, rfl⟩

/-- The loop over items ends with the array. -/
theorem foldItems_nil {σ : Type} (read : σ → Reader σ) (fuel index : Nat) (out : σ) :
    Reads (foldItems read (fuel + 1) index out) [']'] out := fun _ p _ =>
  ⟨p.after (.char ']'), rfl⟩

/-! ### One member -/

/-- A key is found behind its comma. -/
theorem nextKey_lead (first : Bool) (rest : List Symbol) (p : Position) :
    ∃ q, nextKey first ⟨written (lead first ++ ['"']) ++ rest, p⟩ = .ok (some ⟨rest, q⟩) := by
  cases first with
  | true => exact ⟨_, rfl⟩
  | false => exact ⟨_, rfl⟩

/-- **One turn of the loop over members** reads one member; the turns that follow read the
rest. -/
theorem foldMembers_cons {σ : Type} {refuse : String → σ → Option Mismatch}
    {read : String → σ → Reader σ} {fuel : Nat} {first : Bool} {key : String} {out a b : σ}
    {fits fits' : Prop} {text tail : List Char} (hrefuse : refuse key out = none)
    (htail : ∀ rest, Closed (written tail ++ rest)) (h : ReadsIf fits (read key out) text a)
    (h' : ReadsIf fits' (foldMembers refuse read fuel false a) tail b) :
    ReadsIf (fits ∧ fits') (foldMembers refuse read (fuel + 1) first out)
      (lead first ++ stringChars key ++ ':' :: text ++ tail) b := by
  -- up to the value the turn depends on nothing but the key
  have hturn : ∀ rest p, ∃ q,
      (∀ a c, read key out ⟨written text ++ (written tail ++ rest), q⟩ = .ok (a, c) →
        foldMembers refuse read (fuel + 1) first out
          ⟨written (lead first ++ stringChars key ++ ':' :: text ++ tail) ++ rest, p⟩ =
            foldMembers refuse read fuel false a c) ∧
      ∀ f, read key out ⟨written text ++ (written tail ++ rest), q⟩ = .error f →
        foldMembers refuse read (fuel + 1) first out
          ⟨written (lead first ++ stringChars key ++ ':' :: text ++ tail) ++ rest, p⟩ =
            .error (f.within (.key key)) := by
    intro rest p
    have hcut : written (lead first ++ stringChars key ++ ':' :: text ++ tail) ++ rest =
        written (lead first ++ ['"']) ++ (written (key.toList.flatMap escapeChar ++ ['"']) ++
          (.char ':' :: (written text ++ (written tail ++ rest)))) := by
      simp [stringChars]
    obtain ⟨q, hq⟩ := nextKey_lead first (written (key.toList.flatMap escapeChar ++ ['"']) ++
      (.char ':' :: (written text ++ (written tail ++ rest)))) p
    obtain ⟨q₁, hq₁⟩ := readString_stringChars key
      (.char ':' :: (written text ++ (written tail ++ rest))) q
    have hcolon : colon ⟨.char ':' :: (written text ++ (written tail ++ rest)), q₁⟩ =
      .ok ⟨written text ++ (written tail ++ rest), q₁.after (.char ':')⟩ := rfl
    refine ⟨q₁.after (.char ':'), fun a c hread => ?_, fun f hread => ?_⟩
    · rw [hcut, foldMembers, hq]
      simp only [hq₁, hrefuse, hcolon, hread]
    · rw [hcut, foldMembers, hq]
      simp only [hq₁, hrefuse, hcolon, hread]
  constructor
  · rintro ⟨hfits, hfits'⟩ rest p hrest
    obtain ⟨q, hok, -⟩ := hturn rest p
    obtain ⟨q₁, hq₁⟩ := h.1 hfits _ q (htail rest)
    obtain ⟨q₂, hq₂⟩ := h'.1 hfits' rest q₁ hrest
    exact ⟨q₂, (hok _ _ hq₁).trans hq₂⟩
  · intro hnot rest p hrest
    obtain ⟨q, hok, herror⟩ := hturn rest p
    by_cases hfits : fits
    · obtain ⟨q₁, hq₁⟩ := h.1 hfits _ q (htail rest)
      obtain ⟨f, hf⟩ := h'.2 (fun hfits' => hnot ⟨hfits, hfits'⟩) rest q₁ hrest
      exact ⟨f, (hok _ _ hq₁).trans hf⟩
    · obtain ⟨f, hf⟩ := h.2 hfits _ q (htail rest)
      exact ⟨_, herror f hf⟩

/-- The loop over members ends with the object. -/
theorem foldMembers_nil {σ : Type} (refuse : String → σ → Option Mismatch)
    (read : String → σ → Reader σ) (fuel : Nat) (first : Bool) (out : σ) :
    Reads (foldMembers refuse read (fuel + 1) first out) ['\x7d'] out := fun _ p _ =>
  ⟨p.after (.char '\x7d'), rfl⟩

/-! ### Items and members in a row -/

/-- Items as they stand **behind another one**. -/
def furtherItems (items : List Json) : List Char := items.flatMap fun v => ',' :: v.chars

/-- Members as they stand **behind another one**. -/
def furtherMembers (members : List (String × Json)) : List Char :=
  members.flatMap fun m => ',' :: (stringChars m.1 ++ ':' :: m.2.chars)

theorem itemChars_cons (v : Json) (items : List Json) :
    itemChars (v :: items) = v.chars ++ furtherItems items := by
  induction items generalizing v with
  | nil => rw [itemChars, furtherItems, List.flatMap_nil, List.append_nil]
  | cons w items ih => rw [itemChars, ih w, furtherItems, furtherItems, List.flatMap_cons]; rfl

theorem memberChars_cons (k : String) (v : Json) (members : List (String × Json)) :
    memberChars ((k, v) :: members) =
      stringChars k ++ ':' :: v.chars ++ furtherMembers members := by
  induction members generalizing k v with
  | nil => rw [memberChars, furtherMembers, List.flatMap_nil, List.append_nil]
  | cons m members ih =>
    obtain ⟨k', v'⟩ := m
    rw [memberChars, ih k' v', furtherMembers, furtherMembers, List.flatMap_cons]
    simp only [List.append_assoc, List.cons_append]

theorem closed_furtherItems (items : List Json) (rest : List Symbol) :
    Closed (written (furtherItems items ++ [']']) ++ rest) := by
  cases items with
  | nil => exact .bracket rest
  | cons v items => exact .comma _

theorem closed_furtherMembers (members : List (String × Json)) (rest : List Symbol) :
    Closed (written (furtherMembers members ++ ['\x7d']) ++ rest) := by
  cases members with
  | nil => exact .brace rest
  | cons m members => exact .comma _

section Loops

variable {σ : Type}

/-- Items behind another one are read in a row. -/
theorem foldItems_furtherItems {fits : Json → Prop} {read : σ → Reader σ} {step : σ → Json → σ}
    {items : List Json} (hbegins : ∀ v ∈ items, BeginsItem v.chars)
    (h : ∀ v ∈ items, ∀ out, ReadsIf (fits v) (read out) v.chars (step out v)) {fuel index : Nat}
    (hfuel : items.length < fuel) (hindex : index ≠ 0) (out : σ) :
    ReadsIf (∀ v ∈ items, fits v) (foldItems read fuel index out) (furtherItems items ++ [']'])
      (items.foldl step out) := by
  induction items generalizing fuel index out with
  | nil =>
    obtain ⟨fuel, rfl⟩ := Nat.exists_eq_add_one_of_ne_zero (Nat.ne_zero_of_lt hfuel)
    exact (foldItems_nil read fuel index out).readsIf fun _ hv => absurd hv List.not_mem_nil
  | cons v items ih =>
    obtain ⟨fuel, rfl⟩ := Nat.exists_eq_add_one_of_ne_zero (Nat.ne_zero_of_lt hfuel)
    rw [List.forall_mem_cons] at hbegins h
    have hrest := ih hbegins.2 h.2 (Nat.lt_of_succ_lt_succ hfuel) (Nat.succ_ne_zero index)
      (step out v)
    have hturn := foldItems_cons hbegins.1 (closed_furtherItems items) (h.1 out) hrest
    rw [List.forall_mem_cons, List.foldl_cons]
    simpa only [hindex, lead, decide_false, Bool.false_eq_true, if_false, furtherItems,
      List.flatMap_cons, List.cons_append, List.nil_append, List.append_assoc] using hturn

/-- **Items are read in a row**, and refused if one of them is. -/
theorem foldItems_itemChars {fits : Json → Prop} {read : σ → Reader σ} {step : σ → Json → σ}
    {items : List Json} (hbegins : ∀ v ∈ items, BeginsItem v.chars)
    (h : ∀ v ∈ items, ∀ out, ReadsIf (fits v) (read out) v.chars (step out v)) {fuel : Nat}
    (hfuel : items.length < fuel) (out : σ) :
    ReadsIf (∀ v ∈ items, fits v) (foldItems read fuel 0 out) (itemChars items ++ [']'])
      (items.foldl step out) := by
  obtain ⟨fuel, rfl⟩ := Nat.exists_eq_add_one_of_ne_zero (Nat.ne_zero_of_lt hfuel)
  cases items with
  | nil => exact (foldItems_nil read fuel 0 out).readsIf fun _ hv => absurd hv List.not_mem_nil
  | cons v items =>
    rw [List.forall_mem_cons] at hbegins h
    have hrest := foldItems_furtherItems hbegins.2 h.2 (Nat.lt_of_succ_lt_succ hfuel)
      (Nat.succ_ne_zero 0) (step out v)
    have hturn := foldItems_cons hbegins.1 (closed_furtherItems items) (h.1 out) hrest
    rw [List.forall_mem_cons, itemChars_cons, List.foldl_cons]
    simpa only [lead, decide_true, if_true, List.nil_append, List.append_assoc] using hturn

/-- Members behind another one are read in a row. -/
theorem foldMembers_furtherMembers {fits : String × Json → Prop}
    {refuse : String → σ → Option Mismatch} {read : String → σ → Reader σ}
    {step : σ → String × Json → σ} {members : List (String × Json)}
    (hrefuse : ∀ key out, refuse key out = none)
    (h : ∀ m ∈ members, ∀ out, ReadsIf (fits m) (read m.1 out) m.2.chars (step out m))
    {fuel : Nat} (hfuel : members.length < fuel) (out : σ) :
    ReadsIf (∀ m ∈ members, fits m) (foldMembers refuse read fuel false out)
      (furtherMembers members ++ ['\x7d']) (members.foldl step out) := by
  induction members generalizing fuel out with
  | nil =>
    obtain ⟨fuel, rfl⟩ := Nat.exists_eq_add_one_of_ne_zero (Nat.ne_zero_of_lt hfuel)
    exact (foldMembers_nil refuse read fuel false out).readsIf fun _ hm =>
      absurd hm List.not_mem_nil
  | cons m members ih =>
    obtain ⟨fuel, rfl⟩ := Nat.exists_eq_add_one_of_ne_zero (Nat.ne_zero_of_lt hfuel)
    rw [List.forall_mem_cons] at h
    have hrest := ih h.2 (Nat.lt_of_succ_lt_succ hfuel) (step out m)
    have hturn : ReadsIf _ (foldMembers refuse read (fuel + 1) false out) _ _ :=
      foldMembers_cons (hrefuse m.1 out) (closed_furtherMembers members) (h.1 out) hrest
    rw [List.forall_mem_cons, List.foldl_cons]
    simpa only [lead, Bool.false_eq_true, if_false, furtherMembers, List.flatMap_cons,
      List.cons_append, List.nil_append, List.append_assoc] using hturn

/-- **Members are read in a row**, and refused if one of their values is. -/
theorem foldMembers_memberChars {fits : String × Json → Prop}
    {refuse : String → σ → Option Mismatch} {read : String → σ → Reader σ}
    {step : σ → String × Json → σ} {members : List (String × Json)}
    (hrefuse : ∀ key out, refuse key out = none)
    (h : ∀ m ∈ members, ∀ out, ReadsIf (fits m) (read m.1 out) m.2.chars (step out m))
    {fuel : Nat} (hfuel : members.length < fuel) (out : σ) :
    ReadsIf (∀ m ∈ members, fits m) (foldMembers refuse read fuel true out)
      (memberChars members ++ ['\x7d']) (members.foldl step out) := by
  obtain ⟨fuel, rfl⟩ := Nat.exists_eq_add_one_of_ne_zero (Nat.ne_zero_of_lt hfuel)
  cases members with
  | nil =>
    exact (foldMembers_nil refuse read fuel true out).readsIf fun _ hm =>
      absurd hm List.not_mem_nil
  | cons m members =>
    rw [List.forall_mem_cons] at h
    have hrest := foldMembers_furtherMembers hrefuse h.2 (Nat.lt_of_succ_lt_succ hfuel)
      (step out m)
    have hturn : ReadsIf _ (foldMembers refuse read (fuel + 1) true out) _ _ :=
      foldMembers_cons (hrefuse m.1 out) (closed_furtherMembers members) (h.1 out) hrest
    rw [List.forall_mem_cons, memberChars_cons, List.foldl_cons]
    simpa only [lead, if_true, List.nil_append, List.append_assoc] using hturn

end Loops

/-! ### Values -/

theorem length_le_furtherItems (items : List Json) :
    items.length ≤ (furtherItems items).length ∧
      ∀ v ∈ items, v.chars.length ≤ (furtherItems items).length := by
  induction items with
  | nil => exact ⟨Nat.le_refl 0, fun _ hv => absurd hv List.not_mem_nil⟩
  | cons v items ih =>
    have hlength : (furtherItems (v :: items)).length =
        v.chars.length + 1 + (furtherItems items).length := by
      simp only [furtherItems, List.flatMap_cons, List.length_append, List.length_cons]
    rw [List.forall_mem_cons, List.length_cons, hlength]
    refine ⟨by omega, by omega, fun w hw => ?_⟩
    have := ih.2 w hw
    omega

theorem length_le_furtherMembers (members : List (String × Json)) :
    members.length ≤ (furtherMembers members).length ∧
      ∀ m ∈ members, m.2.chars.length ≤ (furtherMembers members).length := by
  induction members with
  | nil => exact ⟨Nat.le_refl 0, fun _ hm => absurd hm List.not_mem_nil⟩
  | cons m members ih =>
    have hlength : (furtherMembers (m :: members)).length =
        (stringChars m.1).length + m.2.chars.length + 2 + (furtherMembers members).length := by
      simp only [furtherMembers, List.flatMap_cons, List.length_append, List.length_cons]
      omega
    rw [List.forall_mem_cons, List.length_cons, hlength]
    refine ⟨by omega, by omega, fun m' hm' => ?_⟩
    have := ih.2 m' hm'
    omega

/-- The text of an array is longer than its items behind another one. -/
theorem length_furtherItems_lt (items : List Json) :
    (furtherItems items).length < (array items).chars.length := by
  rw [chars]
  cases items with
  | nil => exact Nat.zero_lt_two
  | cons v items =>
    rw [itemChars_cons]
    simp only [furtherItems, List.flatMap_cons, List.length_append, List.length_cons,
      List.length_nil]
    omega

/-- The text of an object is longer than its members behind another one. -/
theorem length_furtherMembers_lt (members : List (String × Json)) :
    (furtherMembers members).length < (object members).chars.length := by
  rw [chars]
  cases members with
  | nil => exact Nat.zero_lt_two
  | cons m members =>
    rw [memberChars_cons]
    simp only [furtherMembers, List.flatMap_cons, List.length_append, List.length_cons,
      List.length_nil]
    omega

theorem itemsHeight_le_iff {items : List Json} {depth : Nat} :
    itemsHeight items ≤ depth ↔ ∀ v ∈ items, v.height ≤ depth := by
  induction items with
  | nil => simp [itemsHeight]
  | cons v items ih => rw [itemsHeight, Nat.max_le, ih, List.forall_mem_cons]

theorem membersHeight_le_iff {members : List (String × Json)} {depth : Nat} :
    membersHeight members ≤ depth ↔ ∀ m ∈ members, m.2.height ≤ depth := by
  induction members with
  | nil => simp [membersHeight]
  | cons m members ih => rw [membersHeight, Nat.max_le, ih, List.forall_mem_cons]

theorem foldl_normalItems (items out : List Json) :
    items.foldl (fun out v => v.normal :: out) out = (normalItems items).reverse ++ out := by
  induction items generalizing out with
  | nil => rfl
  | cons v items ih =>
    rw [List.foldl_cons, ih, normalItems, List.reverse_cons, List.append_assoc]
    rfl

theorem foldl_normalMembers (members out : List (String × Json)) :
    members.foldl (fun out m => insertMember m.1 m.2.normal out) out =
      normalMembers out members := by
  induction members generalizing out with
  | nil => rfl
  | cons m members ih => rw [List.foldl_cons, ih, normalMembers]

/-- The text of a value begins with neither a space nor the end of an array. -/
theorem Plain.beginsItem {j : Json} (h : Plain j) : BeginsItem j.chars := by
  cases h with
  | null => exact ⟨'n', ['u', 'l', 'l'], rfl, by decide, by decide⟩
  | bool b =>
    cases b with
    | false => exact ⟨'f', ['a', 'l', 's', 'e'], rfl, by decide, by decide⟩
    | true => exact ⟨'t', ['r', 'u', 'e'], rfl, by decide, by decide⟩
  | @integer n _ =>
    rw [chars, integerChars]
    split_ifs
    · exact ⟨'-', _, rfl, by decide, by decide⟩
    · obtain ⟨c, cs, hcs, hc⟩ := exists_toDigits_eq_cons n.natAbs
      exact ⟨c, cs, hcs, isSpace_of_isDigit hc, ne_of_isDigit hc rfl⟩
  | text s => exact ⟨'"', _, rfl, by decide, by decide⟩
  | array _ => exact ⟨'[', _, rfl, by decide, by decide⟩
  | object _ => exact ⟨'\x7b', _, rfl, by decide, by decide⟩

/-- A value without parts is read at any depth. -/
theorem value_of_scalar {text : List Char} {v : Json} (h : Reads (opening true) text (.scalar v))
    (fuel depth : Nat) : Reads (value fuel depth) text v := by
  intro rest p hrest
  obtain ⟨q, hq⟩ := h rest p hrest
  refine ⟨q, ?_⟩
  cases depth with
  | zero => rw [value, hq]
  | succ depth => rw [value, hq]

theorem foldItems_congr {σ : Type} {r s : σ → Reader σ} (h : ∀ out c, r out c = s out c)
    (fuel index : Nat) (out : σ) (c : Cursor) :
    foldItems r fuel index out c = foldItems s fuel index out c := by
  obtain rfl : r = s := funext fun out => funext (h out)
  rfl

theorem foldMembers_congr {σ : Type} (refuse : String → σ → Option Mismatch)
    {r s : String → σ → Reader σ} (h : ∀ key out c, r key out c = s key out c) (fuel : Nat)
    (first : Bool) (out : σ) (c : Cursor) :
    foldMembers refuse r fuel first out c = foldMembers refuse s fuel first out c := by
  obtain rfl : r = s := funext fun key => funext fun out => funext (h key out)
  rfl

/-- A value that opens with a bracket is an array of what the loop reads. -/
theorem value_of_array {c d : Cursor} (h : opening true c = .ok (.array, d)) (fuel depth : Nat) :
    value fuel (depth + 1) c =
      (foldItems (fun out c => (value fuel depth c).map (Prod.map (· :: out) id)) fuel 0 []
        d.advance).map (Prod.map (fun items => array items.reverse) id) := by
  rw [value, h]
  dsimp only
  rw [foldItems_congr (s := fun out c => (value fuel depth c).map (Prod.map (· :: out) id))]
  · cases foldItems _ fuel 0 [] _ <;> rfl
  · intro out c
    cases value fuel depth c <;> rfl

/-- A value that opens with a brace is an object of what the loop reads. -/
theorem value_of_object {c d : Cursor} (h : opening true c = .ok (.object, d)) (fuel depth : Nat) :
    value fuel (depth + 1) c =
      (foldMembers (fun _ _ => none)
        (fun key out c => (value fuel depth c).map (Prod.map (insertMember key · out) id)) fuel true
        [] d.advance).map (Prod.map object id) := by
  rw [value, h]
  dsimp only
  rw [foldMembers_congr (s := fun key out c =>
    (value fuel depth c).map (Prod.map (insertMember key · out) id))]
  · cases foldMembers _ _ fuel true [] _ <;> rfl
  · intro key out c
    cases value fuel depth c <;> rfl

/-- A value that begins with a bracket is an array of what the loop reads. -/
theorem value_bracket (fuel depth : Nat) (rest : List Symbol) (p : Position) :
    value fuel (depth + 1) ⟨.char '[' :: rest, p⟩ =
      (foldItems (fun out c => (value fuel depth c).map (Prod.map (· :: out) id)) fuel 0 []
        ⟨rest, p.after (.char '[')⟩).map (Prod.map (fun items => array items.reverse) id) := by
  have hopen : opening true ⟨.char '[' :: rest, p⟩ = .ok (.array, ⟨.char '[' :: rest, p⟩) := rfl
  exact value_of_array hopen fuel depth

/-- A value that begins with a brace is an object of what the loop reads. -/
theorem value_brace (fuel depth : Nat) (rest : List Symbol) (p : Position) :
    value fuel (depth + 1) ⟨.char '\x7b' :: rest, p⟩ =
      (foldMembers (fun _ _ => none)
        (fun key out c => (value fuel depth c).map (Prod.map (insertMember key · out) id)) fuel true
        [] ⟨rest, p.after (.char '\x7b')⟩).map (Prod.map object id) := by
  have hopen : opening true ⟨.char '\x7b' :: rest, p⟩ =
    .ok (.object, ⟨.char '\x7b' :: rest, p⟩) := rfl
  exact value_of_object hopen fuel depth

/-- **A written value is read back** if it nests no deeper than the reader goes, and refused
otherwise. -/
theorem value_chars {j : Json} (h : Plain j) {fuel depth : Nat} (hfuel : j.chars.length ≤ fuel) :
    ReadsIf (j.height ≤ depth) (value fuel depth) j.chars j.normal := by
  induction h generalizing depth with
  | null => exact (value_of_scalar (fun _ _ _ => ⟨_, rfl⟩) fuel depth).readsIf (Nat.zero_le depth)
  | bool b =>
    refine (value_of_scalar (fun _ _ _ => ?_) fuel depth).readsIf (Nat.zero_le depth)
    cases b with
    | false => exact ⟨_, rfl⟩
    | true => exact ⟨_, rfl⟩
  | integer hn =>
    exact (value_of_scalar (opening_integerChars hn) fuel depth).readsIf (Nat.zero_le depth)
  | text s =>
    exact (value_of_scalar (opening_stringChars s) fuel depth).readsIf (Nat.zero_le depth)
  | @array items hitems ih =>
    cases depth with
    | zero =>
      -- no bracket may be opened any more
      exact ⟨fun hzero => absurd hzero (Nat.not_succ_le_zero _), fun _ _ _ _ => ⟨_, rfl⟩⟩
    | succ depth =>
      obtain ⟨hcount, hlength⟩ := length_le_furtherItems items
      have hlt := length_furtherItems_lt items
      have hmany : items.length < fuel := by omega
      have hitem : ∀ v ∈ items, ReadsIf (v.height ≤ depth) (value fuel depth) v.chars v.normal :=
        fun v hv => ih v hv (by have := hlength v hv; omega)
      have hloop := foldItems_itemChars (fun v hv => (hitems v hv).beginsItem)
        (fun v hv out => (hitem v hv).map (· :: out)) hmany []
      -- the loop puts each item in front of those before it
      rw [foldl_normalItems, List.append_nil] at hloop
      rw [height, Nat.succ_le_succ_iff, itemsHeight_le_iff, normal,
        ← (normalItems items).reverse_reverse]
      exact (hloop.map fun items => array items.reverse).cons (value_bracket fuel depth)
  | @object members hmembers ih =>
    cases depth with
    | zero =>
      -- no bracket may be opened any more
      exact ⟨fun hzero => absurd hzero (Nat.not_succ_le_zero _), fun _ _ _ _ => ⟨_, rfl⟩⟩
    | succ depth =>
      obtain ⟨hcount, hlength⟩ := length_le_furtherMembers members
      have hlt := length_furtherMembers_lt members
      have hmany : members.length < fuel := by omega
      have hmember : ∀ m ∈ members,
          ReadsIf (m.2.height ≤ depth) (value fuel depth) m.2.chars m.2.normal :=
        fun m hm => ih m hm (by have := hlength m hm; omega)
      have hloop : ReadsIf (∀ m ∈ members, m.2.height ≤ depth)
          (foldMembers (fun _ _ => none)
            (fun key out c => (value fuel depth c).map (Prod.map (insertMember key · out) id))
            fuel true [])
          (memberChars members ++ ['\x7d'])
          (members.foldl (fun out m => insertMember m.1 m.2.normal out) []) :=
        foldMembers_memberChars (fun _ _ => rfl)
          (fun m hm out => (hmember m hm).map (insertMember m.1 · out)) hmany []
      rw [foldl_normalMembers] at hloop
      rw [height, Nat.succ_le_succ_iff, membersHeight_le_iff, normal]
      exact (hloop.map object).cons (value_brace fuel depth)

/-- **A compact text is read back** as a whole, with the members of its objects in order, or it is
refused because it nests too deep. -/
theorem ofText?_compact {j : Json} (h : Plain j) :
    (j.height ≤ depthLimit → ofText? j.compact = .ok j.normal) ∧
      (depthLimit < j.height → ∃ f, ofText? j.compact = .error f) := by
  have hsymbols : ofText? j.compact = ofSymbols? (written j.chars ++ []) := by
    rw [ofText?, compact, Symbol.ofText, String.toList_ofList, List.append_nil]
    rfl
  have hfuel : j.chars.length ≤ (written j.chars ++ []).length := by simp [written]
  have hvalue : ReadsIf (j.height ≤ depthLimit) (value _ depthLimit) j.chars j.normal :=
    value_chars h hfuel
  rw [hsymbols, ofSymbols?, front, Cursor.start]
  constructor
  · intro hfits
    obtain ⟨q, hq⟩ := hvalue.1 hfits [] .start .nil
    rw [hq]
    rfl
  · intro hdeep
    obtain ⟨f, hf⟩ := hvalue.2 (Nat.not_le_of_lt hdeep) [] .start .nil
    exact ⟨f, by rw [hf]⟩

end Json

end Catalogue
