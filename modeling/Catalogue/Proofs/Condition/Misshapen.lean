import Catalogue.Proofs.Condition.Grammar

/-!
# Documents that are no nodes

A document that is neither an object nor an array is no node, and neither is one with a part of the
wrong kind: an operator or a field that is no text, or entries that are no array. An array of more
than four items is no node even if its first four are what they should be. Which of this a document
is refused for is `Catalogue.Json.Misshapen`: parts are looked at in the order in which they stand,
and the first one of the wrong kind is named.

`Catalogue.Json.decoder_eq_error_iff` shows that the reader of nodes refuses a document for what is
wrong with its shape and for nothing else, as `Catalogue.Json.decoder_eq_ok_iff` shows what it reads
off the others.
-/

namespace Catalogue

namespace Json

/-! ### The shape of a node -/

/-- The **parts** of a node, in the order in which they stand: the members of an object, or the
first four items of an array under the keys for which they stand. -/
def parts? : Json → Option (List (String × Json))
  | .object members => some members
  | .array items => some (keyed items)
  | _ => none

/-- A document **does not have the shape of a node**, for a reason. -/
inductive Misshapen : Json → Mismatch → Prop
  /-- It is neither an object nor an array. -/
  | other {j : Json} : j.parts? = none → Misshapen j (.kind j.found (.record "WireNode"))
  /-- The first part of the wrong kind. -/
  | part {j : Json} {before after : List (String × Json)} {key : String} {v : Json} :
    j.parts? = some (before ++ (key, v) :: after) → (∀ p ∈ before, IsTypedMember p.1 p.2) →
      ¬IsTypedMember key v → Misshapen j (.kind v.found (wantedPart key))
  /-- An array of too many items, the first four of which are what they should be. -/
  | tooLong {items : List Json} :
    4 < items.length → (∀ p ∈ keyed items, IsTypedMember p.1 p.2) →
      Misshapen (.array items) (.tooLong items.length)

/-! ### Parts of the wrong kind -/

/-- **Members are refused for the first one of the wrong kind.** -/
theorem ofMembers_eq_error_iff (members : List (String × Json)) (a : Members) (f : Fault) :
    Decoder.ofMembers Members.fields members a = .error f ↔
      ∃ before key v after, members = before ++ (key, v) :: after ∧
        (∀ p ∈ before, IsTypedMember p.1 p.2) ∧ ¬IsTypedMember key v ∧
        f = .unplaced (.kind v.found (wantedPart key)) := by
  induction members generalizing a with
  | nil =>
    rw [Decoder.ofMembers]
    constructor
    · intro h
      cases h
    · rintro ⟨before, key, v, after, hnil, -⟩
      exact absurd hnil.symm (List.append_ne_nil_of_right_ne_nil before (List.cons_ne_nil _ after))
  | cons member members ih =>
    obtain ⟨k, w⟩ := member
    by_cases h : IsTypedMember k w
    · -- a member of the right kind comes before whichever one is wrong
      rw [ofMembers_cons_of_isTyped h, ih]
      constructor
      · rintro ⟨before, key, v, after, rfl, hbefore, hv, rfl⟩
        exact ⟨(k, w) :: before, key, v, after, rfl, List.forall_mem_cons.mpr ⟨h, hbefore⟩, hv, rfl⟩
      · rintro ⟨_ | ⟨p, before⟩, key, v, after, heq, hbefore, hv, rfl⟩
        · cases heq
          exact absurd h hv
        · cases heq
          exact ⟨before, key, v, after, rfl, (List.forall_mem_cons.mp hbefore).2, hv, rfl⟩
    · rw [ofMembers_cons_eq_error h]
      constructor
      · intro heq
        exact ⟨[], k, w, members, rfl, fun _ hp => absurd hp List.not_mem_nil, h,
          (Except.error.inj heq).symm⟩
      · rintro ⟨_ | ⟨p, before⟩, key, v, after, heq, hbefore, hv, rfl⟩
        · cases heq
          rfl
        · cases heq
          exact absurd (hbefore _ List.mem_cons_self) h

/-! ### Documents that are refused -/

/-- Members of the right kind are read. -/
theorem exists_ofMembers_eq_ok_iff (members : List (String × Json)) (a : Members) :
    (∃ m, Decoder.ofMembers Members.fields members a = .ok m) ↔
      ∀ p ∈ members, IsTypedMember p.1 p.2 := by
  simp only [ofMembers_eq_ok_iff, exists_and_left, exists_eq, and_true]
  induction members with
  | nil => exact iff_of_true ⟨nofun, nofun, nofun⟩ nofun
  | cons p members ih => rw [List.forall_mem_cons, isTyped_cons, ih]

/-- What is wrong with the shape of objects and arrays: a part of them, or the length of an
array. -/
theorem misshapen_iff {j : Json} {members : List (String × Json)} (h : j.parts? = some members)
    (f : Fault) :
    (∃ m, j.Misshapen m ∧ f = .unplaced m) ↔
      Decoder.ofMembers Members.fields members ⟨none, none, .null, none⟩ = .error f ∨
        ∃ items, j = .array items ∧ 4 < items.length ∧
          (∀ p ∈ keyed items, IsTypedMember p.1 p.2) ∧ f = .unplaced (.tooLong items.length) := by
  rw [ofMembers_eq_error_iff]
  constructor
  · rintro ⟨m, hm, rfl⟩
    cases hm with
    | other hnone => exact nomatch hnone.symm.trans h
    | part hparts hbefore hv =>
      exact .inl ⟨_, _, _, _, Option.some.inj (h.symm.trans hparts), hbefore, hv, rfl⟩
    | tooLong hlength htyped => exact .inr ⟨_, rfl, hlength, htyped, rfl⟩
  · rintro (⟨before, key, v, after, rfl, hbefore, hv, rfl⟩ | ⟨items, rfl, hlength, htyped, rfl⟩)
    · exact ⟨_, .part h hbefore hv, rfl⟩
    · exact ⟨_, .tooLong hlength htyped, rfl⟩

/-- What has no parts is wrong by its kind. -/
theorem misshapen_iff_of_none {j : Json} (h : j.parts? = none) (f : Fault) :
    (∃ m, j.Misshapen m ∧ f = .unplaced m) ↔
      f = .unplaced (.kind j.found (.record "WireNode")) := by
  constructor
  · rintro ⟨m, hm, rfl⟩
    cases hm with
    | other => rfl
    | part hsome => exact nomatch h.symm.trans hsome
    | tooLong => exact nomatch h
  · rintro rfl
    exact ⟨_, .other h, rfl⟩

/-- **A document is refused for what is wrong with its shape**, and for nothing else. -/
theorem decoder_eq_error_iff {j : Json} {f : Fault} :
    Members.decoder.ofValue j = .error f ↔ ∃ m, j.Misshapen m ∧ f = .unplaced m := by
  cases j with
  | object members =>
    rw [decoder_object, misshapen_iff rfl f, or_iff_left]
    rintro ⟨items, hitems, -⟩
    cases hitems
  | array items =>
    rw [misshapen_iff rfl f]
    simp only [Members.decoder, Decoder.record]
    rcases Nat.lt_or_ge 4 items.length with hlength | hlength
    · -- the length is at fault if and only if none of the parts is
      have htyped := exists_ofMembers_eq_ok_iff (keyed items) ⟨none, none, .null, none⟩
      rw [ofItems_eq_of_lt_length hlength]
      cases hread : Decoder.ofMembers Members.fields (keyed items) ⟨none, none, .null, none⟩ with
      | error e =>
        rw [or_iff_left]
        · rfl
        · rintro ⟨items', heq, -, hall, -⟩
          cases heq
          obtain ⟨m, hm⟩ := htyped.mpr hall
          cases hread.symm.trans hm
      | ok m =>
        have hall := htyped.mp ⟨m, hread⟩
        constructor
        · intro h
          exact .inr ⟨items, rfl, hlength, hall, (Except.error.inj h).symm⟩
        · rintro (h | ⟨items', heq, -, -, rfl⟩)
          · cases h
          · cases heq
            rfl
    · rw [ofItems_eq_ofMembers hlength, or_iff_left]
      rintro ⟨items', heq, hlong, -⟩
      cases heq
      exact absurd hlong (Nat.not_lt.mpr hlength)
  | _ =>
    rw [misshapen_iff_of_none rfl f]
    exact ⟨fun h => (Except.error.inj h).symm, fun h => congrArg Except.error h.symm⟩

end Json

end Catalogue
