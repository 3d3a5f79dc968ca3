import Catalogue.Proofs.Condition.Defects

/-!
# Rejections are about the first defect

A document is rejected for the first node with a defect, and the rejection shows that very node
(`Catalogue.Condition.rejects_first_defect`). What comes behind the node in pre-order is its own
entries, its later siblings, and the later siblings of the nodes around it; whatever the siblings
are changed into, the rejection stays the same, because a node around the first defect is judged by
how many entries it has and never by what they are (`Catalogue.Json.Blind`).
-/

namespace Catalogue

namespace Json

/-! ### Changes behind a node -/

/-- A node **with other entries** in the place of those that it has. -/
def withEntries (new : List Json) : Json → Json
  | .object members => .object (members.map fun p => if p.1 = "e" then (p.1, .array new) else p)
  | .array items => .array (items.set 3 (.array new))
  | j => j

/-- A document is **changed behind an address** if any other values stand in the places of the
entries that come after the node there: of its own later siblings, and of the later siblings of the
nodes around it. -/
inductive ChangedBehind : List Nat → Json → Json → Prop
  /-- The node itself stays what it is. -/
  | here (j : Json) : ChangedBehind [] j j
  /-- So do the entries before the one that it is in. -/
  | inside {i : Nat} {place : List Nat} {j e e' : Json} {later : List Json} :
    j.entries[i]? = some e → ChangedBehind place e e' →
      j.entries.length = i + 1 + later.length →
      ChangedBehind (i :: place) j (j.withEntries (j.entries.take i ++ e' :: later))

/-- Other entries are held in the place of those that were held. -/
theorem held_withEntries (new : List Json) (j : Json) :
    (j.withEntries new).held 3 "e" = (j.held 3 "e").map fun _ => .array new := by
  cases j with
  | object members =>
    rw [withEntries]
    induction members with
    | nil => rfl
    | cons p members ih =>
      obtain ⟨k, v⟩ := p
      rw [List.map_cons, held_object_cons]
      dsimp only
      split_ifs with hk
      · rw [held_object_cons, if_pos hk, List.map_cons, ih]
      · rw [held_object_cons, if_neg hk, ih]
  | array items =>
    rw [withEntries, held, held, List.getElem?_set_self']
    cases items[3]? <;> rfl
  | _ => rfl

/-- Everything else that is held stays what it is. -/
theorem held_withEntries_of_ne (new : List Json) (j : Json) {index : Nat} {key : String}
    (hindex : 3 ≠ index) (hkey : "e" ≠ key) :
    (j.withEntries new).held index key = j.held index key := by
  cases j with
  | object members =>
    rw [withEntries]
    induction members with
    | nil => rfl
    | cons p members ih =>
      obtain ⟨k, v⟩ := p
      rw [List.map_cons, held_object_cons, ih, held_object_cons]
      dsimp only
      split_ifs with hk hkey' hkey'
      · exact absurd (hk.symm.trans hkey') hkey
      · rfl
      · rfl
      · rfl
  | array items => rw [withEntries, held, held, List.getElem?_set_ne hindex]
  | _ => rfl

/-- A node has as many parts after the change as before. -/
theorem isNode_withEntries (new : List Json) {j : Json} (h : j.IsNode) :
    (j.withEntries new).IsNode := by
  cases j with
  | object members => trivial
  | array items =>
    show (items.set 3 (.array new)).length ≤ 4
    rw [List.length_set]
    exact h
  | _ => exact h

/-- **A node with other entries** holds them, and otherwise what it held. -/
theorem Holds.withEntries {j : Json} {m : Members} (h : j.Holds m) (hne : j.entries ≠ [])
    (new : List Json) : (j.withEntries new).Holds { m with entries := some new } := by
  have ho := held_withEntries_of_ne new j (show 3 ≠ 0 by decide) (show "e" ≠ "o" by decide)
  have hf := held_withEntries_of_ne new j (show 3 ≠ 1 by decide) (show "e" ≠ "f" by decide)
  have hv := held_withEntries_of_ne new j (show 3 ≠ 2 by decide) (show "e" ≠ "v" by decide)
  have he := held_withEntries new j
  refine ⟨isNode_withEntries new h.isNode, ⟨ho ▸ h.isTyped.operator, hf ▸ h.isTyped.field, ?_⟩,
    ho ▸ h.operator, hf ▸ h.field, hv ▸ h.value, ?_⟩
  · rw [he]
    intro v hmem
    obtain ⟨w, -, rfl⟩ := List.mem_map.mp hmem
    trivial
  · rw [he, List.getLast?_map]
    cases hlast : (j.held 3 "e").getLast? with
    | none =>
      rw [Json.entries, hlast] at hne
      exact absurd rfl hne
    | some v => rfl

/-- What has the shape of a node holds something. -/
theorem exists_holds {j : Json} (h : ∀ mismatch, ¬j.Misshapen mismatch) : ∃ m, j.Holds m := by
  cases hread : Members.decoder.ofValue j with
  | ok m => exact ⟨m, decoder_eq_ok_iff.mp hread⟩
  | error f =>
    obtain ⟨mismatch, hshape, -⟩ := decoder_eq_error_iff.mp hread
    exact absurd hshape (h mismatch)

/-- Entries that are there are held. -/
theorem Holds.eq_some_entries {j : Json} {m : Members} (h : j.Holds m) (hne : j.entries ≠ []) :
    m.entries = some j.entries := by
  rw [h.entries_eq] at hne ⊢
  cases hm : m.entries with
  | none =>
    rw [hm] at hne
    exact absurd rfl hne
  | some entries => rfl

/-- Rules are **blind to what entries are** if a node that follows them, and has entries, holds
something and follows them with as many other entries. -/
def Blind (own : Json → Rejection → Prop) : Prop :=
  ∀ {j : Json} {new : List Json}, j.entries ≠ [] → new.length = j.entries.length →
    (∀ r, ¬own j r) → (j.withEntries new).entries = new ∧ ∀ r, ¬own (j.withEntries new) r

/-- The rules for the nodes inside a condition only count entries. -/
theorem blind_defect : Blind Defect := by
  intro j new hne hlength h
  obtain ⟨m, hm⟩ := exists_holds fun mismatch hshape => h _ (.shape hshape)
  have hm' := hm.withEntries hne new
  refine ⟨hm'.entries_eq, ?_⟩
  rw [not_defect_iff_of_group hm (hm.eq_some_entries hne)] at h
  rw [not_defect_iff_of_group hm' rfl, hlength]
  exact h

/-- The rules for the outermost node only count entries. -/
theorem blind_rootDefect : Blind RootDefect := by
  intro j new hne hlength h
  obtain ⟨m, hm⟩ := exists_holds fun mismatch hshape => h _ (.shape hshape)
  have hm' := hm.withEntries hne new
  refine ⟨hm'.entries_eq, ?_⟩
  rw [not_rootDefect_iff hm, hm.eq_some_entries hne, Option.getD_some, ← hlength] at h
  exact (not_rootDefect_iff hm').mpr h

/-- **What comes behind the first defect is of no account.** -/
theorem FirstDefect.changedBehind {own : Json → Rejection → Prop} (hown : Blind own)
    {place : List Nat} {j j' : Json} {r : Rejection} (h : j.FirstDefect own place r)
    (hchanged : ChangedBehind place j j') : j'.FirstDefect own place r := by
  -- the nodes around the place go on to be without defects, for they have as many entries
  induction hchanged generalizing own with
  | here j => exact h
  | @inside i place j e e' later he _ hlength ih =>
    obtain ⟨hnone, hbefore, e₀, he₀, hfirst⟩ := firstDefect_cons.mp h
    obtain rfl := Option.some.inj (he.symm.trans he₀)
    have hi : i < j.entries.length := by omega
    have htake : (j.entries.take i).length = i := List.length_take_of_le hi.le
    have hnew : (j.entries.take i ++ e' :: later).length = j.entries.length := by
      rw [List.length_append, List.length_cons, htake]
      omega
    obtain ⟨hentries, hnone'⟩ := hown (List.ne_nil_of_length_pos (by omega)) hnew hnone
    rw [firstDefect_cons, hentries]
    refine ⟨hnone', fun k hk d hd => hbefore k hk d ?_, e', ?_, ih blind_defect hfirst⟩
    · rwa [List.getElem?_append_left (by omega), List.getElem?_take_of_lt hk] at hd
    · rw [List.getElem?_append_right (by omega), htake, Nat.sub_self]
      rfl

end Json

/-! ### What a rejection shows -/

namespace Rejection

/-- The **node that a rejection shows**, as it was written. -/
def raw? : Rejection → Option String
  | .unsupportedExpression _ raw => some raw
  | .unsupportedOperand _ raw => some raw
  | .malformed (.node _ raw) => some raw
  | .malformed (.notObject raw) => some raw
  | .malformed (.document _) => none

/-- What a rejection shows is the end of its message. -/
theorem exists_message_eq {r : Rejection} {raw : String} (h : r.raw? = some raw) :
    ∃ front, r.message = front ++ ": " ++ raw := by
  cases r with
  | unsupportedExpression operator raw' =>
    cases h
    exact ⟨"unsupported expression " ++ operator, rfl⟩
  | unsupportedOperand value raw' =>
    cases h
    exact ⟨"unsupported type value " ++ value, rfl⟩
  | malformed m =>
    have hassoc : ∀ a b c d : String, a ++ (b ++ c ++ d) = a ++ b ++ c ++ d := by
      intro a b c d
      rw [String.append_assoc, String.append_assoc, String.append_assoc]
    cases m with
    | document f => cases h
    | node f raw' =>
      cases h
      exact ⟨"invalid condition document: " ++ f.message, hassoc _ _ _ _⟩
    | notObject raw' =>
      cases h
      have hsplit : "find query must be a JSON object: " =
          "find query must be a JSON object" ++ ": " := rfl
      refine ⟨"invalid condition document: " ++ "find query must be a JSON object", ?_⟩
      show "invalid condition document: " ++ ("find query must be a JSON object: " ++ raw) = _
      rw [hsplit]
      exact hassoc _ _ _ _

end Rejection

namespace Json

/-- A defect inside a condition shows the node that has it. -/
theorem Defect.raw?_eq {n : Json} {r : Rejection} (h : n.Defect r) : r.raw? = some n.compact := by
  cases h <;> rfl

/-- A defect of the outermost node shows it, unless it is of its shape. -/
theorem RootDefect.raw?_eq {n : Json} {r : Rejection} (h : n.RootDefect r) :
    r.raw? = some n.compact ∨
      ∃ mismatch, n.Misshapen mismatch ∧ r = .ofFault (.unplaced mismatch) := by
  cases h with
  | shape hshape => exact .inr ⟨_, hshape, rfl⟩
  | operator => exact .inl rfl
  | negation => exact .inl rfl

end Json

/-- **A rejection is about the first defect.** A document is rejected exactly if a node of it has a
defect, and then for the defect of the first such node in pre-order, of which there is one only; a
document that is accepted has no defect anywhere. The rejection shows that very node, as the end of
its message, unless it is the outermost one and does not have the shape of a node. And whatever is
put in the place of the entries that come after that node, its own later siblings and those of the
nodes around it, the rejection stays the same. -/
theorem Condition.rejects_first_defect (j : Json) :
    (∀ r, ofJson? j = .error r ↔ ∃! place, j.FirstDefect Json.RootDefect place r) ∧
    ((∃ c, ofJson? j = .ok c) ↔ j.Flawless Json.RootDefect) ∧
    ∀ place r, j.FirstDefect Json.RootDefect place r →
      (∃ n, j.node? place = some n ∧
        ((r.raw? = some n.compact ∧ ∃ front, r.message = front ++ ": " ++ n.compact) ∨
          place = [] ∧ ∃ mismatch, n.Misshapen mismatch ∧ r = .ofFault (.unplaced mismatch))) ∧
      ∀ j', Json.ChangedBehind place j j' → ofJson? j' = .error r := by
  have herror : ∀ (j : Json) (r : Rejection),
      ofJson? j = .error r ↔ ∃! place, j.FirstDefect Json.RootDefect place r := fun j =>
    (verdict_ofJson? j).eq_error_iff Json.RootDefect.unique
  refine ⟨herror j, (verdict_ofJson? j).exists_ok_iff, fun place r hfirst => ⟨?_, ?_⟩⟩
  · obtain ⟨n, hn, hr⟩ := hfirst.there
    refine ⟨n, hn, ?_⟩
    have hshown : r.raw? = some n.compact ∨
        place = [] ∧ ∃ mismatch, n.Misshapen mismatch ∧ r = .ofFault (.unplaced mismatch) := by
      cases place with
      | nil => exact (Json.RootDefect.raw?_eq hr).imp_right fun h => ⟨rfl, h⟩
      | cons i place => exact .inl (Json.Defect.raw?_eq hr)
    exact hshown.imp_left fun h => ⟨h, Rejection.exists_message_eq h⟩
  · intro j' hchanged
    have hfirst' := hfirst.changedBehind Json.blind_rootDefect hchanged
    exact (herror j' r).mpr ⟨place, hfirst', fun place' h =>
      (h.unique hfirst' Json.RootDefect.unique).1⟩

/-- A text under `LIKE` is wanted and a number found, between a sound node and one that is none. -/
theorem Condition.rejects_first_defect_operand :
    ofJson? (.object [("e", .array [.array [.text "=", .text "id", .integer 1],
        .array [.text "LIKE", .text "title", .integer 1000], .array [.text "XOR"]])]) =
      .error (.unsupportedOperand "1000" "[\"LIKE\",\"title\",1000]") ∧
    ofJson? (.object [("e", .array [.array [.text "=", .text "id", .integer 1],
        .array [.text "LIKE", .text "title", .integer 1000], .null])]) =
      .error (.unsupportedOperand "1000" "[\"LIKE\",\"title\",1000]") := by
  let sound : Json := .array [.text "=", .text "id", .integer 1]
  let node : Json := .array [.text "LIKE", .text "title", .integer 1000]
  let j : Json := .object [("e", .array [sound, node, .array [.text "XOR"]])]
  have hroot : j.Holds ⟨none, none, .null, some [sound, node, .array [.text "XOR"]]⟩ :=
    Json.decoder_eq_ok_iff.mp rfl
  have hnode : node.Holds ⟨some "LIKE", some "title", .integer 1000, none⟩ :=
    Json.decoder_eq_ok_iff.mp rfl
  have hsound : sound.Flawless Json.Defect :=
    (Node.verdict_ofJson? (show sound.height < 2 by decide)).exists_ok_iff.mp
      ⟨.leaf ⟨"id", .equal, .integer 1⟩, rfl⟩
  have hdefect : node.Defect (.unsupportedOperand "1000" "[\"LIKE\",\"title\",1000]") :=
    .operand hnode rfl (show _ = some Comparison.like.name from rfl) nofun
  have hfirst : j.FirstDefect Json.RootDefect [1]
      (.unsupportedOperand "1000" "[\"LIKE\",\"title\",1000]") := by
    refine Json.firstDefect_cons.mpr ⟨?_, ?_, node, rfl, Json.firstDefect_nil.mpr hdefect⟩
    · exact (Json.not_rootDefect_iff hroot).mpr ⟨.and, rfl, nofun⟩
    · rintro (_ | k) hk e he
      · obtain rfl := Option.some.inj he
        exact hsound
      · omega
  have h := rejects_first_defect j
  refine ⟨(h.1 _).mpr ⟨[1], hfirst, fun place hplace => ?_⟩, ?_⟩
  · exact (hplace.unique hfirst Json.RootDefect.unique).1
  · exact (h.2.2 [1] _ hfirst).2 _ (show Json.ChangedBehind [1] j
      (j.withEntries (j.entries.take 1 ++ node :: [.null])) from .inside rfl (.here node) rfl)

end Catalogue
