import Catalogue.Proofs.Condition.RoundTrip
import Catalogue.Proofs.Text.Trim
import Catalogue.Service.Paging

/-!
# Searches are read back from their text

A search is put into the parameter of a request as a text, and read from there. What is absent from
it is left out of the text, and so is a condition without entries; such a condition comes back as
the empty one, whatever it was that had no entries (`Catalogue.Search.settled`). Everything else
comes back as it was (`Catalogue.Search.search_round_trip`).

A search puts one more object around its condition, so that one group less may nest in it than in a
condition by itself: 62. Conditions that were read as parts of a search keep to that by themselves,
for each group of a document adds two to its height (`Catalogue.Condition.groups_of_ofJson?`) and
nothing higher than the reader of JSON admits is ever read.
-/

namespace Catalogue

/-! ### Groups of a document -/

namespace Node

theorem groupsOfList_le_iff {entries : List Node} {count : Nat} :
    groupsOfList entries ≤ count ↔ ∀ n ∈ entries, n.groups ≤ count := by
  induction entries with
  | nil => simp [groupsOfList]
  | cons n entries ih => rw [groupsOfList, Nat.max_le, ih, List.forall_mem_cons]

/-- Where each entry of a group fits below a bracket, all of them do together. -/
theorem groups_group_le {op : Combinator} {entries : List Node} {height : Nat}
    (hne : entries ≠ []) (h : ∀ n ∈ entries, 2 * n.groups + 3 ≤ height) :
    2 * (group op entries).groups + 1 ≤ height := by
  obtain ⟨n, hn⟩ := List.exists_mem_of_ne_nil entries hne
  have hpos := h n hn
  have hall : groupsOfList entries ≤ (height - 3) / 2 :=
    groupsOfList_le_iff.mpr fun m hm => by have := h m hm; omega
  rw [groups]
  omega

end Node

namespace Json

theorem IsNode.height_pos {j : Json} (h : j.IsNode) : 0 < j.height := by
  cases j with
  | array items => exact Nat.succ_pos _
  | object members => exact Nat.succ_pos _
  | _ => exact absurd h id

/-- **Every group of a document adds two to its height.** -/
theorem DenotesNode.groups_le {j : Json} {n : Node} (h : j.DenotesNode n) :
    2 * n.groups + 1 ≤ j.height := by
  induction h using DenotesNode.induction with
  | leaf hm _ _ _ _ _ => exact hm.isNode.height_pos
  | group hm he _ hcount hnodes ih =>
    obtain ⟨n, rest, rfl⟩ := Node.exists_cons_of_admits (hnodes.length_eq ▸ hcount)
    refine Node.groups_group_le (List.cons_ne_nil n rest) fun m hmem => ?_
    obtain ⟨e, hentry, _, hgroups⟩ := ih m hmem
    have := height_lt_of_holds hm he e hentry
    omega

end Json

/-- **So many groups nest in a condition that is read** as its document is high. -/
theorem Condition.groups_of_ofJson? {j : Json} {c : Condition} (h : ofJson? j = .ok c)
    (hne : c.isEmpty = false) : 2 * c.groups + 1 ≤ j.height := by
  refine Node.groups_group_le (fun hnil => ?_) fun n hn => ?_
  · rw [isEmpty, hnil] at hne
    cases hne
  · obtain ⟨m, entries, e, hm, he, hmem, hdenotes⟩ := exists_denotes h hn
    have hgroups := hdenotes.groups_le
    have := Json.height_lt_of_holds hm he e hmem
    omega

/-! ### Searches that can be written -/

namespace Search

variable {s : Search}

/-- A search **can be written** if its condition is sound and no more than 62 groups nest in it. -/
structure Writable (s : Search) : Prop where
  /-- The condition is sound. -/
  sound : s.condition.Sound
  /-- No more than 62 groups nest in it. -/
  groups : s.condition.isEmpty = false → s.condition.groups ≤ 62

/-- The searches to **start with**: those that are read, and those that are put together from any
columns, any order and a condition that is built. -/
inductive Source : Search → Prop
  /-- A search from a text. -/
  | text {t : String} {s : Search} (h : ofText? t = .ok s) : Source s
  /-- A search from its parts. -/
  | parts (select : Option (List String)) {c : Condition} (hc : c.Built) (hgroups : c.groups ≤ 62)
    (order : Option SortKey) : Source ⟨select, c, order⟩

theorem mem_of_member? {key : String} {members : List (String × Json)} {v : Json}
    (h : Json.member? key members = some v) : (key, v) ∈ members := by
  induction members with
  | nil => cases h
  | cons m members ih =>
    obtain ⟨k, w⟩ := m
    rw [Json.member?] at h
    split_ifs at h with hk
    · obtain rfl := Option.some.inj h
      rw [hk]
      exact List.mem_cons_self
    · exact List.mem_cons_of_mem _ (ih h)

/-- The condition of a search document is empty, or it is read from a member. -/
theorem conditionOf_cases {members : List (String × Json)} {c : Condition}
    (h : conditionOf members = .ok c) :
    c = .empty ∨ ∃ j, ("where", j) ∈ members ∧ Condition.ofJson? j = .ok c := by
  rw [conditionOf] at h
  split at h
  · exact .inl (Except.ok.inj h).symm
  · exact .inl (Except.ok.inj h).symm
  · rename_i j _ hj
    exact .inr ⟨j, mem_of_member? hj, h⟩

/-- **A search that is read can be written.** -/
theorem writable_of_ofText? {t : String} (h : ofText? t = .ok s) : s.Writable := by
  rw [ofText?, ofSymbols?] at h
  split at h
  · cases h
  · rename_i j hj
    have hheight := (Json.made_ofSymbols? hj).height
    cases j with
    | object members =>
      rw [ofJson?] at h
      split at h
      · cases h
      · rename_i c hc
        split at h
        · cases h
        · cases h
          rcases conditionOf_cases hc with rfl | ⟨j, hmem, hread⟩
          · exact ⟨Condition.Source.empty.sound, fun hne => nomatch hne⟩
          · refine ⟨Condition.sound_of_ofJson? hread, fun hne => ?_⟩
            have hgroups := Condition.groups_of_ofJson? hread hne
            have hmember := Json.height_le_membersHeight hmem
            rw [Json.height, Json.depthLimit] at hheight
            dsimp only at hgroups hmember ⊢
            omega
    | _ => cases h

/-- **Every search to start with can be written.** -/
theorem Source.writable (h : s.Source) : s.Writable := by
  cases h with
  | text h => exact writable_of_ofText? h
  | parts select hc hgroups order => exact ⟨hc.sound, fun _ => hgroups⟩

/-! ### Writing -/

/-- The document of a search is not too deep exactly if no more than 62 groups nest in its
condition. -/
theorem height_toJson_le_iff (h : s.condition.Sound) :
    s.toJson.height ≤ Json.depthLimit ↔
      (s.condition.isEmpty = false → s.condition.groups ≤ 62) := by
  have hheight : s.condition.isEmpty = false →
      s.condition.toJson.height = 2 * s.condition.groups + 1 := fun hne =>
    Node.height_toJson (h.toNode hne)
  rw [toJson, Json.height, Json.depthLimit, Nat.succ_le_succ_iff, Json.membersHeight_le_iff]
  constructor
  · intro hall hne
    have hwhere := hall ("where", s.condition.toJson) (by simp [hne])
    rw [hheight hne] at hwhere
    omega
  · intro hgroups m hm
    rw [List.mem_append, List.mem_append] at hm
    rcases hm with (hm | hm) | hm
    · obtain ⟨names, -, rfl⟩ := Option.map_eq_some_iff.mp (Option.mem_toList.mp hm)
      refine Nat.succ_le_succ (Json.itemsHeight_le_iff.mpr fun v hv => ?_)
      obtain ⟨name, -, rfl⟩ := List.mem_map.mp hv
      exact Nat.zero_le 125
    · split_ifs at hm with hempty
      · exact absurd hm List.not_mem_nil
      · obtain rfl := List.mem_singleton.mp hm
        have hne := Bool.eq_false_iff.mpr hempty
        have := hgroups hne
        rw [hheight hne]
        omega
    · obtain ⟨k, -, rfl⟩ := Option.map_eq_some_iff.mp (Option.mem_toList.mp hm)
      exact show 1 ≤ 126 by decide

/-- The document of a search without floating-point numbers is plain. -/
theorem plain_toJson (h : s.condition.Sound) (hexact : s.condition.toNode.IsExact) :
    s.toJson.Plain := by
  refine .object fun m hm => ?_
  rw [List.mem_append, List.mem_append] at hm
  rcases hm with (hm | hm) | hm
  · obtain ⟨names, -, rfl⟩ := Option.map_eq_some_iff.mp (Option.mem_toList.mp hm)
    refine .array fun v hv => ?_
    obtain ⟨name, -, rfl⟩ := List.mem_map.mp hv
    exact .text name
  · split_ifs at hm
    · exact absurd hm List.not_mem_nil
    · obtain rfl := List.mem_singleton.mp hm
      exact Condition.plain_toJson h hexact
  · obtain ⟨k, -, rfl⟩ := Option.map_eq_some_iff.mp (Option.mem_toList.mp hm)
    refine .object fun m hm => ?_
    rcases List.mem_cons.mp hm with rfl | hm
    · exact .text _
    · obtain rfl := List.mem_singleton.mp hm
      exact .bool _

/-! ### Reading -/

/-- The members of a search in the order of their keys. -/
def members (s : Search) : List (String × Json) :=
  (s.order.map fun k =>
    ("order_by", Json.object [("desc", .bool k.descending), ("field", .text k.field)])).toList ++
  (s.select.map fun names => ("select", Json.array (names.map .text))).toList ++
  if s.condition.isEmpty then [] else [("where", s.condition.toJson.normal)]

theorem normalItems_texts (names : List String) :
    Json.normalItems (names.map .text) = names.map .text := by
  induction names with
  | nil => rfl
  | cons name names ih =>
    rw [List.map_cons, Json.normalItems, ih]
    rfl

theorem normal_toJson (s : Search) : s.toJson.normal = .object s.members := by
  obtain ⟨select, c, order⟩ := s
  rw [toJson, Json.normal, members]
  cases select with
  | none => cases order <;> cases c.isEmpty <;> rfl
  | some names =>
    have hnames : (Json.array (names.map .text)).normal = .array (names.map .text) := by
      rw [Json.normal, normalItems_texts]
    dsimp only [Option.map_some, Option.toList_some, List.cons_append, List.nil_append]
    rw [Json.normalMembers, hnames]
    cases order <;> cases c.isEmpty <;> rfl

theorem member?_where (s : Search) : Json.member? "where" s.members =
    if s.condition.isEmpty then none else some s.condition.toJson.normal := by
  obtain ⟨select, c, order⟩ := s
  rw [members]
  cases select <;> cases order <;> cases c.isEmpty <;> rfl

/-- The condition of a search comes back, the empty one in place of one without entries. -/
theorem conditionOf_members (h : s.condition.Sound) (hexact : s.condition.toNode.IsExact) :
    conditionOf s.members = .ok (if s.condition.isEmpty then .empty else s.condition) := by
  rw [conditionOf, member?_where]
  cases s.condition.isEmpty with
  | true => rfl
  | false => exact Condition.ofJson?_normal_toJson h hexact

theorem list_text_ofValue (names : List String) :
    (Json.Decoder.list .text).ofValue (.array (names.map .text)) = .ok names := by
  show (names.map Json.text).mapM Json.Decoder.text.ofValue = .ok names
  induction names with
  | nil => rfl
  | cons name names ih =>
    rw [List.map_cons, List.mapM_cons, ih]
    rfl

/-- Columns and order of a search come back. -/
theorem decoder_members (s : Search) :
    decoder.ofValue (.object s.members) = .ok ⟨s.select, .empty, s.order⟩ := by
  obtain ⟨select, c, order⟩ := s
  rw [members]
  cases select with
  | none => cases order <;> cases c.isEmpty <;> rfl
  | some names =>
    have hselect : (Json.Decoder.optional (.list .text)).ofValue (.array (names.map .text)) =
        .ok (some names) := by
      show ((Json.Decoder.list .text).ofValue (.array (names.map .text))).map some = _
      rw [list_text_ofValue]
      rfl
    have horder : ∀ k : SortKey, (Json.Decoder.optional SortKey.decoder).ofValue
        (.object [("desc", .bool k.descending), ("field", .text k.field)]) = .ok (some k) :=
      fun _ => rfl
    cases order <;> cases c.isEmpty <;>
      simp [decoder, everything, Json.Decoder.record, Json.Decoder.ofMembers,
        Json.Decoder.missing?, Json.Decoder.Field.free, Json.Decoder.Field.of, Except.map,
        hselect, horder]

/-- A search **as it comes back**: a condition without entries is the empty one. -/
def settled (s : Search) : Search :=
  { s with condition := if s.condition.isEmpty then .empty else s.condition }

/-- **A search that can be written is read back from its text.** -/
theorem Writable.ofText?_toText (h : s.Writable) (hexact : s.condition.toNode.IsExact) :
    ofText? s.toText = .ok s.settled := by
  have hheight := (height_toJson_le_iff h.sound).mpr h.groups
  have hread := (Json.ofText?_compact (plain_toJson h.sound hexact)).1 hheight
  rw [Json.ofText?, ← toText] at hread
  rw [ofText?, ofSymbols?, hread, normal_toJson]
  dsimp only
  rw [ofJson?, conditionOf_members h.sound hexact]
  dsimp only
  rw [decoder_members]
  rfl

/-- With one group more the text is refused, and never read as anything else. -/
theorem ofText?_toText_of_groups (h : s.condition.Sound) (hexact : s.condition.toNode.IsExact)
    (hne : s.condition.isEmpty = false) (hgroups : 62 < s.condition.groups) :
    ∃ r, ofText? s.toText = .error r := by
  have hheight : ¬s.toJson.height ≤ Json.depthLimit := fun hle =>
    absurd ((height_toJson_le_iff h).mp hle hne) (Nat.not_le_of_lt hgroups)
  obtain ⟨f, hf⟩ := (Json.ofText?_compact (plain_toJson h hexact)).2 (Nat.lt_of_not_le hheight)
  rw [Json.ofText?, ← toText] at hf
  exact ⟨.ofFault f, by rw [ofText?, ofSymbols?, hf]⟩

end Search

/-! ### Parameters -/

namespace Search

variable {s : Search}

/-- The text of a search is a parameter as it is: there are no blanks around it. -/
theorem given?_toText (s : Search) : Service.ListParams.given? (some s.toText) = some s.toText := by
  have hlist : s.toText.toList = '\x7b' :: Json.memberChars _ ++ ['\x7d'] :=
    String.toList_ofList
  have htrim : Text.trim s.toText = s.toText := Text.trim_eq_self hlist (by decide) (by decide)
  have hne : s.toText.isEmpty = false := by
    rw [Bool.eq_false_iff, ne_eq, String.isEmpty_iff, ← String.toList_eq_nil_iff, hlist]
    exact List.cons_ne_nil _ _
  rw [Service.ListParams.given?, Option.map_some, htrim]
  dsimp only
  rw [hne]
  rfl

/-- **A search is read back from its text**, and from the parameter of a request that holds the
text. -/
theorem search_round_trip (h : s.Source) (hexact : s.condition.toNode.IsExact) :
    ofText? s.toText = .ok s.settled ∧
      ∀ p : Service.ListParams, p.query = some s.toText → p.search = .ok s.settled := by
  have hread := h.writable.ofText?_toText hexact
  refine ⟨hread, fun p hp => ?_⟩
  rw [Service.ListParams.search, hp, given?_toText]
  dsimp only
  rw [hread]

/-- A search with a column twice and one without a name, and with texts that need escapes. -/
def particular : Search :=
  ⟨some ["id", "id", ""], (Condition.empty.like "title" "\"Tintin\"\n").not
    (Condition.empty.equal "id" (.integer (-3))), some ⟨"", true⟩⟩

/-- A search for one of no alternatives at all. -/
def anyOfNone : Search := ⟨none, ⟨.or, []⟩, none⟩

theorem search_round_trip_particular :
    particular.Source ∧ ofText? particular.toText = .ok particular ∧
      Service.ListParams.search ⟨some particular.toText, none, some "5"⟩ = .ok particular ∧
      ofText? "\x7b\"where\":\x7b\"o\":\"OR\"\x7d,\"limit\":3\x7d" = .ok anyOfNone ∧
      ofText? anyOfNone.toText = .ok everything := by
  have hbuilt : particular.condition.Built :=
    .not (.like .empty (by decide) _) (.equalInteger .empty (by decide) _)
  have hsource : particular.Source := .parts _ hbuilt (by decide) _
  obtain ⟨htext, hparameter⟩ := search_round_trip hsource hbuilt.isExact
  have hread : ofText? "\x7b\"where\":\x7b\"o\":\"OR\"\x7d,\"limit\":3\x7d" = .ok anyOfNone :=
    rfl
  exact ⟨hsource, htext, hparameter _ rfl, hread,
    (search_round_trip (.text hread) fun _ hp => absurd hp List.not_mem_nil).1⟩

end Search

end Catalogue
