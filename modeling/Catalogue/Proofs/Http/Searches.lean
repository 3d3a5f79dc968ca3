import Catalogue.Http.Routes
import Catalogue.Proofs.Json.Ends
import Catalogue.Proofs.Text.Trim
import Catalogue.Proofs.Text.Utf8

/-!
# Searches in parameters and in bodies

A search may be sent as a parameter or as a body, and neither need be there. Both are read by the
same reader, but they differ in what they take for nothing: a parameter is trimmed of all blanks,
whereas in a body only the spaces of JSON are passed over, and it counts as none only if it is made
of five bytes that are spaces in ASCII.

All the same a body is read as the parameter of the same text is, whenever it is read at all; and a
parameter is read as the body is as long as nothing but spaces of JSON has to be trimmed
(`Catalogue.Http.search_of_body_or_parameter`).
-/

namespace Catalogue

/-! ### Spaces in bytes -/

namespace Http

/-- The byte of a number below 256 is a space if the number is that of one. -/
theorem isSpaceByte_ofNat_iff {n : Nat} (h : n < 256) :
    isSpaceByte (UInt8.ofNat n) = true ↔ n = 0x20 ∨ n = 0x09 ∨ n = 0x0A ∨ n = 0x0C ∨ n = 0x0D := by
  simp only [isSpaceByte, Bool.or_eq_true, decide_eq_true_eq, ← UInt8.toNat_inj,
    Symbol.toNat_byte h, or_assoc]
  rfl

/-- A character of which all bytes are spaces is blank. -/
theorem isBlank_of_isSpaceByte {c : Char}
    (h : ∀ b ∈ String.utf8EncodeChar c, isSpaceByte b = true) : Text.isBlank c = true := by
  have hval : c.val.toNat = c.toNat := rfl
  rw [String.utf8EncodeChar] at h
  simp only [hval] at h
  -- lead bytes are too great to be spaces
  split_ifs at h with hone htwo hthree
  · have hspace := (isSpaceByte_ofNat_iff (by omega)).mp (h _ List.mem_cons_self)
    rw [Text.isBlank]
    rcases hspace with heq | heq | heq | heq | heq
    all_goals
      rw [heq]
      rfl
  · have hspace := (isSpaceByte_ofNat_iff (by omega)).mp (h _ List.mem_cons_self)
    omega
  · have hspace := (isSpaceByte_ofNat_iff (by omega)).mp (h _ List.mem_cons_self)
    omega
  · have hspace := (isSpaceByte_ofNat_iff (by omega)).mp (h _ List.mem_cons_self)
    omega

/-- A space of JSON is made of spaces. -/
theorem isSpaceByte_of_isSpace {c : Char} (h : Json.Cursor.isSpace c = true) :
    (String.utf8EncodeChar c).all isSpaceByte = true := by
  simp only [Json.Cursor.isSpace, Bool.or_eq_true, decide_eq_true_eq] at h
  rcases h with ((rfl | rfl) | rfl) | rfl
  · rfl
  · rfl
  · rfl
  · rfl

variable {t : String}

/-- A text of which all bytes are spaces is blank. -/
theorem trim_eq_empty_of_isSpaceByte (h : (Text.bytes t).all isSpaceByte = true) :
    Text.trim t = "" := by
  rw [Text.bytes_eq, List.all_flatMap, List.all_eq_true] at h
  rw [Text.trim_eq_empty_iff, Text.isBlankText, List.all_eq_true]
  intro c hc
  exact isBlank_of_isSpaceByte (List.all_eq_true.mp (h c hc))

/-- A text of spaces of JSON is made of spaces. -/
theorem isSpaceByte_bytes (h : ∀ c ∈ t.toList, Json.Cursor.isSpace c = true) :
    (Text.bytes t).all isSpaceByte = true := by
  rw [Text.bytes_eq, List.all_flatMap, List.all_eq_true]
  intro c hc
  exact isSpaceByte_of_isSpace (h c hc)

end Http

/-! ### Searches between blanks -/

namespace Search

/-- What is read between spaces and blanks is read between other spaces, too. -/
theorem ofSymbols?_upToBlanks {lead lead' xs ys : List Symbol} {s : Search}
    (hlead : ∀ s ∈ lead, s.isSpace = true) (hlead' : ∀ s ∈ lead', s.isSpace = true)
    (h : Symbol.UpToBlanks xs ys) (hs : ofSymbols? (lead ++ xs) = .ok s) :
    ofSymbols? (lead' ++ ys) = .ok s := by
  rw [ofSymbols?] at hs
  cases hj : Json.ofSymbols? (lead ++ xs) with
  | error f =>
    rw [hj] at hs
    cases hs
  | ok j =>
    rw [hj] at hs
    rw [ofSymbols?, Json.ofSymbols?_upToBlanks hlead hlead' h hj]
    exact hs

/-- Blanks in front of what is read are spaces. -/
theorem isSpace_of_ofSymbols? {lead xs : List Symbol} {s : Search}
    (hlead : ∀ s ∈ lead, s.isBlank = true) (hs : ofSymbols? (lead ++ xs) = .ok s) :
    ∀ s ∈ lead, s.isSpace = true := by
  rw [ofSymbols?] at hs
  cases hj : Json.ofSymbols? (lead ++ xs) with
  | error f =>
    rw [hj] at hs
    cases hs
  | ok j => exact Json.isSpace_of_ofSymbols? hlead hj

/-- A text is what trimming leaves of it, between blanks. -/
theorem ofText_eq (t : String) :
    Symbol.ofText t =
      (Text.front t).map .char ++ (Symbol.ofText (Text.trim t) ++ (Text.back t).map .char) := by
  rw [Symbol.ofText, Text.front_append_trim_append_back t, List.map_append, List.map_append]
  rfl

variable {t : String} {s : Search}

/-- **A text that is read is read when it has been trimmed.** -/
theorem ofText?_trim (h : ofText? t = .ok s) : ofText? (Text.trim t) = .ok s := by
  rw [ofText?, ofText_eq] at h
  have hfront : ∀ s ∈ (Text.front t).map Symbol.char, s.isBlank = true := by
    rw [List.forall_mem_map]
    exact fun c hc => Text.isBlank_of_mem_front hc
  have hback : ∀ s ∈ (Text.back t).map Symbol.char, s.isBlank = true := by
    rw [List.forall_mem_map]
    exact fun c hc => Text.isBlank_of_mem_back hc
  have hends : Symbol.UpToBlanks (Symbol.ofText (Text.trim t) ++ (Text.back t).map .char)
      (Symbol.ofText (Text.trim t) ++ []) := Symbol.upToBlanks_append _ hback nofun
  have htrim : ofSymbols? ([] ++ (Symbol.ofText (Text.trim t) ++ [])) = .ok s :=
    ofSymbols?_upToBlanks (isSpace_of_ofSymbols? hfront h) nofun hends h
  rw [List.nil_append, List.append_nil] at htrim
  rw [ofText?, htrim]

/-- **A text that is read when it has been trimmed is read as it is**, if only spaces of JSON were
removed. -/
theorem ofText?_of_trim (hspace : ∀ c ∈ Text.trimmedOff t, Json.Cursor.isSpace c = true)
    (h : ofText? (Text.trim t) = .ok s) : ofText? t = .ok s := by
  have hfront : ∀ s ∈ (Text.front t).map Symbol.char, s.isSpace = true := by
    rw [List.forall_mem_map]
    exact fun c hc => hspace c (List.mem_append_left _ hc)
  have hback : ∀ s ∈ (Text.back t).map Symbol.char, s.isSpace = true := by
    rw [List.forall_mem_map]
    exact fun c hc => hspace c (List.mem_append_right _ hc)
  have hends : Symbol.UpToBlanks (Symbol.ofText (Text.trim t) ++ [])
      (Symbol.ofText (Text.trim t) ++ (Text.back t).map .char) :=
    Symbol.upToBlanks_append _ nofun hback
  have htrim : ofSymbols? ([] ++ (Symbol.ofText (Text.trim t) ++ [])) = .ok s := by
    rw [List.nil_append, List.append_nil, ← ofText?, h]
  have hnil : ∀ s ∈ ([] : List Symbol), s.isSpace = true := nofun
  rw [ofText?, ofText_eq]
  exact ofSymbols?_upToBlanks hnil hfront hends htrim

/-- Nothing is no search. -/
theorem ofText?_empty_ne_ok (s : Search) : ofText? "" ≠ .ok s := nofun

end Search

/-! ### Parameters and bodies -/

namespace Service

namespace ListParams

variable {t : String} {offset limit : Option String}

/-- A parameter of blanks is none. -/
theorem search_of_trim_eq_empty (h : Text.trim t = "") :
    search ⟨some t, offset, limit⟩ = .ok .everything := by
  have hnone : given? (some t) = Option.none := by
    rw [given?, Option.map_some, h]
    rfl
  rw [search, hnone]

/-- Any other parameter is read when it has been trimmed. -/
theorem search_eq_ok_iff (h : Text.trim t ≠ "") (q : Search) :
    search ⟨some t, offset, limit⟩ = .ok q ↔ Search.ofText? (Text.trim t) = .ok q := by
  have hsome : given? (some t) = some (Text.trim t) := by
    rw [given?, Option.map_some]
    dsimp only
    rw [if_neg]
    rwa [String.isEmpty_iff]
  rw [search, hsome]
  dsimp only
  cases Search.ofText? (Text.trim t) with
  | error r => exact iff_of_false nofun nofun
  | ok s => simp only [Except.ok.injEq]

end ListParams

end Service

namespace Http

variable {t : String}

/-- A body that is not made of spaces is read as it is. -/
theorem searchOfBody_bytes_eq_ok_iff (h : (Text.bytes t).all isSpaceByte ≠ true) (q : Search) :
    searchOfBody (Text.bytes t) = .ok q ↔ Search.ofText? t = .ok q := by
  rw [searchOfBody, if_neg h, Symbol.ofBytes_bytes, Search.ofText?]
  cases Search.ofSymbols? (Symbol.ofText t) with
  | error r =>
    constructor
    · intro h
      cases h
    · intro h
      cases h
  | ok s => simp only [Except.ok.injEq]

/-- **A search in a body and in a parameter** is the same. Whatever text it is: if it is read as a
body, then it is read as a parameter, and as the same search. And if it is read as a parameter, then
it is read as a body as the same search, provided that the blanks at its ends, which are trimmed off
a parameter, are spaces, tabs, and ends of lines. -/
theorem search_of_body_or_parameter (t : String) (offset limit : Option String) (q : Search) :
    (searchOfBody (Text.bytes t) = .ok q →
      Service.ListParams.search ⟨some t, offset, limit⟩ = .ok q) ∧
    (Service.ListParams.search ⟨some t, offset, limit⟩ = .ok q →
      (∀ c ∈ Text.trimmedOff t, c = ' ' ∨ c = '\t' ∨ c = '\n' ∨ c = '\r') →
      searchOfBody (Text.bytes t) = .ok q) := by
  by_cases hbytes : (Text.bytes t).all isSpaceByte = true
  · have hblank := trim_eq_empty_of_isSpaceByte hbytes
    have hbody : searchOfBody (Text.bytes t) = .ok .everything := if_pos hbytes
    rw [hbody, Service.ListParams.search_of_trim_eq_empty hblank]
    exact ⟨id, fun h _ => h⟩
  · rw [searchOfBody_bytes_eq_ok_iff hbytes]
    refine ⟨fun h => ?_, fun h hspace => ?_⟩
    · -- the parameter is not blank, because something was read from it
      have htrim := Search.ofText?_trim h
      refine (Service.ListParams.search_eq_ok_iff (fun hempty => ?_) q).mpr htrim
      rw [hempty] at htrim
      exact Search.ofText?_empty_ne_ok q htrim
    · have hjson : ∀ c ∈ Text.trimmedOff t, Json.Cursor.isSpace c = true := by
        intro c hc
        rcases hspace c hc with rfl | rfl | rfl | rfl
        · rfl
        · rfl
        · rfl
        · rfl
      have hne : Text.trim t ≠ "" := fun hempty =>
        hbytes (isSpaceByte_bytes fun c hc =>
          hjson c (Text.mem_trimmedOff_of_trim_eq_empty hempty hc))
      exact Search.ofText?_of_trim hjson ((Service.ListParams.search_eq_ok_iff hne q).mp h)

/-- A search for titles, with spaces of JSON around it. -/
def spaced : String := "\n \x7b\"select\": [\"title\"]\x7d\t"

/-- The search is read from a parameter, and so it is read from a body. -/
theorem search_of_body_or_parameter_spaced :
    Service.ListParams.search ⟨some spaced, none, none⟩ = .ok ⟨some ["title"], .empty, none⟩ ∧
      (∀ c ∈ Text.trimmedOff spaced, c = ' ' ∨ c = '\t' ∨ c = '\n' ∨ c = '\r') ∧
      searchOfBody (Text.bytes spaced) = .ok ⟨some ["title"], .empty, none⟩ := by
  have hparameter : Service.ListParams.search ⟨some spaced, none, none⟩ =
      .ok ⟨some ["title"], .empty, none⟩ := rfl
  have htrimmed : Text.trimmedOff spaced = ['\n', ' ', '\t'] := rfl
  have hspace : ∀ c ∈ Text.trimmedOff spaced, c = ' ' ∨ c = '\t' ∨ c = '\n' ∨ c = '\r' := by
    rw [htrimmed]
    simp
  exact ⟨hparameter, hspace,
    (search_of_body_or_parameter spaced none none _).2 hparameter hspace⟩

/-- A form feed in front is trimmed off a parameter, but no search is read behind it in a body. -/
example : Service.ListParams.search ⟨some "\x0c\x7b\x7d", none, none⟩ = .ok .everything ∧
    (searchOfBody [0x0C, 0x7B, 0x7D]).toOption.isNone :=
  ⟨rfl, rfl⟩

end Http

end Catalogue
