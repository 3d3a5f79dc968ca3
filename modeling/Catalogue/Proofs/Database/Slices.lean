import Catalogue.Proofs.Database.Masking
import Mathlib.Data.String.Basic

/-!
# Where an address is cut

An address is shown without its password by cutting it at places, and a place in a text is a number
of bytes. A text cannot be cut at every place (`Catalogue.Text.slice?`): the part between two places
is there only if they come in this order, lie in the text, and if no character lies across them.

`Catalogue.Address.sliced?` cuts an address in bytes, and it shows what `Catalogue.Address.masked?`
shows (`Catalogue.Address.masked?_eq_sliced?`). Every place that is found lies between two
characters, so that nothing but the order of two places can go wrong: the credentials are the part
between the first mark of a scheme and the last at sign, which are looked for without regard to each
other. `Catalogue.Address.shown_unless_sign_first` says of which addresses there is nothing to show:
of those with an at sign in front of the first mark and none behind it.
-/

namespace Catalogue

namespace Text

/-! ### Parts of a text between two places -/

/-- The **part of a text between two places**, which are counted in bytes. There is none if the
places are in the wrong order, outside of the text, or inside of a character. -/
def slice? (s : String) (start stop : Nat) : Option String :=
  if start ≤ stop ∧ String.Pos.Raw.IsValid s ⟨start⟩ ∧ String.Pos.Raw.IsValid s ⟨stop⟩ then
    some (String.Pos.Raw.extract s ⟨start⟩ ⟨stop⟩)
  else none

/-- There is nothing between two places in the wrong order. -/
theorem slice?_eq_none_of_lt {start stop : Nat} (h : stop < start) (s : String) :
    slice? s start stop = none :=
  if_neg fun hs => Nat.not_le_of_lt h hs.1

/-- Between the ends of two parts of a text that follow each other lies the second one. -/
theorem slice?_append (a b c : String) :
    slice? (a ++ b ++ c) a.utf8ByteSize (a.utf8ByteSize + b.utf8ByteSize) = some b := by
  have hstart : String.Pos.Raw.IsValid (a ++ b ++ c) ⟨a.utf8ByteSize⟩ :=
    String.Pos.Raw.isValid_iff_exists_append.mpr ⟨a, b ++ c, String.append_assoc, rfl⟩
  have hstop : String.Pos.Raw.IsValid (a ++ b ++ c) ⟨a.utf8ByteSize + b.utf8ByteSize⟩ :=
    String.Pos.Raw.isValid_iff_exists_append.mpr
      ⟨a ++ b, c, rfl, by rw [← String.utf8ByteSize_append]; rfl⟩
  have hpart : String.Pos.Raw.extract (a ++ b ++ c) ⟨a.utf8ByteSize⟩
      ⟨a.utf8ByteSize + b.utf8ByteSize⟩ = b := by
    have h := String.extract_of_valid a.toList b.toList c.toList
    simpa only [← String.utf8ByteSize_ofList, String.ofList_append, String.ofList_toList] using h
  rw [slice?, if_pos ⟨Nat.le_add_right _ _, hstart, hstop⟩, hpart]

/-- The **place** in front of a character, or behind the last one. -/
def place (s : String) (n : Nat) : Nat := (String.ofList (s.toList.take n)).utf8ByteSize

variable {s : String} {m n : Nat}

theorem place_zero (s : String) : place s 0 = 0 := rfl

theorem place_length (s : String) : place s s.toList.length = s.utf8ByteSize := by
  rw [place, List.take_length, String.ofList_toList]

/-- From one place to another it is as many bytes as the characters between them have. -/
theorem place_add (s : String) (n k : Nat) :
    place s (n + k) = place s n + (String.ofList ((s.toList.drop n).take k)).utf8ByteSize := by
  rw [place, place, List.take_add, String.ofList_append, String.utf8ByteSize_append]

/-- **Characters that follow each other lie between places** that can be cut at. -/
theorem slice?_place (s : String) (hmn : m ≤ n) :
    slice? s (place s m) (place s n) = some (String.ofList ((s.toList.take n).drop m)) := by
  have hparts : s = String.ofList (s.toList.take m) ++
      String.ofList ((s.toList.take n).drop m) ++ String.ofList (s.toList.drop n) := by
    have hfront : s.toList.take m ++ (s.toList.take n).drop m = s.toList.take n := by
      conv_rhs => rw [← List.take_append_drop m (s.toList.take n), List.take_take, min_eq_left hmn]
    rw [← String.ofList_append, ← String.ofList_append, hfront, List.take_append_drop,
      String.ofList_toList]
  have hstop : place s n =
      place s m + (String.ofList ((s.toList.take n).drop m)).utf8ByteSize := by
    rw [List.drop_take, ← place_add, Nat.add_sub_cancel' hmn]
  have h := slice?_append (String.ofList (s.toList.take m))
    (String.ofList ((s.toList.take n).drop m)) (String.ofList (s.toList.drop n))
  rw [← hparts] at h
  rwa [hstop]

/-- In front of a place lie the characters before it. -/
theorem slice?_front (s : String) (n : Nat) :
    slice? s 0 (place s n) = some (String.ofList (s.toList.take n)) := by
  have h := slice?_place s (Nat.zero_le n)
  rwa [place_zero, List.drop_zero] at h

/-- Behind a place lie the characters from there on. -/
theorem slice?_back (hn : n ≤ s.toList.length) :
    slice? s (place s n) s.utf8ByteSize = some (String.ofList (s.toList.drop n)) := by
  have h := slice?_place s hn
  rwa [place_length, List.take_length] at h

/-- A character further on stands at a greater place. -/
theorem place_lt_place (hmn : m < n) (hm : m < s.toList.length) : place s m < place s n := by
  obtain ⟨k, rfl⟩ := Nat.exists_eq_add_of_lt hmn
  have hne : (s.toList.drop m).take (k + 1) ≠ [] := by
    simpa [List.drop_eq_nil_iff] using hm
  have hpos : 0 < (String.ofList ((s.toList.drop m).take (k + 1))).utf8ByteSize :=
    Nat.pos_of_ne_zero fun h =>
      hne (String.ofList_eq_empty_iff.mp (String.utf8ByteSize_eq_zero_iff.mp h))
  rw [Nat.add_assoc, place_add]
  exact Nat.lt_add_of_pos_right hpos

/-! ### What a search has found -/

/-- Behind a text that it begins with, a text goes on. -/
theorem exists_append_of_past? {part cs : List Char} (h : (past? part cs).isSome = true) :
    ∃ rest, cs = part ++ rest := by
  induction part generalizing cs with
  | nil => exact ⟨cs, rfl⟩
  | cons a part ih =>
    cases cs with
    | nil => simp [past?] at h
    | cons c cs =>
      by_cases hac : a = c
      · obtain ⟨rest, rfl⟩ := ih (by simpa [past?, hac] using h)
        exact ⟨rest, by rw [hac, List.cons_append]⟩
      · simp [past?, hac] at h

/-- **What is found is there, and not before.** -/
theorem find?_eq_some {part cs : List Char} (h : find? part cs = some n) :
    ∃ before rest, cs = before ++ (part ++ rest) ∧ before.length = n ∧
      (part ≠ [] → ¬part <:+: before) := by
  induction cs generalizing n with
  | nil =>
    simp only [find?] at h
    split at h
    · next hpart =>
      cases h
      exact ⟨[], [], by simp [hpart], rfl, fun hne => absurd hpart hne⟩
    · cases h
  | cons c cs ih =>
    simp only [find?] at h
    split at h
    · next hhere =>
      obtain ⟨rest, hrest⟩ := exists_append_of_past? hhere
      cases h
      exact ⟨[], rest, hrest, rfl, fun hne hin => hne (List.infix_nil.mp hin)⟩
    · next hhere =>
      obtain ⟨k, hk, rfl⟩ := Option.map_eq_some_iff.mp h
      obtain ⟨before, rest, rfl, hlength, hnot⟩ := ih hk
      refine ⟨c :: before, rest, rfl, by rw [List.length_cons, hlength], fun hne hin => ?_⟩
      rcases List.infix_cons_iff.mp hin with ⟨behind, hbehind⟩ | hin
      · -- the part would be found right here
        rw [← List.cons_append, ← hbehind, List.append_assoc] at hhere
        exact hhere (isSome_past?_append part _)
      · exact hnot hne hin

/-- A character that occurs in a text has a last occurrence, behind which there is no other. -/
theorem exists_last_of_mem {c : Char} {cs : List Char} (h : c ∈ cs) :
    ∃ before rest, cs = before ++ c :: rest ∧ c ∉ rest := by
  obtain ⟨rest, before, hparts, hrest⟩ := List.eq_append_cons_of_mem (List.mem_reverse.mpr h)
  refine ⟨before.reverse, rest.reverse, ?_, fun hmem => hrest (List.mem_reverse.mp hmem)⟩
  rw [← List.reverse_reverse cs, hparts]
  simp

/-- A character that does not occur has no last occurrence. -/
theorem mem_of_findLast? {c : Char} {cs : List Char} (h : findLast? c cs = some n) : c ∈ cs := by
  by_contra hc
  have hnone : cs.reverse.findIdx? (· = c) = none :=
    List.findIdx?_eq_none_iff.mpr fun d hd => by
      simpa using fun hdc : d = c => hc (hdc ▸ List.mem_reverse.mp hd)
  rw [findLast?, hnone] at h
  cases h

/-- **The last occurrence that is found** has no other behind it. -/
theorem findLast?_eq_some {c : Char} {cs : List Char} (h : findLast? c cs = some n) :
    ∃ before rest, cs = before ++ c :: rest ∧ before.length = n ∧ c ∉ rest := by
  obtain ⟨before, rest, rfl, hrest⟩ := exists_last_of_mem (mem_of_findLast? h)
  rw [findLast?_append_cons hrest] at h
  exact ⟨before, rest, rfl, Option.some.inj h, hrest⟩

/-- A text that begins in two ways: the character behind the shorter beginning is in the longer
one, and so is all that follows it there. -/
theorem exists_cons_of_length_lt {c : Char} {front back start rest : List Char}
    (h : front ++ c :: back = start ++ rest) (hlt : front.length < start.length) :
    ∃ part, start = front ++ c :: part ∧ back = part ++ rest := by
  rcases List.append_eq_append_iff.mp h with ⟨part, rfl, hback⟩ | ⟨part, rfl, -⟩
  · cases part with
    | nil => simp at hlt
    | cons d part =>
      rw [List.cons_append] at hback
      cases hback
      exact ⟨part, rfl, rfl⟩
  · rw [List.length_append] at hlt
    omega

end Text

namespace Address

/-! ### Cutting an address -/

/-- An address without its password, **cut at places**: the credentials lie between the first mark
of a scheme, which has three bytes, and the last at sign. -/
def sliced? (address : String) : Option String :=
  match (Text.find? schemeMark address.toList).map (Text.place address),
      (Text.findLast? '@' address.toList).map (Text.place address) with
  | some scheme, some sign => do
    let credentials ← Text.slice? address (scheme + 3) sign
    match (credentials.toList.findIdx? (· = ':')).map (Text.place credentials) with
    | some colon =>
      let front ← Text.slice? address 0 (scheme + 3)
      let user ← Text.slice? credentials 0 colon
      let rest ← Text.slice? address sign address.utf8ByteSize
      return front ++ user ++ ":***" ++ rest
    | none => return address
  | _, _ => some address

variable {address : String} {scheme sign : Nat}

/-- The mark of a scheme ends three bytes behind the place at which it is found. -/
theorem place_behind_mark (h : Text.find? schemeMark address.toList = some scheme) :
    Text.place address scheme + 3 = Text.place address (scheme + schemeMark.length) := by
  obtain ⟨before, rest, hparts, hlength, -⟩ := Text.find?_eq_some h
  have hmark : (address.toList.drop scheme).take schemeMark.length = schemeMark := by
    rw [hparts, ← hlength, List.drop_left, List.take_left]
  rw [Text.place_add, hmark]
  rfl

/-- The last at sign is in the text. -/
theorem sign_lt_length (h : Text.findLast? '@' address.toList = some sign) :
    sign < address.toList.length := by
  obtain ⟨before, rest, hparts, hlength, -⟩ := Text.findLast?_eq_some h
  rw [hparts, ← hlength]
  simp only [List.length_append, List.length_cons]
  omega

/-- **Cutting an address at places shows what is shown of its characters**: every cut can be made
but that of the credentials, which fails where the at sign comes first. -/
theorem masked?_eq_sliced? (address : String) : masked? address = sliced? address := by
  cases hscheme : Text.find? schemeMark address.toList with
  | none => simp only [masked?, sliced?, hscheme, Option.map_none]
  | some scheme =>
    cases hsign : Text.findLast? '@' address.toList with
    | none => simp only [masked?, sliced?, hscheme, hsign, Option.map_some, Option.map_none]
    | some sign =>
      simp only [masked?, sliced?, hscheme, hsign, Option.map_some, place_behind_mark hscheme]
      by_cases hlt : sign < scheme + schemeMark.length
      · have hplaces := Text.place_lt_place hlt (sign_lt_length hsign)
        rw [if_pos hlt, Text.slice?_eq_none_of_lt hplaces]
        rfl
      · have hle : scheme + schemeMark.length ≤ sign := Nat.le_of_not_lt hlt
        rw [if_neg hlt, Text.slice?_place address hle]
        simp only [Option.bind_eq_bind, Option.bind_some, String.toList_ofList]
        cases hcolon : ((address.toList.take sign).drop
            (scheme + schemeMark.length)).findIdx? (· = ':') with
        | none => rfl
        | some user =>
          have huser := Text.slice?_front (String.ofList ((address.toList.take sign).drop
            (scheme + schemeMark.length))) user
          rw [String.toList_ofList] at huser
          simp only [Option.map_some, Option.bind_some, Text.slice?_front, huser,
            Text.slice?_back (sign_lt_length hsign).le, String.ofList_append, String.ofList_toList]
          rfl

/-! ### What cannot be shown -/

/-- There is nothing to show where the last at sign stands before the end of the first mark. -/
theorem masked?_eq_none_iff (address : String) :
    masked? address = none ↔ ∃ scheme sign, Text.find? schemeMark address.toList = some scheme ∧
      Text.findLast? '@' address.toList = some sign ∧ sign < scheme + schemeMark.length := by
  cases hscheme : Text.find? schemeMark address.toList with
  | none => simp [masked?, hscheme]
  | some scheme =>
    cases hsign : Text.findLast? '@' address.toList with
    | none => simp [masked?, hscheme, hsign]
    | some sign =>
      by_cases hlt : sign < scheme + schemeMark.length
      · simp [masked?, hscheme, hsign, hlt]
      · have hshown : masked? address ≠ none := by
          simp only [masked?, hscheme, hsign, if_neg hlt]
          split <;> exact Option.some_ne_none _
        simpa [hshown] using hlt

/-- **An address is shown unless its last at sign stands in front of its first mark.** What is shown
is what cutting the address at places gives, where every cut is one that can be made. -/
theorem shown_unless_sign_first (address : String) :
    masked? address = sliced? address ∧
      (masked? address = none ↔ ∃ scheme rest, address = scheme ++ "://" ++ rest ∧
        ¬schemeMark <:+: scheme.toList ∧ '@' ∈ scheme.toList ∧ '@' ∉ rest.toList) := by
  refine ⟨masked?_eq_sliced? address, (masked?_eq_none_iff address).trans ⟨?_, ?_⟩⟩
  · rintro ⟨scheme, sign, hscheme, hsign, hlt⟩
    obtain ⟨before, rest, hparts, rfl, hfirst⟩ := Text.find?_eq_some hscheme
    obtain ⟨front, back, hsigned, rfl, hback⟩ := Text.findLast?_eq_some hsign
    rw [hparts, ← List.append_assoc] at hsigned
    rw [← List.length_append] at hlt
    obtain ⟨part, hpart, rfl⟩ := Text.exists_cons_of_length_lt hsigned.symm hlt
    have hin : '@' ∈ before ++ schemeMark := by
      rw [hpart]
      exact List.mem_append_right _ List.mem_cons_self
    have hmark : '@' ∉ schemeMark := by decide
    refine ⟨String.ofList before, String.ofList rest, ?_, ?_, ?_, ?_⟩
    · rw [← String.toList_inj, hparts]
      simp [schemeMark]
    · rw [String.toList_ofList]
      exact hfirst (by decide)
    · rw [String.toList_ofList]
      exact (List.mem_append.mp hin).resolve_right hmark
    · rw [String.toList_ofList]
      exact fun hmem => hback (List.mem_append_right _ hmem)
  · rintro ⟨scheme, rest, rfl, hfirst, hsign, hrest⟩
    obtain ⟨front, back, hscheme, hback⟩ := Text.exists_last_of_mem hsign
    have hparts : (scheme ++ "://" ++ rest).toList =
        scheme.toList ++ (schemeMark ++ rest.toList) := by
      simp [schemeMark]
    have hbehind : '@' ∉ back ++ (schemeMark ++ rest.toList) := by
      simp [hback, hrest, schemeMark]
    refine ⟨scheme.toList.length, front.length, ?_, ?_, ?_⟩
    · rw [hparts]
      exact Text.find?_append _ fun a b hab hne => past?_schemeMark ⟨a, hab.symm⟩ hne hfirst _
    · rw [hparts, hscheme, List.append_assoc, List.cons_append]
      exact Text.findLast?_append_cons hbehind front
    · rw [hscheme, List.length_append, List.length_cons]
      omega

/-- An at sign in front of the mark: the credentials would end before they begin. -/
theorem sign_first_is_not_shown :
    masked? "x@://" = none ∧ Text.slice? "x@://" 5 1 = none := by
  constructor <;> decide

end Address

end Catalogue
