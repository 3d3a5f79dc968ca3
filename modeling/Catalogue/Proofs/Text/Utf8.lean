import Catalogue.Text.Symbol
import Mathlib.Data.List.Basic
import Mathlib.Tactic.SplitIfs

/-!
# The bytes of a text

The bytes of a text are read back as the characters of the text, and there is nothing stray among
them (`Catalogue.Symbol.ofBytes_bytes`). It is read one character at a time: what a lead byte
announces is what the encoding writes behind it (`Catalogue.Symbol.foldl_step_encoded`).

That the bytes which may follow some lead bytes are narrowed down excludes what no encoding writes:
characters in more bytes than they need, surrogates, and code points beyond the last.
-/

namespace Catalogue

namespace Text

/-- The bytes of an array from a place on, behind others in reverse. -/
theorem toList_loop_eq (bytes : ByteArray) (i : Nat) (out : List UInt8) :
    ByteArray.toList.loop bytes i out = out.reverse ++ bytes.data.toList.drop i := by
  fun_induction ByteArray.toList.loop bytes i out with
  | case1 i out h ih =>
    have hi : i < bytes.data.toList.length := h
    have hget : bytes.get! i = bytes.data.toList[i] := getElem!_pos bytes.data i h
    rw [ih, List.drop_eq_getElem_cons hi, List.reverse_cons, List.append_assoc, hget]
    rfl
  | case2 i out h =>
    rw [List.drop_eq_nil_of_le (Nat.le_of_not_lt h), List.append_nil]

/-- **The bytes of a text** are those of its characters. -/
theorem bytes_eq (s : String) : bytes s = s.toList.flatMap String.utf8EncodeChar := by
  have hbytes : s.toUTF8 = (s.toList.flatMap String.utf8EncodeChar).toByteArray :=
    String.utf8Encode_toList.symm
  rw [bytes, hbytes, ByteArray.toList, toList_loop_eq]
  exact List.toList_data_toByteArray

end Text

namespace Symbol

/-! ### One character -/

/-- The number of a byte. -/
theorem toNat_byte {n : Nat} (h : n < 256) : (UInt8.ofNat n).toNat = n :=
  UInt8.toNat_ofNat_of_lt' h

section Steps

variable {n bits taken owed low high : Nat} {out : List Symbol}

/-- A byte below 128 is a character. -/
theorem step_ascii (h : n < 0x80) (out : List Symbol) :
    step (.between, out) (UInt8.ofNat n) = (.between, .char (Char.ofNat n) :: out) := by
  rw [step, start, lead?, toNat_byte (by omega), if_pos h]
  rfl

/-- A lead byte begins a character. -/
theorem step_lead (h : lead? (UInt8.ofNat n) = some ⟨bits, owed, low, high⟩) (howed : owed ≠ 0)
    (out : List Symbol) :
    step (.between, out) (UInt8.ofNat n) = (.inside bits 1 owed low high, out) := by
  rw [step, start, h]
  exact if_neg howed

/-- A byte that may follow adds its six bits; the last one ends the character. -/
theorem step_inside (hlow : low ≤ n + 128) (hhigh : n + 128 ≤ high) (hn : n < 64) :
    step (.inside bits taken owed low high, out) (UInt8.ofNat (n + 128)) =
      if owed ≤ 1 then (.between, .char (Char.ofNat (bits * 64 + n)) :: out)
      else (.inside (bits * 64 + n) (taken + 1) (owed - 1) 0x80 0xBF, out) := by
  have hbyte : (UInt8.ofNat (n + 128)).toNat = n + 128 := toNat_byte (by omega)
  have hbits : n + 128 - 0x80 = n := by omega
  simp only [step, hbyte, hbits]
  exact if_pos ⟨hlow, hhigh⟩

end Steps

/-- What the lead byte of two announces. -/
theorem lead?_two {n : Nat} (hlow : 0x7F < n) (hhigh : n ≤ 0x7FF) :
    lead? (UInt8.ofNat (n / 64 % 32 + 192)) = some ⟨n / 64, 1, 0x80, 0xBF⟩ := by
  have hbyte : (UInt8.ofNat (n / 64 % 32 + 192)).toNat = n / 64 + 192 := by
    rw [toNat_byte (by omega)]
    omega
  rw [lead?, hbyte, if_neg (by omega), if_neg (by omega), if_pos (by omega), Nat.add_sub_cancel]

/-- What the lead byte of three announces. -/
theorem lead?_three {n : Nat} (hlow : 0x7FF < n) (hhigh : n ≤ 0xFFFF)
    (hvalid : n < 0xD800 ∨ 0xDFFF < n) :
    ∃ low high, lead? (UInt8.ofNat (n / 4096 % 16 + 224)) = some ⟨n / 4096, 2, low, high⟩ ∧
      low ≤ n / 64 % 64 + 128 ∧ n / 64 % 64 + 128 ≤ high := by
  have hbyte : (UInt8.ofNat (n / 4096 % 16 + 224)).toNat = n / 4096 + 224 := by
    rw [toNat_byte (by omega)]
    omega
  have hbits : ∀ bits low high, bits = n / 4096 →
      some (Lead.mk bits 2 low high) = some ⟨n / 4096, 2, low, high⟩ := by
    rintro _ low high rfl
    rfl
  rw [lead?, hbyte, if_neg (by omega), if_neg (by omega), if_neg (by omega)]
  -- the least of them may not be written in two bytes, and no surrogate may be written at all
  split_ifs with hfirst hsurrogate
  · exact ⟨_, _, hbits _ _ _ (by omega), by omega, by omega⟩
  · exact ⟨_, _, hbits _ _ _ (by omega), by omega, by omega⟩
  · exact ⟨_, _, hbits _ _ _ (by omega), by omega, by omega⟩
  all_goals omega

/-- What the lead byte of four announces. -/
theorem lead?_four {n : Nat} (hlow : 0xFFFF < n) (hhigh : n < 0x110000) :
    ∃ low high, lead? (UInt8.ofNat (n / 262144 % 8 + 240)) = some ⟨n / 262144, 3, low, high⟩ ∧
      low ≤ n / 4096 % 64 + 128 ∧ n / 4096 % 64 + 128 ≤ high := by
  have hbyte : (UInt8.ofNat (n / 262144 % 8 + 240)).toNat = n / 262144 + 240 := by
    rw [toNat_byte (by omega)]
    omega
  have hbits : ∀ bits low high, bits = n / 262144 →
      some (Lead.mk bits 3 low high) = some ⟨n / 262144, 3, low, high⟩ := by
    rintro _ low high rfl
    rfl
  rw [lead?, hbyte, if_neg (by omega), if_neg (by omega), if_neg (by omega), if_neg (by omega),
    if_neg (by omega), if_neg (by omega)]
  -- the least of them may not be written in three bytes, and the greatest are no characters
  split_ifs with hfirst hmiddle hlast
  · exact ⟨_, _, hbits _ _ _ (by omega), by omega, by omega⟩
  · exact ⟨_, _, hbits _ _ _ (by omega), by omega, by omega⟩
  · exact ⟨_, _, hbits _ _ _ (by omega), by omega, by omega⟩
  all_goals omega

/-- **A character is read back from its bytes.** -/
theorem foldl_step_encoded (c : Char) (out : List Symbol) :
    (String.utf8EncodeChar c).foldl step (.between, out) = (.between, .char c :: out) := by
  have hread : ∀ n, n = c.toNat → Char.ofNat n = c := by
    rintro _ rfl
    exact Char.ofNat_toNat c
  have hvalid : c.toNat < 0xD800 ∨ (0xDFFF < c.toNat ∧ c.toNat < 0x110000) := c.valid
  have hval : c.val.toNat = c.toNat := rfl
  rw [String.utf8EncodeChar]
  simp only [hval]
  generalize c.toNat = n at hread hvalid
  -- one, two, three and four bytes
  split_ifs with hone htwo hthree
  · rw [List.foldl_cons, List.foldl_nil, step_ascii (by omega), hread n rfl]
  · rw [List.foldl_cons, List.foldl_cons, List.foldl_nil,
      step_lead (lead?_two (by omega) htwo) (by decide),
      step_inside (by omega) (by omega) (by omega), if_pos (by decide), hread _ (by omega)]
  · obtain ⟨low, high, hlead, hlow, hhigh⟩ := lead?_three (by omega) hthree (by omega)
    rw [List.foldl_cons, List.foldl_cons, List.foldl_cons, List.foldl_nil,
      step_lead hlead (by decide), step_inside hlow hhigh (by omega), if_neg (by decide),
      step_inside (by omega) (by omega) (by omega), if_pos (by decide), hread _ (by omega)]
  · obtain ⟨low, high, hlead, hlow, hhigh⟩ := lead?_four (n := n) (by omega) (by omega)
    rw [List.foldl_cons, List.foldl_cons, List.foldl_cons, List.foldl_cons, List.foldl_nil,
      step_lead hlead (by decide), step_inside hlow hhigh (by omega), if_neg (by decide),
      step_inside (by omega) (by omega) (by omega), if_neg (by decide),
      step_inside (by omega) (by omega) (by omega), if_pos (by decide), hread _ (by omega)]

/-! ### Whole texts -/

/-- The bytes of characters are read back as the characters. -/
theorem foldl_step_flatMap (cs : List Char) (out : List Symbol) :
    (cs.flatMap String.utf8EncodeChar).foldl step (.between, out) =
      (.between, (cs.map char).reverse ++ out) := by
  induction cs generalizing out with
  | nil => rfl
  | cons c cs ih =>
    rw [List.flatMap_cons, List.foldl_append, foldl_step_encoded, ih, List.map_cons,
      List.reverse_cons, List.append_assoc, List.singleton_append]

/-- **The bytes of a text are read back as its characters.** -/
theorem ofBytes_bytes (s : String) : ofBytes (Text.bytes s) = ofText s := by
  rw [ofBytes, Text.bytes_eq, foldl_step_flatMap, List.append_nil]
  exact List.reverse_reverse _

end Symbol

end Catalogue
