import Catalogue.Decimal.Numeral
import Mathlib.Data.Nat.Digits.Defs
import Mathlib.Tactic.Ring

/-!
# What a numeral writes

A text writes a number if it consists of the decimal digits of that number, the greatest place
first, perhaps behind a plus sign (`Catalogue.Numeral.Writes`); zeros may stand in front. Such a
text is read as that number, and no other text is read as one
(`Catalogue.Numeral.nat?_eq_some_iff`).
-/

namespace Catalogue

namespace Numeral

/-- A text **writes a number** in decimal digits, of which there is at least one. -/
def Writes (s : String) (n : Nat) : Prop :=
  ∃ ds : List Nat, ds ≠ [] ∧ (∀ d ∈ ds, d < 10) ∧ Nat.ofDigits 10 ds.reverse = n ∧
    (s.toList = ds.map Nat.digitChar ∨ s.toList = '+' :: ds.map Nat.digitChar)

/-! ### Digits -/

theorem isDigit_digitChar : ∀ d < 10, isDigit (Nat.digitChar d) = true := by decide

/-- A digit is the character of a number below ten, and of no other. -/
theorem digitChar_of_isDigit {c : Char} (h : isDigit c = true) :
    c.toNat - 48 < 10 ∧ (c.toNat - 48).digitChar = c := by
  simp only [isDigit, Bool.and_eq_true, decide_eq_true_eq, Char.le_def, UInt32.le_iff_toNat_le] at h
  have hlow : 48 ≤ c.toNat := h.1
  have hhigh : c.toNat ≤ 57 := h.2
  have hlt : c.toNat - 48 < 10 := by omega
  refine ⟨hlt, Char.toNat_inj.mp ?_⟩
  rw [Nat.toNat_digitChar_of_lt_ten hlt]
  omega

/-- Characters that are digits are those of numbers below ten. -/
theorem exists_digits {cs : List Char} (h : ∀ c ∈ cs, isDigit c = true) :
    ∃ ds : List Nat, (∀ d ∈ ds, d < 10) ∧ cs = ds.map Nat.digitChar := by
  induction cs with
  | nil => exact ⟨[], by simp, rfl⟩
  | cons c cs ih =>
    obtain ⟨hlt, hchar⟩ := digitChar_of_isDigit (h c List.mem_cons_self)
    obtain ⟨ds, hds, rfl⟩ := ih fun d hd => h d (List.mem_cons_of_mem c hd)
    exact ⟨(c.toNat - 48) :: ds, List.forall_mem_cons.mpr ⟨hlt, hds⟩, by rw [List.map_cons, hchar]⟩

/-- **Digits write the number of which they are the digits**, behind those in front of them. -/
theorem value_map_digitChar {ds : List Nat} (hds : ∀ d ∈ ds, d < 10) (n : Nat) :
    value n (ds.map Nat.digitChar) = n * 10 ^ ds.length + Nat.ofDigits 10 ds.reverse := by
  induction ds generalizing n with
  | nil => simp [value]
  | cons d ds ih =>
    have hd : d < 10 := hds d List.mem_cons_self
    have hrest := ih (fun e he => hds e (List.mem_cons_of_mem d he)) (n * 10 + d)
    have hchar : d.digitChar.toNat - 48 = d := by
      rw [Nat.toNat_digitChar_of_lt_ten hd, Nat.add_sub_cancel_left]
    rw [value] at hrest
    rw [value, List.map_cons, List.foldl_cons, hchar, hrest, List.reverse_cons, Nat.ofDigits_append,
      Nat.ofDigits_singleton, List.length_reverse, List.length_cons]
    ring

/-- Digits, and nothing but digits, are read as the number they write. -/
theorem digits?_eq_some_iff {cs : List Char} {n : Nat} :
    digits? cs = some n ↔ ∃ ds : List Nat, ds ≠ [] ∧ (∀ d ∈ ds, d < 10) ∧
      Nat.ofDigits 10 ds.reverse = n ∧ cs = ds.map Nat.digitChar := by
  constructor
  · intro h
    rw [digits?] at h
    split at h
    · next hcs =>
      obtain ⟨hne, hall⟩ := hcs
      obtain ⟨ds, hlt, rfl⟩ := exists_digits (List.all_eq_true.mp hall)
      rw [value_map_digitChar hlt, Nat.zero_mul, Nat.zero_add] at h
      exact ⟨ds, fun hnil => hne (by rw [hnil, List.map_nil]), hlt, Option.some.inj h, rfl⟩
    · cases h
  · rintro ⟨ds, hne, hlt, rfl, rfl⟩
    have hall : (ds.map Nat.digitChar).all isDigit = true := by
      rw [List.all_map, List.all_eq_true]
      exact fun d hd => isDigit_digitChar d (hlt d hd)
    rw [digits?, if_pos ⟨by simpa using hne, hall⟩, value_map_digitChar hlt, Nat.zero_mul,
      Nat.zero_add]

/-- A sign is no digit. -/
theorem digits?_plus (cs : List Char) : digits? ('+' :: cs) = none :=
  if_neg fun h => absurd (List.all_eq_true.mp h.2 '+' List.mem_cons_self) (by decide)

/-- **What is read as a number is what writes it.** -/
theorem nat?_eq_some_iff {s : String} {n : Nat} : nat? s = some n ↔ Writes s n := by
  have hcases : nat? s = some n ↔ digits? s.toList = some n ∨
      ∃ cs, s.toList = '+' :: cs ∧ digits? cs = some n := by
    rw [nat?]
    split
    · next cs hs => simp [hs, digits?_plus]
    · next hs =>
      simp only [iff_self_or]
      rintro ⟨cs, hcs, -⟩
      exact absurd hcs (hs cs)
  rw [hcases, Writes]
  simp only [digits?_eq_some_iff]
  constructor
  · rintro (⟨ds, hne, hlt, hn, hs⟩ | ⟨cs, hs, ds, hne, hlt, hn, rfl⟩)
    · exact ⟨ds, hne, hlt, hn, Or.inl hs⟩
    · exact ⟨ds, hne, hlt, hn, Or.inr hs⟩
  · rintro ⟨ds, hne, hlt, hn, hs | hs⟩
    · exact Or.inl ⟨ds, hne, hlt, hn, hs⟩
    · exact Or.inr ⟨_, hs, ds, hne, hlt, hn, rfl⟩

end Numeral

end Catalogue
