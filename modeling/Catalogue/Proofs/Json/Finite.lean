import Catalogue.Json.Basic
import Catalogue.Word
import Mathlib.Algebra.Group.Nat.Defs
import Mathlib.Tactic.SplitIfs

/-!
# Large whole numbers as floating-point numbers

A whole number that fits an unsigned word of 64 bits but no signed one is kept as the nearest
floating-point number. That number is finite (`Catalogue.Json.isFinite_ofInt`), and so it is written
as a number again. Only the size of its exponent matters: rounding shifts a mantissa until it fits,
at most one place further than it is wide (`Catalogue.Binary64.roundWithAccuracy_cases`), and a
number is packed as an infinity only if its exponent does not fit
(`Catalogue.Binary64.isFinite_pack`).
-/

namespace Catalogue

open Float.Model

namespace Binary64

open UnpackedFloat

/-- The format of the numbers. -/
abbrev format : Format := .binary64

/-! ### Rounding -/

theorem mantissa_shiftRight (m : ExtendedMantissa) (places : Nat) :
    (m >>> places).mantissa = m.mantissa / 2 ^ places := by
  induction places with
  | zero => exact (Nat.div_one _).symm
  | succ places ih =>
    show (m >>> places).mantissa / 2 = _
    rw [ih, Nat.div_div_eq_div_mul, Nat.pow_succ]

/-- Rounding adds at most one. -/
theorem roundedMantissa_le (m : ExtendedMantissa) : m.roundedMantissa ≤ m.mantissa + 1 := by
  obtain ⟨mantissa, round, sticky⟩ := m
  rw [ExtendedMantissa.roundedMantissa]
  cases round <;> cases sticky <;>
    simp only [ExtendedMantissa.accuracy, Accuracy.roundToNearestEven] <;> omega

/-- **One shift**: the mantissa becomes no greater, and the exponent grows by no more than the
mantissa is wide. -/
theorem shiftToTargetExponent_bounds {mantissa width : Nat} (hwidth : mantissa < 2 ^ width)
    (exponent : Int) (hexponent : -1074 ≤ exponent) :
    (shiftToTargetExponent format mantissa exponent .exact).1.mantissa ≤ mantissa ∧
      exponent ≤ (shiftToTargetExponent format mantissa exponent .exact).2 ∧
      (shiftToTargetExponent format mantissa exponent .exact).2 ≤ exponent + width := by
  have hlog : mantissa.log2 ≤ width := by
    rcases Nat.eq_zero_or_pos mantissa with rfl | hpos
    · exact Nat.zero_le _
    · exact Nat.le_of_lt ((Nat.log2_lt (Nat.ne_of_gt hpos)).mpr hwidth)
  have htarget : format.targetExponent (totalExponent mantissa exponent) =
      max ((mantissa.log2 : Int) + 1 + exponent - 53) (-1074) := rfl
  rw [shiftToTargetExponent, shiftToExponent, htarget]
  refine ⟨?_, ?_, ?_⟩
  · rw [mantissa_shiftRight]
    exact Nat.div_le_self _ _
  · dsimp only
    omega
  · dsimp only
    omega

/-- **Rounding** leaves zero, or a number whose exponent has grown by little more than twice the
width of its mantissa: there is one shift before the mantissa is rounded, and one behind it. -/
theorem roundWithAccuracy_cases {mantissa width : Nat} (hwidth : mantissa < 2 ^ width)
    (sign : Sign) (exponent : Int) (hexponent : -1074 ≤ exponent) :
    roundWithAccuracy format sign mantissa exponent .exact = .zero sign ∨
      ∃ m e hm, roundWithAccuracy format sign mantissa exponent .exact = .finite sign m e hm ∧
        e ≤ exponent + 2 * width + 1 := by
  obtain ⟨hmantissa, hlow, hhigh⟩ := shiftToTargetExponent_bounds hwidth exponent hexponent
  rw [roundWithAccuracy]
  generalize shiftToTargetExponent format mantissa exponent .exact = first at *
  obtain ⟨first, e₁⟩ := first
  have hrounded : first.roundedMantissa < 2 ^ (width + 1) := by
    have hround : first.roundedMantissa ≤ mantissa + 1 :=
      Nat.le_trans (roundedMantissa_le first) (Nat.succ_le_succ hmantissa)
    rw [Nat.pow_succ]
    omega
  have hsecond := (shiftToTargetExponent_bounds hrounded e₁ (by omega)).2.2
  dsimp only
  by_cases hzero : (shiftToTargetExponent format first.roundedMantissa e₁ .exact).1.mantissa = 0
  · rw [dif_pos hzero]
    exact .inl rfl
  · rw [dif_neg hzero]
    refine .inr ⟨_, _, Nat.pos_of_ne_zero hzero, rfl, ?_⟩
    omega

/-! ### Packing -/

/-- A number is finite unless all bits of its exponent are set. -/
theorem isFinite_unpack_iff (b : BitVec format.numBits) :
    (UnpackedFloat.unpack format b).isFinite = true ↔ unpackExponent b ≠ -1#_ := by
  unfold UnpackedFloat.unpack
  dsimp only
  by_cases h : unpackExponent b = -1#_
  · rw [if_pos h]
    split_ifs <;> exact iff_of_false Bool.false_ne_true fun hne => hne h
  · refine iff_of_true ?_ h
    rw [if_neg h]
    by_cases hexponent : unpackExponent b = 0#_
    · rw [if_pos hexponent]
      by_cases hmantissa : unpackMantissa b = 0#_
      · rw [dif_pos hmantissa]
        rfl
      · rw [dif_neg hmantissa]
        rfl
    · rw [if_neg hexponent]
      rfl

theorem isFinite_pack_zero (sign : Sign) : (Float.Model.pack (.zero sign)).isFinite = true := by
  refine (isFinite_unpack_iff _).mpr ?_
  show unpackExponent (packComponents format sign 0 0) ≠ -1#_
  rw [unpackExponent_packComponents]
  decide

/-- **A number whose exponent fits is packed as a finite one.** -/
theorem isFinite_pack (sign : Sign) {mantissa : Nat} {exponent : Int} (hpos : 0 < mantissa)
    (hexponent : exponent ≤ 971) :
    (Float.Model.pack (.finite sign mantissa exponent hpos)).isFinite = true := by
  have hbiased : ¬2 ^ 11 ≤ (exponent + format.exponentBias + (52 : Nat)).toNat + 1 := by
    have hbias : format.exponentBias = 1023 := rfl
    omega
  refine (isFinite_unpack_iff _).mpr ?_
  show unpackExponent (UnpackedFloat.pack format (.finite sign mantissa exponent hpos)) ≠ -1#_
  unfold UnpackedFloat.pack
  dsimp only
  rw [if_neg hbiased]
  split_ifs with hnormal
  · rw [unpackExponent_packComponents]
    intro h
    have hbits := congrArg BitVec.toNat h
    rw [BitVec.toNat_ofNat, Nat.mod_eq_of_lt (by omega)] at hbits
    have : (-1#11).toNat = 2047 := rfl
    omega
  · rw [unpackExponent_packComponents]
    decide

end Binary64

namespace Json

open Binary64

/-- **A whole number beyond the signed words**, but within the unsigned ones, is finite as a
floating-point number. -/
theorem isFinite_ofInt {n : Nat} (hlow : Word.half ≤ n) (hhigh : n < UInt64.size) :
    (Float.ofInt n).isFinite = true := by
  have hmodel : Float.ofInt n = .ofModel (Float.Model.ofScientific n 0) := by
    show Float.ofScientific n false 0 = _
    rw [Float.ofScientific, dif_neg (by rw [Word.half] at hlow; omega)]
    rfl
  have hsize : Word.half = 2 ^ 63 := rfl
  have hround : UnpackedFloat.ofScientific format n 0 =
      UnpackedFloat.roundWithAccuracy format .positive (n <<< 53 * 10 ^ 0) (-53 + 0) .exact := by
    have hlarge : ¬(0 : Int) < -(2 ^ 11 + n.log2) := by omega
    rw [UnpackedFloat.ofScientific, dif_neg (by omega), if_neg (by decide), if_neg hlarge,
      if_pos (by decide)]
    rfl
  have hwidth : n <<< 53 * 10 ^ 0 < 2 ^ 117 := by
    have : UInt64.size = 2 ^ 64 := rfl
    rw [Nat.pow_zero, Nat.mul_one, Nat.shiftLeft_eq]
    omega
  rw [hmodel]
  show (Float.Model.pack (UnpackedFloat.ofScientific format n 0)).isFinite = true
  rw [hround]
  rcases roundWithAccuracy_cases hwidth .positive (-53 + 0) (by decide) with h | ⟨m, e, hm, h, he⟩
  · rw [h]
    exact isFinite_pack_zero _
  · rw [h]
    exact isFinite_pack _ hm (by omega)

end Json

end Catalogue
