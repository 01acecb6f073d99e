import Mathlib
import StripChart.Proofs.Extremes

/-!
# What numbers of 64 bits stand for

A number of 64 bits that is finite stands for one rational number, its exact value
(`Scalar.value?`). The operations on such numbers work on their parts: a sign, a mantissa and an
exponent. This file says that the parts stand for the same value as the bits
(`Binary.ofFloat?_eq`), how large they can be (`Binary.InFormat`), and that numbers of 64 bits
are in the order of their values (`Scalar.lt_iff_of_value?`).

The last is not clear from how they are compared, which is by exponents first and by mantissas
only if the exponents are equal. It holds since a mantissa has its leading bit unless the
exponent is the least there is: then a greater exponent is a greater number
(`Scalar.size_lt_of_exponent_lt`).
-/

namespace StripChart

open Float.Model (UnpackedFloat)
open Float.Model.UnpackedFloat (Sign unpackExponent unpackMantissa unpackSign)

/-! ### The parts of a number -/

namespace Binary

/-- What a binary number stands for, as a rational number. -/
def toRat (value : Binary) : ℚ :=
  (if value.negative then -1 else 1) * value.mantissa * 2 ^ value.exponent

/-- The exact value of a number that is taken into its parts. -/
def ofUnpacked? : UnpackedFloat → Option Binary
  | .zero sign => some ⟨sign == .negative, 0, -1074⟩
  | .finite sign mantissa exponent _ => some ⟨sign == .negative, mantissa, exponent⟩
  | .infinity _ => none
  | .notANumber => none

theorem toNat_unpackMantissa (bits : BitVec 64) :
    (@unpackMantissa .binary64 bits).toNat = bits.toNat % 2 ^ 52 := by
  rw [Float.Model.UnpackedFloat.unpackMantissa_def]
  exact (BitVec.extractLsb'_toNat 0 52 bits).trans (by rw [Nat.shiftRight_zero])

theorem toNat_unpackExponent (bits : BitVec 64) :
    (@unpackExponent .binary64 bits).toNat = bits.toNat / 2 ^ 52 % 2 ^ 11 := by
  rw [Float.Model.UnpackedFloat.unpackExponent_def]
  exact (BitVec.extractLsb'_toNat 52 11 bits).trans (by rw [Nat.shiftRight_eq_div_pow])

theorem ofBitVec_unpackSign (bits : BitVec 64) :
    (Sign.ofBitVec (@unpackSign .binary64 bits) == .negative) = bits.toNat.testBit 63 := by
  have hbit : BitVec.extractLsb' 63 1 bits = BitVec.ofBool (bits.toNat.testBit 63) := by
    ext i hi
    obtain rfl : i = 0 := by omega
    simp [BitVec.getLsbD]
  rw [Float.Model.UnpackedFloat.unpackSign_def]
  show (Sign.ofBitVec (BitVec.extractLsb' 63 1 bits) == .negative) = _
  rw [hbit]
  cases bits.toNat.testBit 63 <;> decide

/-- The leading bit of a mantissa is not stored. -/
theorem toNat_append_one (fraction : BitVec 52) :
    (1#1 ++ fraction).toNat = 2 ^ 52 + fraction.toNat := by
  rw [BitVec.toNat_append, ← Nat.shiftLeft_add_eq_or_of_lt fraction.isLt]
  rfl

/-- **The bits and the parts stand for the same.** -/
theorem ofFloat?_eq (x : Float) : ofFloat? x = ofUnpacked? x.toModel.unpack := by
  show binary64.value? x.toModel.toBits.toBitVec.toNat
    = ofUnpacked? (UnpackedFloat.unpack .binary64 x.toModel.toBits.toBitVec)
  generalize x.toModel.toBits.toBitVec = bits
  have hfraction := toNat_unpackMantissa bits
  have hstored := toNat_unpackExponent bits
  have hsign := ofBitVec_unpackSign bits
  have hinf : @unpackExponent .binary64 bits = -1#_
      ↔ bits.toNat / 2 ^ 52 % 2 ^ 11 = 2 ^ 11 - 1 := by
    rw [← hstored, ← BitVec.toNat_inj]
    rfl
  have hzero : @unpackExponent .binary64 bits = 0#_ ↔ bits.toNat / 2 ^ 52 % 2 ^ 11 = 0 := by
    rw [← hstored, ← BitVec.toNat_inj]
    rfl
  have hleast : binary64.leastExponent = -1074 := by decide
  have hbias : (Float.Model.Format.binary64.exponentBias : ℤ) = 1023 := by decide
  show (if bits.toNat / 2 ^ 52 % 2 ^ 11 = 2 ^ 11 - 1 then none
      else if bits.toNat / 2 ^ 52 % 2 ^ 11 = 0 then
        some (Binary.mk (bits.toNat.testBit 63) (bits.toNat % 2 ^ 52) binary64.leastExponent)
      else some ⟨bits.toNat.testBit 63, 2 ^ 52 + bits.toNat % 2 ^ 52,
        binary64.leastExponent + (bits.toNat / 2 ^ 52 % 2 ^ 11 : ℕ) - 1⟩) = _
  rw [hleast, UnpackedFloat.unpack]
  by_cases hspecial : @unpackExponent .binary64 bits = -1#_
  · rw [if_pos (hinf.1 hspecial), if_pos hspecial]
    split <;> rfl
  rw [if_neg (hspecial ∘ hinf.2), if_neg hspecial]
  by_cases hsmall : @unpackExponent .binary64 bits = 0#_
  · -- without a leading bit
    rw [if_pos (hzero.1 hsmall), if_pos hsmall, ← hsign, ← hfraction]
    split
    · rename_i hnothing
      rw [hnothing]
      rfl
    · simp only [ofUnpacked?, hbias, hzero.1 hsmall, hstored]
      rfl
  · rw [if_neg (hsmall ∘ hzero.2), if_neg hsmall, ← hsign, ← hfraction]
    simp only [ofUnpacked?, hbias, hstored, toNat_append_one]
    congr 2
    push_cast
    ring

/-- **Parts that fit into 64 bits**: a mantissa of 53 bits at most, with its leading bit unless
the exponent is the least. -/
structure InFormat (mantissa : ℕ) (exponent : ℤ) : Prop where
  /-- The mantissa has 53 bits at most. -/
  mantissa_lt : mantissa < 2 ^ 53
  /-- There is a least exponent. -/
  le_exponent : -1074 ≤ exponent
  /-- The mantissa has all its bits, or the exponent is the least. -/
  full : 2 ^ 52 ≤ mantissa ∨ exponent = -1074

theorem inFormat_of_ofFloat? {x : Float} {value : Binary} (h : ofFloat? x = some value) :
    InFormat value.mantissa value.exponent ∧ value.exponent ≤ 971 := by
  have hleast : binary64.leastExponent = -1074 := by decide
  have hfraction := Nat.mod_lt x.toBits.toNat (show 0 < 2 ^ 52 by norm_num)
  have hstored := Nat.mod_lt (x.toBits.toNat / 2 ^ 52) (show 0 < 2 ^ 11 by norm_num)
  have hvalue : (if x.toBits.toNat / 2 ^ 52 % 2 ^ 11 = 2 ^ 11 - 1 then none
      else if x.toBits.toNat / 2 ^ 52 % 2 ^ 11 = 0 then
        some (Binary.mk (x.toBits.toNat.testBit 63) (x.toBits.toNat % 2 ^ 52) (-1074))
      else some ⟨x.toBits.toNat.testBit 63, 2 ^ 52 + x.toBits.toNat % 2 ^ 52,
        -1074 + (x.toBits.toNat / 2 ^ 52 % 2 ^ 11 : ℕ) - 1⟩) = some value := by
    rw [← hleast]
    exact h
  generalize x.toBits.toNat % 2 ^ 52 = fraction at hfraction hvalue
  generalize x.toBits.toNat / 2 ^ 52 % 2 ^ 11 = stored at hstored hvalue
  norm_num at hfraction hstored
  split at hvalue
  · cases hvalue
  · rename_i hproper
    split at hvalue <;> obtain rfl := Option.some.inj hvalue
    · exact ⟨⟨by norm_num; omega, le_rfl, Or.inr rfl⟩, by norm_num⟩
    · rename_i hnormal
      refine ⟨⟨?_, ?_, Or.inl ?_⟩, ?_⟩ <;> norm_num at * <;> omega

end Binary

namespace Scalar

/-! ### Exact values -/

/-- **The exact value** of a number of 64 bits. There is none for what is infinite or no
number. -/
def value? (x : Float) : Option ℚ :=
  (Binary.ofFloat? x).map Binary.toRat

/-- The exact value of a number that is taken into its parts. -/
def unpackedValue? : UnpackedFloat → Option ℚ
  | .zero _ => some 0
  | .finite .positive mantissa exponent _ => some (mantissa * 2 ^ exponent)
  | .finite .negative mantissa exponent _ => some (-(mantissa * 2 ^ exponent))
  | .infinity _ => none
  | .notANumber => none

theorem value?_eq (x : Float) : value? x = unpackedValue? x.toModel.unpack := by
  rw [value?, Binary.ofFloat?_eq]
  rcases x.toModel.unpack with (_ | _) | _ | (_ | _) | ⟨_ | _, mantissa, exponent, _⟩ <;>
    simp [Binary.ofUnpacked?, unpackedValue?, Binary.toRat]

/-- There is an exact value of what is finite. -/
theorem isSome_value? (x : Float) : (value? x).isSome = x.isFinite := by
  rw [value?_eq]
  show _ = x.toModel.unpack.isFinite
  rcases x.toModel.unpack with _ | _ | _ | ⟨_ | _, mantissa, exponent, _⟩ <;> rfl

/-- The parts of a finite number fit into 64 bits. -/
theorem inFormat_unpack {x : Float} {sign : Sign} {mantissa : ℕ} {exponent : ℤ}
    {hpos : 0 < mantissa} (h : x.toModel.unpack = .finite sign mantissa exponent hpos) :
    Binary.InFormat mantissa exponent ∧ exponent ≤ 971 := by
  have hvalue : Binary.ofFloat? x = some ⟨sign == .negative, mantissa, exponent⟩ := by
    rw [Binary.ofFloat?_eq, h]
    rfl
  exact Binary.inFormat_of_ofFloat? hvalue

/-! ### The order of exact values -/

section Sizes

variable {mantissa mantissa' : ℕ} {exponent exponent' : ℤ}

/-- With all its bits in the mantissa, what has the greater exponent is not less. -/
theorem size_le_of_exponent_lt (hmantissa : mantissa ≤ 2 ^ 53) (hfull : 2 ^ 52 ≤ mantissa')
    (h : exponent < exponent') :
    (mantissa : ℚ) * 2 ^ exponent ≤ mantissa' * 2 ^ exponent' := by
  have hmantissa' : (mantissa : ℚ) ≤ 2 ^ 53 := mod_cast hmantissa
  have hfull' : (2 : ℚ) ^ 52 ≤ mantissa' := mod_cast hfull
  calc (mantissa : ℚ) * 2 ^ exponent
      ≤ 2 ^ 53 * 2 ^ exponent :=
        mul_le_mul_of_nonneg_right hmantissa' (zpow_pos two_pos exponent).le
    _ = 2 ^ 52 * 2 ^ (exponent + 1) := by rw [zpow_add_one₀ two_ne_zero]; ring
    _ ≤ 2 ^ 52 * 2 ^ exponent' :=
        mul_le_mul_of_nonneg_left (zpow_le_zpow_right₀ one_le_two h) (by positivity)
    _ ≤ mantissa' * 2 ^ exponent' :=
        mul_le_mul_of_nonneg_right hfull' (zpow_pos two_pos exponent').le

/-- It is greater than what has no more bits. -/
theorem size_lt_of_exponent_lt (hmantissa : mantissa < 2 ^ 53) (hfull : 2 ^ 52 ≤ mantissa')
    (h : exponent < exponent') :
    (mantissa : ℚ) * 2 ^ exponent < mantissa' * 2 ^ exponent' :=
  calc (mantissa : ℚ) * 2 ^ exponent
      < (mantissa + 1 : ℕ) * 2 ^ exponent :=
        mul_lt_mul_of_pos_right (mod_cast Nat.lt_succ_self _) (zpow_pos two_pos exponent)
    _ ≤ mantissa' * 2 ^ exponent' := size_le_of_exponent_lt hmantissa hfull h

theorem size_lt_size_iff (h : Binary.InFormat mantissa exponent)
    (h' : Binary.InFormat mantissa' exponent') :
    (mantissa : ℚ) * 2 ^ exponent < mantissa' * 2 ^ exponent'
      ↔ exponent < exponent' ∨ exponent = exponent' ∧ mantissa < mantissa' := by
  -- the greater exponent is not the least, so that its mantissa has all its bits
  rcases lt_trichotomy exponent exponent' with hlt | rfl | hgt
  · have hfull := h'.full.resolve_right (by have := h.le_exponent; omega)
    exact iff_of_true (size_lt_of_exponent_lt h.mantissa_lt hfull hlt) (Or.inl hlt)
  · rw [mul_lt_mul_iff_left₀ (zpow_pos two_pos exponent), Nat.cast_lt]
    simp
  · have hfull := h.full.resolve_right (by have := h'.le_exponent; omega)
    refine iff_of_false (size_lt_of_exponent_lt h'.mantissa_lt hfull hgt).not_gt ?_
    omega

end Sizes

/-- **Numbers of 64 bits are in the order of their values.** -/
theorem lt_iff_of_value? {x y : Float} {a b : ℚ} (hx : value? x = some a)
    (hy : value? y = some b) : x < y ↔ a < b := by
  rw [value?_eq] at hx hy
  have hformat {x : Float} {sign : Sign} {mantissa : ℕ} {exponent : ℤ} {hpos : 0 < mantissa} :=
    @inFormat_unpack x sign mantissa exponent hpos
  have hsize {mantissa : ℕ} (exponent : ℤ) (hpos : 0 < mantissa) :
      (0 : ℚ) < mantissa * 2 ^ exponent :=
    mul_pos (mod_cast hpos) (zpow_pos two_pos exponent)
  rw [lt_iff_rank]
  show x.toModel.unpack.isNaN = false ∧ y.toModel.unpack.isNaN = false ∧ _ ↔ _
  rcases hux : x.toModel.unpack with _ | _ | _ | ⟨_ | _, mantissa, exponent, hpos⟩ <;>
    rcases huy : y.toModel.unpack with _ | _ | _ | ⟨_ | _, mantissa', exponent', hpos'⟩ <;>
    rw [hux] at hx <;> rw [huy] at hy <;> cases hx <;> cases hy <;>
    simp only [UnpackedFloat.isNaN, rank, true_and, Prod.Lex.toLex_lt_toLex]
  · simp
  · exact iff_of_false (by omega) (neg_neg_of_pos (hsize exponent' hpos')).not_gt
  · exact iff_of_true (Or.inl zero_lt_one) (hsize exponent' hpos')
  · exact iff_of_true (Or.inl (by decide)) (neg_neg_of_pos (hsize exponent hpos))
  · -- of two negative numbers the one of the greater size is less
    refine Iff.trans ?_ (neg_lt_neg_iff.trans
      (size_lt_size_iff (hformat huy).1 (hformat hux).1)).symm
    omega
  · refine iff_of_true (Or.inl (by decide)) ?_
    exact (neg_neg_of_pos (hsize exponent hpos)).trans (hsize exponent' hpos')
  · exact iff_of_false (by omega) (hsize exponent hpos).not_gt
  · refine iff_of_false (by omega) ?_
    exact ((neg_neg_of_pos (hsize exponent' hpos')).trans (hsize exponent hpos)).not_gt
  · rw [size_lt_size_iff (hformat hux).1 (hformat huy).1]
    omega

end Scalar

end StripChart
