import Mathlib
import StripChart.Proofs.Rounding

/-!
# Differences, products and quotients

What the operations on numbers of 64 bits do with finite numbers can be said without their parts:
they find the exact result, round it, and store it, unless it has become greater than the
greatest finite number; then what they store is not finite (`Scalar.RoundsTo`). This file shows
so of differences, products and quotients, the three operations that drawing is made of. It also
shows that what is not finite stays so.

Each operation has its own way to make sure that rounding starts with bits enough. A difference
is brought to the smaller exponent and made longer if it has become too short; a product of two
mantissas is long enough unless both are of the least exponent; and a dividend is made longer
before it is divided. Storing is the same for all (`Scalar.unpack_pack_finite`).
-/

namespace StripChart

namespace Scalar

open Float.Model (UnpackedFloat totalExponent)
open Float.Model.UnpackedFloat (Sign Accuracy ExtendedMantissa decreaseExponent
  roundWithAccuracy)

/-! ### Storing a result -/

/-- The greatest finite number of 64 bits. -/
def greatestFinite : ℚ :=
  (2 ^ 53 - 1) * 2 ^ (971 : ℤ)

theorem size_le_greatestFinite_iff {mantissa : ℕ} {exponent : ℤ}
    (h : Binary.InFormat mantissa exponent) :
    (mantissa : ℚ) * 2 ^ exponent ≤ greatestFinite ↔ exponent ≤ 971 := by
  have hlast : greatestFinite = ((2 ^ 53 - 1 : ℕ) : ℚ) * 2 ^ (971 : ℤ) := by
    rw [greatestFinite]
    norm_num
  have hformat : Binary.InFormat (2 ^ 53 - 1) 971 := ⟨by norm_num, by norm_num, by norm_num⟩
  rw [hlast, ← not_lt, size_lt_size_iff hformat h]
  have := h.mantissa_lt
  omega

/-- What is stored is what is packed. -/
theorem unpack_pack (unpacked : UnpackedFloat) :
    (Float.Model.pack unpacked).unpack
      = UnpackedFloat.unpack .binary64 (UnpackedFloat.pack .binary64 unpacked) :=
  rfl

theorem unpack_pack_infinity (sign : Sign) :
    (Float.Model.pack (.infinity sign)).unpack = .infinity sign := by
  cases sign <;> rfl

theorem unpack_pack_zero (sign : Sign) :
    (Float.Model.pack (.zero sign)).unpack = .zero sign := by
  cases sign <;> rfl

theorem unpack_pack_notANumber : (Float.Model.pack .notANumber).unpack = .notANumber := by
  rfl

section Fields

open Float.Model.UnpackedFloat (packComponents unpackExponent_packComponents
  unpackMantissa_packComponents unpackSign_packComponents)

variable (sign : Sign) {mantissa : ℕ} {exponent : ℤ}

/-- A mantissa with all its bits is stored without the leading one. -/
theorem unpack_packComponents_full (hpos : 0 < mantissa) (hlt : mantissa < 2 ^ 53)
    (hfull : 2 ^ 52 ≤ mantissa) (hleast : -1074 ≤ exponent) (hgreatest : exponent ≤ 971) :
    UnpackedFloat.unpack .binary64 (packComponents .binary64 sign
        (BitVec.ofNat 11 (exponent + 1075).toNat) (BitVec.ofNat 52 mantissa))
      = .finite sign mantissa exponent hpos := by
  have hbias : (Float.Model.Format.binary64.exponentBias : ℤ) = 1023 := by decide
  have hmantissa : (1#1 ++ BitVec.ofNat 52 mantissa).toNat = mantissa := by
    rw [Binary.toNat_append_one, BitVec.toNat_ofNat]
    omega
  have hexponent : (BitVec.ofNat 11 (exponent + 1075).toNat).toNat = (exponent + 1075).toNat :=
    (BitVec.toNat_ofNat ..).trans (Nat.mod_eq_of_lt (by omega))
  -- the stored exponent is neither of the two that mean something else
  have hproper : BitVec.ofNat 11 (exponent + 1075).toNat ≠ -1#11 := fun heq => by
    rw [heq, show (-1#11).toNat = 2047 from rfl] at hexponent
    omega
  have hnormal : BitVec.ofNat 11 (exponent + 1075).toNat ≠ 0#11 := fun heq => by
    rw [heq, show (0#11).toNat = 0 from rfl] at hexponent
    omega
  rw [UnpackedFloat.unpack]
  simp only [unpackMantissa_packComponents, unpackExponent_packComponents,
    unpackSign_packComponents, Float.Model.UnpackedFloat.Sign.ofBitVec_toBitVec]
  rw [if_neg hproper, if_neg hnormal]
  simp only [hmantissa, hexponent, hbias]
  congr 1
  omega

/-- One with fewer bits is stored as it is, and has the least exponent. -/
theorem unpack_packComponents_least (hpos : 0 < mantissa) (hlt : mantissa < 2 ^ 52) :
    UnpackedFloat.unpack .binary64 (packComponents .binary64 sign 0#11 (BitVec.ofNat 52 mantissa))
      = .finite sign mantissa (-1074) hpos := by
  have hbias : (Float.Model.Format.binary64.exponentBias : ℤ) = 1023 := by decide
  have hmantissa : (BitVec.ofNat 52 mantissa).toNat = mantissa :=
    (BitVec.toNat_ofNat ..).trans (Nat.mod_eq_of_lt hlt)
  have hsomething : BitVec.ofNat 52 mantissa ≠ 0#52 := fun heq => by
    rw [heq] at hmantissa
    exact hpos.ne hmantissa
  rw [UnpackedFloat.unpack]
  simp only [unpackMantissa_packComponents, unpackExponent_packComponents,
    unpackSign_packComponents, Float.Model.UnpackedFloat.Sign.ofBitVec_toBitVec]
  rw [if_neg (by decide), if_pos trivial, dif_neg hsomething]
  simp only [hmantissa, hbias]
  rfl

/-- **What is in the format is stored as it is**, or as an infinite number if it is too great. -/
theorem unpack_pack_finite (h : Binary.InFormat mantissa exponent) (hpos : 0 < mantissa) :
    (Float.Model.pack (.finite sign mantissa exponent hpos)).unpack
      = if exponent ≤ 971 then .finite sign mantissa exponent hpos else .infinity sign := by
  obtain ⟨hlt, hleast, hfull⟩ := h
  have hbiased : (exponent + (Float.Model.Format.binary64.exponentBias : ℤ)
      + (52 : ℕ)).toNat = (exponent + 1075).toNat := by
    rw [show (Float.Model.Format.binary64.exponentBias : ℤ) = 1023 by decide]
    omega
  rw [unpack_pack, UnpackedFloat.pack]
  dsimp only
  rw [hbiased]
  split
  · rename_i hgreat
    rw [if_neg (show ¬exponent ≤ 971 by norm_num at hgreat; omega)]
    exact unpack_pack_infinity sign
  rename_i hfits
  have hgreatest : exponent ≤ 971 := by norm_num at hfits; omega
  rw [if_pos hgreatest]
  split <;> rename_i hlog
  · have hbits : mantissa.log2 = 52 := Nat.succ.inj (hlog.trans (show _ = 53 from rfl))
    exact unpack_packComponents_full sign hpos hlt (hbits ▸ Nat.log2_self_le hpos.ne') hleast
      hgreatest
  · have hsmall : mantissa < 2 ^ 52 := by
      by_contra hnot
      refine hlog (congrArg Nat.succ (?_ : mantissa.log2 = 52))
      exact (Nat.log2_eq_iff hpos.ne').2 ⟨not_lt.1 hnot, hlt⟩
    obtain rfl := hfull.resolve_left (not_le.2 hsmall)
    exact unpack_packComponents_least sign hpos hsmall

end Fields

/-! ### The operations -/

/-- A number with a sign. -/
def signed : Sign → ℚ → ℚ
  | .negative, x => -x
  | .positive, x => x

theorem abs_signed_of_nonneg (sign : Sign) {x : ℚ} (h : 0 ≤ x) : |signed sign x| = x := by
  cases sign with
  | negative => rw [signed, abs_neg, abs_of_nonneg h]
  | positive => rw [signed, abs_of_nonneg h]

theorem signed_zero (sign : Sign) : signed sign 0 = 0 := by
  cases sign with
  | negative => exact neg_zero
  | positive => rfl

theorem unpackedValue?_finite {sign : Sign} {mantissa : ℕ} {exponent : ℤ}
    {hpos : 0 < mantissa} :
    unpackedValue? (.finite sign mantissa exponent hpos)
      = some (signed sign (mantissa * 2 ^ exponent)) := by
  cases sign <;> rfl

/-- **An exact result is rounded** by its size, and keeps its sign. -/
def Rounds (exact rounded : ℚ) : Prop :=
  ∃ sign size roundedSize, 0 ≤ size ∧ RoundsSize size roundedSize ∧
    exact = signed sign size ∧ rounded = signed sign roundedSize

namespace Rounds

variable {exact rounded : ℚ}

theorem of_inFormat {mantissa : ℕ} {exponent : ℤ} (h : Binary.InFormat mantissa exponent)
    (sign : Sign) :
    Rounds (signed sign (mantissa * 2 ^ exponent)) (signed sign (mantissa * 2 ^ exponent)) :=
  ⟨sign, _, _, by positivity, .of_inFormat h, rfl, rfl⟩

theorem zero : Rounds 0 0 := by
  have hformat : Binary.InFormat 0 (-1074) := ⟨by norm_num, le_rfl, Or.inr rfl⟩
  have := of_inFormat hformat .positive
  rwa [Nat.cast_zero, zero_mul, signed_zero] at this

theorem faithful (h : Rounds exact rounded) : Faithful exact rounded := by
  obtain ⟨sign, size, roundedSize, hsize, hrounds, rfl, rfl⟩ := h
  cases sign with
  | negative => exact (hrounds.faithful hsize).neg
  | positive => exact hrounds.faithful hsize

/-- A result that is not negative is its own size. -/
theorem roundsSize (h : Rounds exact rounded) (hexact : 0 ≤ exact) :
    RoundsSize exact rounded := by
  obtain ⟨sign, size, roundedSize, hsize, hrounds, rfl, rfl⟩ := h
  cases sign with
  | negative =>
    -- only zero has a sign that does not count
    obtain rfl : size = 0 := le_antisymm (neg_nonneg.1 hexact) hsize
    obtain rfl : roundedSize = 0 := (hrounds.faithful le_rfl).eq fits_zero
    simpa only [signed_zero] using hrounds
  | positive => exact hrounds

/-- **Rounding keeps the order.** -/
theorem mono (h : Rounds exact rounded) {exact' rounded' : ℚ} (h' : Rounds exact' rounded')
    (hexact : 0 ≤ exact) (hle : exact ≤ exact') : rounded ≤ rounded' :=
  (h.roundsSize hexact).mono (h'.roundsSize (hexact.trans hle)) hexact hle

end Rounds

/-- **An exact result is rounded and stored**, or is not finite if it is greater than all finite
numbers then. -/
structure RoundsTo (exact rounded : ℚ) (x : Float) : Prop where
  /-- It is rounded. -/
  rounds : Rounds exact rounded
  /-- What is not too great is stored. -/
  value_of_le : |rounded| ≤ greatestFinite → value? x = some rounded
  /-- What is too great is not. -/
  value_of_lt : greatestFinite < |rounded| → value? x = none

/-- **What is in the format is stored**, if it is not too great. -/
theorem roundsTo_finite {exact : ℚ} {sign : Sign} {mantissa : ℕ} {exponent : ℤ}
    (h : Binary.InFormat mantissa exponent)
    (hrounds : Rounds exact (signed sign (mantissa * 2 ^ exponent))) (hpos : 0 < mantissa) :
    RoundsTo exact (signed sign (mantissa * 2 ^ exponent))
      (Float.ofModel (Float.Model.pack (.finite sign mantissa exponent hpos))) := by
  refine ⟨hrounds, fun hle => ?_, fun hlt => ?_⟩ <;> rw [value?_eq]
  · rw [abs_signed_of_nonneg sign (by positivity), size_le_greatestFinite_iff h] at hle
    rw [unpack_pack_finite sign h, if_pos hle, unpackedValue?_finite]
  · rw [abs_signed_of_nonneg sign (by positivity), ← not_le, size_le_greatestFinite_iff h] at hlt
    rw [unpack_pack_finite sign h, if_neg hlt]
    rfl

theorem roundsTo_zero {exact : ℚ} (hrounds : Rounds exact 0) (sign : Sign) :
    RoundsTo exact 0 (Float.ofModel (Float.Model.pack (.zero sign))) := by
  refine ⟨hrounds, fun _ => ?_, fun hlt => absurd hlt ?_⟩
  · rw [value?_eq, unpack_pack_zero]
    rfl
  · rw [abs_zero, greatestFinite]
    norm_num

/-- **A result that is rounded and stored.** -/
theorem exists_roundsTo_roundWithAccuracy {mantissa : ℕ} {exponent : ℤ} {accuracy : Accuracy}
    {x : ℚ} (hnonneg : 0 ≤ x)
    (hx : Approximates (ExtendedMantissa.ofMantissaAndAccuracy mantissa accuracy)
      (x / 2 ^ exponent))
    (h : exponent ≤ max (totalExponent mantissa exponent - 53) (-1074)) (sign : Sign) :
    ∃ rounded, RoundsTo (signed sign x) rounded
      (Float.ofModel (Float.Model.pack
        (roundWithAccuracy .binary64 sign mantissa exponent accuracy))) := by
  obtain ⟨rounded, exponent', hformat, hsize, heq⟩ := exists_roundWithAccuracy hx h
  have hrounds : Rounds (signed sign x) (signed sign (rounded * 2 ^ exponent')) :=
    ⟨sign, x, _, hnonneg, hsize, rfl, rfl⟩
  rw [heq]
  split
  · rename_i hzero
    refine ⟨0, roundsTo_zero ?_ sign⟩
    rwa [hzero, Nat.cast_zero, zero_mul, signed_zero] at hrounds
  · exact ⟨_, roundsTo_finite hformat hrounds _⟩

/-- The same size with more bits and a smaller exponent. -/
theorem size_decreaseExponent (mantissa : ℕ) {exponent smaller : ℤ} (h : smaller ≤ exponent) :
    ((mantissa <<< (exponent - smaller).toNat : ℕ) : ℚ) * 2 ^ smaller
      = mantissa * 2 ^ exponent := by
  have hexponent : exponent = smaller + (exponent - smaller).toNat := by omega
  generalize (exponent - smaller).toNat = k at hexponent ⊢
  rw [Nat.shiftLeft_eq, hexponent, zpow_add₀ two_ne_zero, zpow_natCast]
  push_cast
  ring

theorem log2_shiftLeft {mantissa : ℕ} (hpos : 0 < mantissa) (k : ℕ) :
    (mantissa <<< k).log2 = mantissa.log2 + k := by
  rw [Nat.log2_eq_iff (by rw [Nat.shiftLeft_eq]; positivity), Nat.shiftLeft_eq, pow_add,
    add_right_comm, pow_add]
  exact ⟨Nat.mul_le_mul_right _ (Nat.log2_self_le hpos.ne'),
    Nat.mul_lt_mul_of_pos_right Nat.lt_log2_self (Nat.two_pow_pos k)⟩

theorem exists_roundsTo_round {mantissa : ℕ} (hpos : 0 < mantissa) (exponent : ℤ) (sign : Sign) :
    ∃ rounded, RoundsTo (signed sign (mantissa * 2 ^ exponent)) rounded
      (Float.ofModel (Float.Model.pack
        (UnpackedFloat.round .binary64 sign mantissa exponent))) := by
  have htotal : totalExponent mantissa exponent = mantissa.log2 + 1 + exponent := rfl
  generalize hk : (exponent - max ((mantissa.log2 : ℤ) + 1 + exponent - 53) (-1074)).toNat = k
  have hround : UnpackedFloat.round .binary64 sign mantissa exponent
      = roundWithAccuracy .binary64 sign (mantissa <<< k) (exponent - k) .exact := by
    rw [UnpackedFloat.round, targetExponent_eq, htotal, decreaseExponent, hk]
  rw [hround]
  refine exists_roundsTo_roundWithAccuracy (by positivity) ?_ ?_ sign
  · have hsize := size_decreaseExponent mantissa
      (show exponent - k ≤ exponent by omega)
    rw [show (exponent - (exponent - k)).toNat = k by omega] at hsize
    rw [← hsize, mul_div_cancel_right₀ _ (zpow_pos two_pos _).ne']
    exact .ofMantissa _
  · rw [totalExponent, log2_shiftLeft hpos]
    omega

/-- **A whole number of places is rounded.** -/
theorem exists_roundsTo_normalize (mantissa exponent : ℤ) (sign : Sign) :
    ∃ rounded, RoundsTo (mantissa * 2 ^ exponent) rounded
      (Float.ofModel (Float.Model.pack
        (UnpackedFloat.normalize .binary64 mantissa exponent sign))) := by
  rw [UnpackedFloat.normalize]
  rcases lt_trichotomy mantissa 0 with hneg | rfl | hpos
  · obtain ⟨size, rfl⟩ : ∃ size : ℕ, mantissa = -size := ⟨mantissa.natAbs, by omega⟩
    have := exists_roundsTo_round (show 0 < size by omega) exponent .negative
    rw [compare_lt_iff_lt.2 hneg]
    rwa [Int.cast_neg, Int.cast_natCast, neg_mul, neg_neg, Int.toNat_natCast]
  · rw [Int.cast_zero, zero_mul]
    exact ⟨0, roundsTo_zero .zero sign⟩
  · obtain ⟨size, rfl⟩ : ∃ size : ℕ, mantissa = size := ⟨mantissa.natAbs, by omega⟩
    rw [compare_gt_iff_gt.2 hpos]
    exact exists_roundsTo_round (show 0 < size by omega) exponent .positive

/-! ### The operations -/

/-- A finite number is zero or has a mantissa, and its parts fit into 64 bits. -/
theorem value?_cases {x : Float} {a : ℚ} (h : value? x = some a) :
    (∃ sign, x.toModel.unpack = .zero sign ∧ a = 0) ∨
      ∃ sign mantissa exponent, ∃ hpos : 0 < mantissa,
        x.toModel.unpack = .finite sign mantissa exponent hpos ∧
          a = signed sign (mantissa * 2 ^ exponent) ∧ Binary.InFormat mantissa exponent ∧
          exponent ≤ 971 := by
  rw [value?_eq] at h
  rcases hunpack : x.toModel.unpack with _ | _ | sign | ⟨sign, mantissa, exponent, hpos⟩
  · rw [hunpack] at h
    cases h
  · rw [hunpack] at h
    cases h
  · rw [hunpack] at h
    exact Or.inl ⟨sign, rfl, (Option.some.inj h).symm⟩
  · rw [hunpack, unpackedValue?_finite] at h
    exact Or.inr ⟨sign, mantissa, exponent, hpos, rfl, (Option.some.inj h).symm,
      inFormat_unpack hunpack⟩

variable {x y : Float} {a b : ℚ}

/-- **A difference is rounded faithfully.** -/
theorem exists_roundsTo_sub (hx : value? x = some a) (hy : value? y = some b) :
    ∃ rounded, RoundsTo (a - b) rounded (x - y) := by
  show ∃ rounded, RoundsTo (a - b) rounded (Float.ofModel (Float.Model.pack
    (UnpackedFloat.sub .binary64 x.toModel.unpack y.toModel.unpack)))
  rcases value?_cases hx with ⟨sign, hux, rfl⟩ |
      ⟨sign, mantissa, exponent, hpos, hux, rfl, hformat, -⟩ <;>
    rcases value?_cases hy with ⟨sign', huy, rfl⟩ |
      ⟨sign', mantissa', exponent', hpos', huy, rfl, hformat', -⟩ <;>
    rw [hux, huy]
  · rw [sub_zero, UnpackedFloat.sub]
    split <;> exact ⟨0, roundsTo_zero .zero _⟩
  · have hneg : 0 - signed sign' (mantissa' * 2 ^ exponent')
        = signed (-sign') (mantissa' * 2 ^ exponent') := by
      cases sign' with
      | negative => exact zero_sub (-_) |>.trans (neg_neg _)
      | positive => exact zero_sub _
    rw [hneg]
    exact ⟨_, roundsTo_finite hformat' (.of_inFormat hformat' _) hpos'⟩
  · rw [sub_zero]
    exact ⟨_, roundsTo_finite hformat (.of_inFormat hformat _) hpos⟩
  · -- both are brought to the smaller exponent
    have happly {sign : Sign} {mantissa : ℕ} {exponent smaller : ℤ} (h : smaller ≤ exponent) :
        signed sign (mantissa * 2 ^ exponent)
          = (sign.apply (mantissa <<< (exponent - smaller).toNat : ℕ) : ℤ) * 2 ^ smaller := by
      rw [← size_decreaseExponent mantissa h]
      cases sign with
      | negative => rw [signed, Sign.apply, Int.cast_neg, Int.cast_natCast, neg_mul]
      | positive => rw [signed, Sign.apply, Int.cast_natCast]
    rw [happly (min_le_left exponent exponent'), happly (min_le_right exponent exponent'),
      ← sub_mul, ← Int.cast_sub]
    exact exists_roundsTo_normalize _ _ _

theorem signed_mul (sign sign' : Sign) (a b : ℚ) :
    signed sign a * signed sign' b = signed (sign * sign') (a * b) := by
  cases sign <;> cases sign'
  · exact neg_mul_neg a b
  · exact neg_mul a b
  · exact mul_neg a b
  · rfl

/-- **A product is rounded faithfully.** -/
theorem exists_roundsTo_mul (hx : value? x = some a) (hy : value? y = some b) :
    ∃ rounded, RoundsTo (a * b) rounded (x * y) := by
  show ∃ rounded, RoundsTo (a * b) rounded (Float.ofModel (Float.Model.pack
    (UnpackedFloat.mul .binary64 x.toModel.unpack y.toModel.unpack)))
  rcases value?_cases hx with ⟨sign, hux, rfl⟩ |
      ⟨sign, mantissa, exponent, hpos, hux, rfl, hformat, -⟩ <;>
    rcases value?_cases hy with ⟨sign', huy, rfl⟩ |
      ⟨sign', mantissa', exponent', hpos', huy, rfl, hformat', -⟩ <;>
    rw [hux, huy]
  · rw [zero_mul]
    exact ⟨0, roundsTo_zero .zero _⟩
  · rw [zero_mul]
    exact ⟨0, roundsTo_zero .zero _⟩
  · rw [mul_zero]
    exact ⟨0, roundsTo_zero .zero _⟩
  · have hproduct : (mantissa * 2 ^ exponent : ℚ) * (mantissa' * 2 ^ exponent')
        = (mantissa * mantissa' : ℕ) * 2 ^ (exponent + exponent') := by
      rw [zpow_add₀ two_ne_zero]
      push_cast
      ring
    rw [signed_mul, hproduct]
    refine exists_roundsTo_roundWithAccuracy (by positivity) ?_ ?_ _
    · rw [mul_div_cancel_right₀ _ (zpow_pos two_pos _).ne']
      exact .ofMantissa _
    · -- a mantissa has all its bits, or both exponents are the least
      have hbits : 52 ≤ (mantissa * mantissa').log2 ∨ exponent = -1074 ∧ exponent' = -1074 := by
        rw [Nat.le_log2 (by positivity)]
        rcases hformat.full with hfull | hleast
        · exact Or.inl (hfull.trans (Nat.le_mul_of_pos_right _ hpos'))
        · rcases hformat'.full with hfull | hleast'
          · exact Or.inl (hfull.trans (Nat.le_mul_of_pos_left _ hpos))
          · exact Or.inr ⟨hleast, hleast'⟩
      rw [totalExponent]
      omega

/-- The bits that a fraction sets. -/
theorem bits_accuracyOfFraction (mantissa rest divisor : ℕ) :
    ((ExtendedMantissa.ofMantissaAndAccuracy mantissa
        (Float.Model.UnpackedFloat.accuracyOfFraction rest divisor)).roundBit = true
      ↔ rest ≠ 0 ∧ divisor ≤ 2 * rest) ∧
    ((ExtendedMantissa.ofMantissaAndAccuracy mantissa
        (Float.Model.UnpackedFloat.accuracyOfFraction rest divisor)).stickyBit = true
      ↔ rest ≠ 0 ∧ 2 * rest ≠ divisor) := by
  rw [Float.Model.UnpackedFloat.accuracyOfFraction]
  split
  · rename_i hzero
    exact ⟨iff_of_false Bool.false_ne_true fun h => h.1 hzero,
      iff_of_false Bool.false_ne_true fun h => h.1 hzero⟩
  · rename_i hsome
    rcases lt_trichotomy (2 * rest) divisor with hlt | heq | hgt
    · rw [compare_lt_iff_lt.2 hlt]
      exact ⟨iff_of_false Bool.false_ne_true (by omega), iff_of_true rfl ⟨hsome, hlt.ne⟩⟩
    · rw [compare_eq_iff_eq.2 heq]
      exact ⟨iff_of_true rfl ⟨hsome, heq.ge⟩, iff_of_false Bool.false_ne_true (by omega)⟩
    · rw [compare_gt_iff_gt.2 hgt]
      exact ⟨iff_of_true rfl ⟨hsome, hgt.le⟩, iff_of_true rfl ⟨hsome, hgt.ne'⟩⟩

/-- A quotient of whole numbers is approximated by the one without the rest. -/
theorem approximates_div (n : ℕ) {d : ℕ} (hpos : 0 < d) :
    Approximates (ExtendedMantissa.ofMantissaAndAccuracy (n / d)
      (Float.Model.UnpackedFloat.accuracyOfFraction (n % d) d)) (n / d) := by
  have hd : (0 : ℚ) < d := mod_cast hpos
  have hdiv : (d : ℚ) * (n / d : ℕ) + (n % d : ℕ) = n := mod_cast Nat.div_add_mod n d
  have hmod : ((n % d : ℕ) : ℚ) < d := mod_cast Nat.mod_lt n hpos
  have hquotient : (n : ℚ) / d = (n / d : ℕ) + (n % d : ℕ) / d := by
    rw [← hdiv]
    field_simp
  have hnone : ((n % d : ℕ) : ℚ) / d = 0 ↔ n % d = 0 := by
    rw [div_eq_zero_iff, or_iff_left hd.ne', Nat.cast_eq_zero]
  have hhalf : ((n % d : ℕ) : ℚ) / d = 1 / 2 ↔ 2 * (n % d) = d := by
    rw [div_eq_div_iff hd.ne' two_ne_zero, one_mul, mul_comm]
    norm_cast
  have hmore : (1 : ℚ) / 2 ≤ (n % d : ℕ) / d ↔ d ≤ 2 * (n % d) := by
    rw [div_le_div_iff₀ two_pos hd, one_mul, mul_comm]
    norm_cast
  obtain ⟨hround, hsticky⟩ := bits_accuracyOfFraction (n / d) (n % d) d
  refine ⟨?_, ?_, hround.trans ?_, hsticky.trans ?_⟩ <;>
    rw [mantissa_ofMantissaAndAccuracy, hquotient]
  · rw [le_add_iff_nonneg_right]
    positivity
  · rw [add_lt_add_iff_left, div_lt_one hd]
    exact hmod
  · rw [add_sub_cancel_left, hmore]
    omega
  · rw [add_sub_cancel_left]
    exact and_congr hnone.not.symm hhalf.not.symm

theorem signed_div (sign sign' : Sign) (a b : ℚ) :
    signed sign a / signed sign' b = signed (sign / sign') (a / b) := by
  cases sign <;> cases sign'
  · exact neg_div_neg_eq a b
  · exact neg_div b a
  · exact div_neg a
  · rfl

/-- **A quotient is rounded faithfully**, unless the divisor is zero. -/
theorem exists_roundsTo_div (hx : value? x = some a) (hy : value? y = some b) (hne : b ≠ 0) :
    ∃ rounded, RoundsTo (a / b) rounded (x / y) := by
  show ∃ rounded, RoundsTo (a / b) rounded (Float.ofModel (Float.Model.pack
    (UnpackedFloat.div .binary64 x.toModel.unpack y.toModel.unpack)))
  rcases value?_cases hy with ⟨sign', -, rfl⟩ |
    ⟨sign', mantissa', exponent', hpos', huy, rfl, hformat', -⟩
  · exact absurd rfl hne
  rcases value?_cases hx with ⟨sign, hux, rfl⟩ |
    ⟨sign, mantissa, exponent, hpos, hux, rfl, hformat, -⟩
  · rw [hux, huy, zero_div]
    exact ⟨0, roundsTo_zero .zero _⟩
  have htotal (mantissa : ℕ) (exponent : ℤ) :
      totalExponent mantissa exponent = mantissa.log2 + 1 + exponent := rfl
  rw [hux, huy, signed_div, UnpackedFloat.div, Float.Model.UnpackedFloat.divCore]
  dsimp only
  rw [targetExponent_eq, htotal, htotal]
  generalize htarget : min (exponent - exponent') (max ((mantissa.log2 : ℤ) + 1 + exponent
    - (mantissa'.log2 + 1 + exponent') - 53) (-1074)) = target
  refine exists_roundsTo_roundWithAccuracy (by positivity) ?_ ?_ _
  · have hquotient : (mantissa * 2 ^ exponent : ℚ) / (mantissa' * 2 ^ exponent') / 2 ^ target
        = (mantissa <<< (exponent - exponent' - target).toNat : ℕ) / mantissa' := by
      have hsize := size_decreaseExponent mantissa
        (show target ≤ exponent - exponent' by omega)
      rw [zpow_sub₀ two_ne_zero] at hsize
      have htwo (k : ℤ) : (2 : ℚ) ^ k ≠ 0 := (zpow_pos two_pos k).ne'
      have hmantissa' : (mantissa' : ℚ) ≠ 0 := mod_cast hpos'.ne'
      field_simp [htwo] at hsize ⊢
      linarith
    rw [hquotient]
    exact approximates_div _ hpos'
  · rw [htotal]
    by_cases hleast : target ≤ -1074
    · exact hleast.trans (le_max_right _ _)
    · -- the dividend was given bits enough for a quotient with all its bits
      generalize hk : (exponent - exponent' - target).toNat = k
      have hquotient : 2 ^ 52 ≤ mantissa <<< k / mantissa' := by
        rw [Nat.le_div_iff_mul_le hpos', Nat.shiftLeft_eq]
        calc 2 ^ 52 * mantissa' ≤ 2 ^ 52 * 2 ^ (mantissa'.log2 + 1) :=
              Nat.mul_le_mul_left _ Nat.lt_log2_self.le
          _ = 2 ^ (mantissa'.log2 + 53) := by rw [← pow_add]; congr 1; omega
          _ ≤ 2 ^ (mantissa.log2 + k) := Nat.pow_le_pow_right two_pos (by omega)
          _ = 2 ^ mantissa.log2 * 2 ^ k := pow_add ..
          _ ≤ mantissa * 2 ^ k := Nat.mul_le_mul_right _ (Nat.log2_self_le hpos.ne')
      have hbits : 52 ≤ (mantissa <<< k / mantissa').log2 :=
        (Nat.le_log2 ((Nat.two_pow_pos 52).trans_le hquotient).ne').2 hquotient
      omega

/-! ### What is not finite -/

theorem unpackedValue?_infinity (sign : Sign) :
    unpackedValue? (Float.Model.pack (.infinity sign)).unpack = none := by
  rw [unpack_pack_infinity]
  rfl

theorem unpackedValue?_notANumber :
    unpackedValue? (Float.Model.pack .notANumber).unpack = none := by
  rw [unpack_pack_notANumber]
  rfl

/-- What is not finite is infinite or no number. -/
theorem value?_eq_none_cases (h : value? x = none) :
    (∃ sign, x.toModel.unpack = .infinity sign) ∨ x.toModel.unpack = .notANumber := by
  rw [value?_eq] at h
  rcases hunpack : x.toModel.unpack with sign | _ | sign | ⟨_ | _, mantissa, exponent, hpos⟩
  · exact Or.inl ⟨sign, rfl⟩
  · exact Or.inr rfl
  all_goals
    rw [hunpack] at h
    cases h

/-- **A difference is not finite** if one of the two is not. -/
theorem value?_sub_eq_none (h : value? x = none ∨ value? y = none) : value? (x - y) = none := by
  rw [value?_eq]
  show unpackedValue? (Float.Model.pack (UnpackedFloat.sub .binary64 x.toModel.unpack
    y.toModel.unpack)).unpack = none
  rcases h with hx | hy
  · rcases value?_eq_none_cases hx with ⟨sign, hux⟩ | hux <;> rw [hux]
    · rcases y.toModel.unpack with sign' | _ | sign' | ⟨sign', mantissa, exponent, hpos⟩
      · rw [UnpackedFloat.sub]
        split
        · exact unpackedValue?_infinity sign
        · exact unpackedValue?_notANumber
      · exact unpackedValue?_notANumber
      · exact unpackedValue?_infinity sign
      · exact unpackedValue?_infinity sign
    · rcases y.toModel.unpack with _ | _ | _ | _ <;> exact unpackedValue?_notANumber
  · rcases value?_eq_none_cases hy with ⟨sign, huy⟩ | huy <;> rw [huy]
    · rcases x.toModel.unpack with sign' | _ | sign' | ⟨sign', mantissa, exponent, hpos⟩
      · rw [UnpackedFloat.sub]
        split
        · exact unpackedValue?_infinity sign'
        · exact unpackedValue?_notANumber
      · exact unpackedValue?_notANumber
      · exact unpackedValue?_infinity (-sign)
      · exact unpackedValue?_infinity (-sign)
    · rcases x.toModel.unpack with _ | _ | _ | _ <;> exact unpackedValue?_notANumber

/-- **A product is not finite** if the second factor is not. -/
theorem value?_mul_eq_none (h : value? y = none) : value? (x * y) = none := by
  rw [value?_eq]
  show unpackedValue? (Float.Model.pack (UnpackedFloat.mul .binary64 x.toModel.unpack
    y.toModel.unpack)).unpack = none
  rcases value?_eq_none_cases h with ⟨sign, huy⟩ | huy <;> rw [huy]
  · rcases x.toModel.unpack with sign' | _ | sign' | ⟨sign', mantissa, exponent, hpos⟩
    · exact unpackedValue?_infinity (sign' * sign)
    · exact unpackedValue?_notANumber
    · exact unpackedValue?_notANumber
    · exact unpackedValue?_infinity (sign' * sign)
  · rcases x.toModel.unpack with _ | _ | _ | _ <;> exact unpackedValue?_notANumber

end Scalar

end StripChart
