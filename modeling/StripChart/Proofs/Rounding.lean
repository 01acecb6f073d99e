import Mathlib
import StripChart.Proofs.Exact

/-!
# How results are rounded

The result of an operation on numbers of 64 bits is found exactly, up to two bits that say what
is left behind the mantissa, and is then rounded to the nearest number that fits. How it is
rounded depends on nothing but the exact result (`Scalar.RoundsSize`), and two things follow that
all comparisons need. A greater result is not rounded to less (`Scalar.RoundsSize.mono`); and no
number that fits is passed on the way (`Scalar.Faithful`), so that a result that fits is not
changed, and one that lies between two powers of two stays between them.

The fact that carries it is one about the bits left behind: after any shift to the right they
still say whether nothing is left, less than a half, a half or more
(`Scalar.Approximates.shiftRight`), and more than this is not needed to round
(`Scalar.Approximates.roundedMantissa_eq`).
-/

namespace StripChart

namespace Scalar

open Float.Model (UnpackedFloat totalExponent)
open Float.Model.UnpackedFloat (Sign Accuracy ExtendedMantissa decreaseExponent
  roundWithAccuracy shiftToExponent shiftToTargetExponent)

/-! ### Numbers that fit -/

/-- **A number that needs no rounding**, however large it is. -/
def Fits (y : ℚ) : Prop :=
  ∃ mantissa exponent : ℤ, |mantissa| < 2 ^ 53 ∧ -1074 ≤ exponent ∧ y = mantissa * 2 ^ exponent

theorem Fits.neg {y : ℚ} (h : Fits y) : Fits (-y) := by
  obtain ⟨mantissa, exponent, hmantissa, hexponent, rfl⟩ := h
  refine ⟨-mantissa, exponent, by rwa [abs_neg], hexponent, ?_⟩
  push_cast
  ring

theorem fits_of_lt {mantissa : ℕ} {exponent : ℤ} (hmantissa : mantissa < 2 ^ 53)
    (hexponent : -1074 ≤ exponent) : Fits (mantissa * 2 ^ exponent) := by
  refine ⟨mantissa, exponent, ?_, hexponent, by push_cast; ring⟩
  rw [abs_of_nonneg (by positivity)]
  exact_mod_cast hmantissa

theorem fits_two_zpow {exponent : ℤ} (h : -1074 ≤ exponent) : Fits (2 ^ exponent) := by
  have := fits_of_lt (show 1 < 2 ^ 53 by norm_num) h
  rwa [Nat.cast_one, one_mul] at this

theorem fits_natCast {n : ℕ} (h : n < 2 ^ 53) : Fits n := by
  have := fits_of_lt h (show (-1074 : ℤ) ≤ 0 by norm_num)
  rwa [zpow_zero, mul_one] at this

theorem fits_zero : Fits 0 := by
  simpa using fits_natCast (show 0 < 2 ^ 53 by norm_num)

/-- **A faithful rounding passes no number that fits.** -/
structure Faithful (exact rounded : ℚ) : Prop where
  /-- It is not below a number that is not above the exact one. -/
  le {y : ℚ} : Fits y → y ≤ exact → y ≤ rounded
  /-- It is not above a number that is not below the exact one. -/
  ge {y : ℚ} : Fits y → exact ≤ y → rounded ≤ y

namespace Faithful

variable {exact rounded : ℚ}

theorem neg (h : Faithful exact rounded) : Faithful (-exact) (-rounded) where
  le hy hle := le_neg_of_le_neg (h.ge hy.neg (le_neg_of_le_neg hle))
  ge hy hle := neg_le_of_neg_le (h.le hy.neg (neg_le_of_neg_le hle))

/-- What fits is not changed. -/
theorem eq (h : Faithful exact rounded) (hfits : Fits exact) : rounded = exact :=
  le_antisymm (h.ge hfits le_rfl) (h.le hfits le_rfl)

theorem nonneg (h : Faithful exact rounded) (hexact : 0 ≤ exact) : 0 ≤ rounded :=
  h.le fits_zero hexact

end Faithful

/-! ### The nearest whole number -/

/-- The nearest natural number; between two that are equally near, the even one. -/
def roundEven (q : ℚ) : ℕ :=
  if q - ⌊q⌋₊ < 1 / 2 then ⌊q⌋₊
  else if q - ⌊q⌋₊ = 1 / 2 then ⌊q⌋₊ + ⌊q⌋₊ % 2
  else ⌊q⌋₊ + 1

/-- It is the whole part or the next number, and the next only if there is more than the whole
part. -/
theorem roundEven_cases (q : ℚ) :
    roundEven q = ⌊q⌋₊ ∨ roundEven q = ⌊q⌋₊ + 1 ∧ q ≠ ⌊q⌋₊ := by
  rw [roundEven]
  split
  · exact Or.inl rfl
  · rename_i hhalf
    have hne : q ≠ ⌊q⌋₊ := fun heq => hhalf (by rw [← heq]; norm_num)
    split
    · rcases Nat.mod_two_eq_zero_or_one ⌊q⌋₊ with heven | hodd
      · exact Or.inl (by rw [heven, add_zero])
      · exact Or.inr ⟨by rw [hodd], hne⟩
    · exact Or.inr ⟨rfl, hne⟩

theorem roundEven_natCast (n : ℕ) : roundEven n = n := by
  rw [roundEven, Nat.floor_natCast, sub_self, if_pos (by norm_num)]

theorem floor_le_roundEven (q : ℚ) : ⌊q⌋₊ ≤ roundEven q := by
  rcases roundEven_cases q with h | ⟨h, -⟩ <;> omega

theorem roundEven_le_floor_add_one (q : ℚ) : roundEven q ≤ ⌊q⌋₊ + 1 := by
  rcases roundEven_cases q with h | ⟨h, -⟩ <;> omega

theorem roundEven_mono {p q : ℚ} (h : p ≤ q) : roundEven p ≤ roundEven q := by
  rcases (Nat.floor_mono h).eq_or_lt with hsame | hlt
  · -- with the same whole part only the fractions count
    rcases lt_trichotomy (p - ⌊p⌋₊) (1 / 2) with hless | hhalf | hmore
    · have hp : roundEven p = ⌊p⌋₊ := if_pos hless
      rw [hp, hsame]
      exact floor_le_roundEven q
    · rw [roundEven, roundEven, ← hsame, if_neg hhalf.not_lt, if_pos hhalf,
        if_neg (by linarith)]
      split <;> omega
    · rw [roundEven, roundEven, ← hsame, if_neg (by linarith), if_neg hmore.ne',
        if_neg (by linarith), if_neg (by intro heq; linarith)]
  · exact (roundEven_le_floor_add_one p).trans
      ((Nat.succ_le_of_lt hlt).trans (floor_le_roundEven q))

/-! ### The bits left behind -/

/-- **A mantissa with two more bits approximates a number**: it is the whole part of it, and the
bits say what is left. The one says whether this is a half at least, the other whether it is
neither nothing nor a half. -/
structure Approximates (extended : ExtendedMantissa) (x : ℚ) : Prop where
  /-- The mantissa is not above the number. -/
  le : extended.mantissa ≤ x
  /-- It is below by less than one. -/
  lt : x < extended.mantissa + 1
  /-- A half at least is left. -/
  roundBit_iff : extended.roundBit = true ↔ 1 / 2 ≤ x - extended.mantissa
  /-- Neither nothing is left nor a half. -/
  stickyBit_iff : extended.stickyBit = true
    ↔ x - extended.mantissa ≠ 0 ∧ x - extended.mantissa ≠ 1 / 2

namespace Approximates

variable {extended : ExtendedMantissa} {x : ℚ}

theorem floor_eq (h : Approximates extended x) : ⌊x⌋₊ = extended.mantissa :=
  (Nat.floor_eq_iff ((Nat.cast_nonneg _).trans h.le)).2 ⟨h.le, h.lt⟩

theorem shiftRightOne (h : Approximates extended x) :
    Approximates extended.shiftRightOne (x / 2) := by
  obtain ⟨mantissa, roundBit, stickyBit⟩ := extended
  obtain ⟨hle, hlt, hround, hsticky⟩ := h
  dsimp only at hle hlt hround hsticky
  have hdiv : (2 : ℚ) * (mantissa / 2 : ℕ) + (mantissa % 2 : ℕ) = mantissa :=
    mod_cast Nat.div_add_mod mantissa 2
  have hany : roundBit = true ∨ stickyBit = true ↔ x - mantissa ≠ 0 := by
    rw [hround, hsticky]
    constructor
    · rintro (hhalf | ⟨hne, -⟩)
      · exact fun heq => by linarith
      · exact hne
    · intro hne
      rcases eq_or_ne (x - mantissa) (1 / 2) with hhalf | hother
      · exact Or.inl hhalf.ge
      · exact Or.inr ⟨hne, hother⟩
  show Approximates ⟨mantissa / 2, mantissa % 2 != 0, roundBit || stickyBit⟩ (x / 2)
  -- the bit shifted out is worth a half, and all that was left before makes less than one more
  rcases Nat.mod_two_eq_zero_or_one mantissa with hbit | hbit <;> rw [hbit] at hdiv ⊢ <;>
    push_cast at hdiv
  · refine ⟨by dsimp only; linarith, by dsimp only; linarith, ?_, ?_⟩
    · exact iff_of_false (by simp) (by dsimp only; linarith)
    · rw [Bool.or_eq_true, hany]
      dsimp only
      exact ⟨fun hne => ⟨fun heq => hne (by linarith), by linarith⟩,
        fun hne heq => hne.1 (by linarith)⟩
  · refine ⟨by dsimp only; linarith, by dsimp only; linarith, ?_, ?_⟩
    · exact iff_of_true (by simp) (by dsimp only; linarith)
    · rw [Bool.or_eq_true, hany]
      dsimp only
      exact ⟨fun hne => ⟨by linarith, fun heq => hne (by linarith)⟩,
        fun hne heq => hne.2 (by linarith)⟩

theorem shiftRight (h : Approximates extended x) (n : ℕ) :
    Approximates (extended >>> n) (x / 2 ^ n) := by
  induction n with
  | zero =>
    rw [pow_zero, div_one]
    exact h
  | succ n ih =>
    rw [pow_succ, ← div_div]
    exact ih.shiftRightOne

/-- **The bits are all that rounding needs.** -/
theorem roundedMantissa_eq (h : Approximates extended x) :
    extended.roundedMantissa = roundEven x := by
  rw [roundEven, h.floor_eq]
  obtain ⟨mantissa, roundBit, stickyBit⟩ := extended
  obtain ⟨-, -, hround, hsticky⟩ := h
  dsimp only at hround hsticky ⊢
  cases roundBit with
  | false =>
    rw [if_pos (not_le.1 fun hhalf => Bool.false_ne_true (hround.2 hhalf))]
    cases stickyBit <;> rfl
  | true =>
    rw [if_neg (not_lt.2 (hround.1 rfl))]
    cases stickyBit with
    | false =>
      have hhalf : x - mantissa = 1 / 2 := by
        by_contra hother
        have hsome : x - mantissa ≠ 0 := by
          have := hround.1 rfl
          exact fun heq => by linarith
        exact Bool.false_ne_true (hsticky.2 ⟨hsome, hother⟩)
      rw [if_pos hhalf]
      rfl
    | true =>
      rw [if_neg (hsticky.1 rfl).2]
      rfl

end Approximates

theorem mantissa_shiftRight (extended : ExtendedMantissa) (n : ℕ) :
    (extended >>> n).mantissa = extended.mantissa / 2 ^ n := by
  induction n with
  | zero => simp; rfl
  | succ n ih =>
    rw [pow_succ, ← Nat.div_div_eq_div_mul, ← ih]
    rfl

/-! ### The size of a result -/

/-- **Between two neighbours nothing fits.** -/
theorem Fits.le_or_le {y : ℚ} (hy : Fits y) {mantissa : ℕ} {exponent : ℤ}
    (hformat : Binary.InFormat mantissa exponent) :
    y ≤ mantissa * 2 ^ exponent ∨ (mantissa + 1) * 2 ^ exponent ≤ y := by
  obtain ⟨n, f, hn, hf, rfl⟩ := hy
  have hpos : (0 : ℚ) < 2 ^ exponent := zpow_pos two_pos exponent
  rcases le_or_gt exponent f with hle | hlt
  · -- a whole number of the last place
    obtain ⟨k, rfl⟩ := Int.le.dest hle
    rw [zpow_add₀ two_ne_zero, zpow_natCast, mul_comm (2 ^ exponent : ℚ), ← mul_assoc]
    rcases le_or_gt (n * 2 ^ k) (mantissa : ℤ) with hbelow | habove
    · exact Or.inl (mul_le_mul_of_nonneg_right (mod_cast hbelow) hpos.le)
    · exact Or.inr (mul_le_mul_of_nonneg_right (mod_cast habove) hpos.le)
  · -- too small to need the last place, which is that of a mantissa with all its bits
    have hfull := hformat.full.resolve_right (by omega)
    obtain ⟨size, hsize, hle⟩ : ∃ size : ℕ, size < 2 ^ 53 ∧ n ≤ size :=
      ⟨n.natAbs, by rw [Int.abs_eq_natAbs] at hn; omega, Int.le_natAbs⟩
    refine Or.inl (le_trans ?_ (size_lt_of_exponent_lt hsize hfull hlt).le)
    exact mul_le_mul_of_nonneg_right (mod_cast hle) (zpow_pos two_pos f).le

/-- **The size of a result is rounded** to a whole number of the last place that a mantissa has
for it. -/
def RoundsSize (exact rounded : ℚ) : Prop :=
  ∃ exponent : ℤ, Binary.InFormat ⌊exact / 2 ^ exponent⌋₊ exponent ∧
    rounded = roundEven (exact / 2 ^ exponent) * 2 ^ exponent

namespace RoundsSize

variable {exact rounded : ℚ}

/-- What is in the format is not changed. -/
theorem of_inFormat {mantissa : ℕ} {exponent : ℤ} (h : Binary.InFormat mantissa exponent) :
    RoundsSize (mantissa * 2 ^ exponent) (mantissa * 2 ^ exponent) := by
  have hplaces : (mantissa : ℚ) * 2 ^ exponent / 2 ^ exponent = mantissa :=
    mul_div_cancel_right₀ _ (zpow_pos two_pos exponent).ne'
  refine ⟨exponent, ?_, ?_⟩
  · rwa [hplaces, Nat.floor_natCast]
  · rw [hplaces, roundEven_natCast]

/-- **Rounding is faithful.** -/
theorem faithful (h : RoundsSize exact rounded) (hexact : 0 ≤ exact) :
    Faithful exact rounded := by
  obtain ⟨exponent, hformat, rfl⟩ := h
  have hpos : (0 : ℚ) < 2 ^ exponent := zpow_pos two_pos exponent
  have hle : ⌊exact / 2 ^ exponent⌋₊ * 2 ^ exponent ≤ exact :=
    (le_div_iff₀ hpos).1 (Nat.floor_le (by positivity))
  have hlt : exact < (⌊exact / 2 ^ exponent⌋₊ + 1) * 2 ^ exponent :=
    (div_lt_iff₀ hpos).1 (Nat.lt_floor_add_one _)
  rcases roundEven_cases (exact / 2 ^ exponent) with hsame | ⟨hnext, hmore⟩
  · rw [hsame]
    exact ⟨fun hy hyx => (hy.le_or_le hformat).resolve_right (hyx.trans_lt hlt).not_ge,
      fun _ hxy => hle.trans hxy⟩
  · rw [hnext]
    have hne : exact ≠ ⌊exact / 2 ^ exponent⌋₊ * 2 ^ exponent := fun heq =>
      hmore ((div_eq_iff hpos.ne').2 heq)
    push_cast
    refine ⟨fun _ hyx => hyx.trans hlt.le, fun hy hxy => ?_⟩
    exact (hy.le_or_le hformat).resolve_left ((lt_of_le_of_ne hle hne.symm).trans_le hxy).not_ge

/-- **Rounding keeps the order.** -/
theorem mono (h : RoundsSize exact rounded) {exact' rounded' : ℚ}
    (h' : RoundsSize exact' rounded') (hnonneg : 0 ≤ exact) (hle : exact ≤ exact') :
    rounded ≤ rounded' := by
  obtain ⟨exponent, hformat, rfl⟩ := h
  obtain ⟨exponent', hformat', rfl⟩ := h'
  have hpos : (0 : ℚ) < 2 ^ exponent := zpow_pos two_pos exponent
  have hpos' : (0 : ℚ) < 2 ^ exponent' := zpow_pos two_pos exponent'
  rcases lt_trichotomy exponent exponent' with hlt | rfl | hgt
  · -- the place is greater, and its mantissa has all its bits
    have hfull := hformat'.full.resolve_right (by have := hformat.le_exponent; omega)
    have hbelow : roundEven (exact / 2 ^ exponent) ≤ 2 ^ 53 :=
      (roundEven_le_floor_add_one _).trans hformat.mantissa_lt
    have habove := hfull.trans (floor_le_roundEven (exact' / 2 ^ exponent'))
    exact size_le_of_exponent_lt hbelow habove hlt
  · exact mul_le_mul_of_nonneg_right (mod_cast roundEven_mono
      (div_le_div_of_nonneg_right hle hpos.le)) hpos.le
  · have hfull := hformat.full.resolve_right (by have := hformat'.le_exponent; omega)
    refine absurd hle (not_le.2 ?_)
    calc exact' < (⌊exact' / 2 ^ exponent'⌋₊ + 1) * 2 ^ exponent' :=
          (div_lt_iff₀ hpos').1 (Nat.lt_floor_add_one _)
      _ = (⌊exact' / 2 ^ exponent'⌋₊ + 1 : ℕ) * 2 ^ exponent' := by push_cast; rfl
      _ ≤ ⌊exact / 2 ^ exponent⌋₊ * 2 ^ exponent :=
          size_le_of_exponent_lt hformat'.mantissa_lt hfull hgt
      _ ≤ exact := (le_div_iff₀ hpos).1 (Nat.floor_le (by positivity))

end RoundsSize

/-! ### Rounding in the format of 64 bits -/

/-- The exponent that a number of 64 bits is to have. -/
theorem targetExponent_eq (exponent : ℤ) :
    Float.Model.Format.binary64.targetExponent exponent = max (exponent - 53) (-1074) := by
  rfl

theorem Approximates.ofMantissa (mantissa : ℕ) :
    Approximates (ExtendedMantissa.ofMantissaAndAccuracy mantissa .exact) mantissa := by
  have hnothing : (mantissa : ℚ) - mantissa = 0 := sub_self _
  refine ⟨le_rfl, lt_add_one _, iff_of_false Bool.false_ne_true ?_,
    iff_of_false Bool.false_ne_true fun hsome => hsome.1 hnothing⟩
  exact not_le.2 (hnothing.trans_lt (by norm_num))

theorem mantissa_ofMantissaAndAccuracy (mantissa : ℕ) (accuracy : Accuracy) :
    (ExtendedMantissa.ofMantissaAndAccuracy mantissa accuracy).mantissa = mantissa := by
  rcases accuracy with _ | (_ | _ | _) <;> rfl

/-- A mantissa is shifted to the right until it fits. -/
theorem inFormat_div {mantissa : ℕ} {exponent : ℤ}
    (h : exponent ≤ max (totalExponent mantissa exponent - 53) (-1074)) :
    Binary.InFormat
      (mantissa / 2 ^ (max (totalExponent mantissa exponent - 53) (-1074) - exponent).toNat)
      (max (totalExponent mantissa exponent - 53) (-1074)) := by
  have htotal : totalExponent mantissa exponent = mantissa.log2 + 1 + exponent := rfl
  rw [htotal] at h ⊢
  have hbelow : mantissa < 2 ^ (mantissa.log2 + 1) := Nat.lt_log2_self
  generalize hk : (max ((mantissa.log2 : ℤ) + 1 + exponent - 53) (-1074) - exponent).toNat = k
  refine ⟨?_, le_max_right _ _, ?_⟩
  · rw [Nat.div_lt_iff_lt_mul (Nat.two_pow_pos k), ← pow_add]
    exact hbelow.trans_le (Nat.pow_le_pow_right two_pos (by omega))
  · by_cases hleast : max ((mantissa.log2 : ℤ) + 1 + exponent - 53) (-1074) = -1074
    · exact Or.inr hleast
    · -- the leading bit comes to stand where it shall be
      have hlog : k + 52 = mantissa.log2 := by omega
      have hne : mantissa ≠ 0 := by
        rintro rfl
        simp at hlog
      refine Or.inl ((Nat.le_div_iff_mul_le (Nat.two_pow_pos k)).2 ?_)
      rw [← pow_add, add_comm, hlog]
      exact Nat.log2_self_le hne

/-- A mantissa that was rounded up to one bit more is shifted once more; no other is. -/
theorem exists_shiftToTargetExponent {mantissa : ℕ} {exponent : ℤ} (hle : mantissa ≤ 2 ^ 53)
    (hexponent : -1074 ≤ exponent) (hfull : 2 ^ 52 ≤ mantissa ∨ exponent = -1074) :
    ∃ (extended : ExtendedMantissa) (exponent' : ℤ),
      shiftToTargetExponent .binary64 mantissa exponent .exact = (extended, exponent') ∧
        Binary.InFormat extended.mantissa exponent' ∧
        (extended.mantissa : ℚ) * 2 ^ exponent' = mantissa * 2 ^ exponent := by
  have htotal : totalExponent mantissa exponent = mantissa.log2 + 1 + exponent := rfl
  refine ⟨_, _, rfl, ?_⟩
  rw [targetExponent_eq, htotal, mantissa_shiftRight, mantissa_ofMantissaAndAccuracy]
  rcases hle.eq_or_lt with rfl | hlt
  · have hshift : (max (((2 ^ 53 : ℕ).log2 : ℤ) + 1 + exponent - 53) (-1074) - exponent).toNat
        = 1 := by
      rw [Nat.log2_two_pow]
      omega
    rw [hshift]
    refine ⟨⟨by norm_num, by omega, Or.inl (by norm_num)⟩, ?_⟩
    rw [Nat.cast_one, zpow_add_one₀ two_ne_zero]
    norm_num
    ring
  · have hlog : mantissa.log2 < 53 := by
      rcases Nat.eq_zero_or_pos mantissa with rfl | hpos
      · simp
      · exact (Nat.log2_lt hpos.ne').2 hlt
    have hshift : (max ((mantissa.log2 : ℤ) + 1 + exponent - 53) (-1074) - exponent).toNat = 0 := by
      omega
    rw [hshift, pow_zero, Nat.div_one, Nat.cast_zero, add_zero]
    exact ⟨⟨hlt, hexponent, hfull⟩, rfl⟩

/-- **A result is rounded to what is in the format**, if it starts with bits enough: with an
exponent that is not above the one it is to have. -/
theorem exists_roundWithAccuracy {mantissa : ℕ} {exponent : ℤ} {accuracy : Accuracy} {x : ℚ}
    (hx : Approximates (ExtendedMantissa.ofMantissaAndAccuracy mantissa accuracy)
      (x / 2 ^ exponent))
    (h : exponent ≤ max (totalExponent mantissa exponent - 53) (-1074)) :
    ∃ (rounded : ℕ) (exponent' : ℤ), Binary.InFormat rounded exponent' ∧
      RoundsSize x (rounded * 2 ^ exponent') ∧ ∀ sign,
        roundWithAccuracy .binary64 sign mantissa exponent accuracy
          = if hzero : rounded = 0 then .zero sign
            else .finite sign rounded exponent' (Nat.pos_of_ne_zero hzero) := by
  have hformat := inFormat_div h
  generalize htarget : max (totalExponent mantissa exponent - 53) (-1074) = target at h hformat
  have hexponent : exponent + (target - exponent).toNat = target := by omega
  have hfirst : shiftToTargetExponent .binary64 mantissa exponent accuracy
      = (ExtendedMantissa.ofMantissaAndAccuracy mantissa accuracy
          >>> (target - exponent).toNat, target) := by
    rw [shiftToTargetExponent, targetExponent_eq, htarget, shiftToExponent, hexponent]
  have happroximates := hx.shiftRight (target - exponent).toNat
  rw [div_div, ← zpow_natCast, ← zpow_add₀ two_ne_zero, hexponent] at happroximates
  generalize hextended : ExtendedMantissa.ofMantissaAndAccuracy mantissa accuracy
    >>> (target - exponent).toNat = extended at hfirst happroximates
  have hfloor : ⌊x / 2 ^ target⌋₊ = mantissa / 2 ^ (target - exponent).toNat := by
    rw [happroximates.floor_eq, ← hextended, mantissa_shiftRight, mantissa_ofMantissaAndAccuracy]
  rw [← hfloor] at hformat
  -- rounding up may have made one bit more
  obtain ⟨last, exponent', hlast, hlastFormat, hsize⟩ := exists_shiftToTargetExponent
    ((roundEven_le_floor_add_one (x / 2 ^ target)).trans hformat.mantissa_lt) hformat.le_exponent
    (hformat.full.imp_left fun hfull => hfull.trans (floor_le_roundEven _))
  refine ⟨last.mantissa, exponent', hlastFormat, ⟨target, hformat, hsize⟩, fun sign => ?_⟩
  rw [roundWithAccuracy, hfirst]
  dsimp only
  rw [happroximates.roundedMantissa_eq, hlast]

end Scalar

end StripChart
