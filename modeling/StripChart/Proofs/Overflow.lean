import Mathlib
import StripChart.Proofs.Operations

/-!
# What drawing computes is finite

An axis divides two by the width of its range, and multiplies with the result. It does so if the
width, as it is rounded, is finite and greater than nothing; and this file shows which of the
quantities on the way are finite then, for numbers in the range (`Axis.quantities`). All of them
are, and there are no two ends too far apart. But two ends can be too close together
(`Axis.TooNarrow`): a width that is not greater than half of the least number with a whole
mantissa is greater than nothing, and two divided by it is greater than all finite numbers. Then
the slope is infinite, and so is the image, or it is no number.

Three facts carry this. A width is a whole number of the last place there is (`Scalar.OnGrid`), so
that the widths in question are not rounded at all, and there is a least one that is wide enough.
Rounding keeps the order, so that a rounded distance is not greater than the rounded width. And
a slope is not rounded above the next power of two, so that no product is greater than four
(`Scalar.Rounds.mul_le_four`).

For a line it follows that it has finite points, if its samples are finite and lie in the window,
except where the window or the range of the readings is too narrow
(`Line.isFinite_iff_not_tooNarrow`).
-/

namespace StripChart

namespace Scalar

/-! ### Numbers that are too great -/

variable {x y : Float} {a b : ℚ} {exact rounded : ℚ}

theorem greatestFinite_lt_two_zpow : greatestFinite < 2 ^ (1024 : ℤ) := by
  rw [greatestFinite, show (1024 : ℤ) = 53 + 971 by norm_num, zpow_add₀ two_ne_zero]
  exact mul_lt_mul_of_pos_right (by norm_num) (zpow_pos two_pos 971)

theorem four_le_greatestFinite : 4 ≤ greatestFinite := by
  rw [greatestFinite]
  exact (show (4 : ℚ) ≤ (2 ^ 53 - 1) * 1 by norm_num).trans
    (mul_le_mul_of_nonneg_left (one_le_zpow₀ one_le_two (by norm_num)) (by norm_num))

theorem fits_greatestFinite : Fits greatestFinite := by
  have := fits_of_lt (show 2 ^ 53 - 1 < 2 ^ 53 by norm_num) (show (-1074 : ℤ) ≤ 971 by norm_num)
  rw [greatestFinite]
  norm_num at this ⊢
  exact this

/-- Half way from the greatest finite number to the next power of two. -/
def tooGreat : ℚ :=
  greatestFinite + 2 ^ (970 : ℤ)

theorem one_lt_tooGreat : 1 < tooGreat :=
  calc (1 : ℚ) < 4 := by norm_num
    _ ≤ greatestFinite := four_le_greatestFinite
    _ ≤ tooGreat := le_add_of_nonneg_right (zpow_pos two_pos 970).le

/-- **What has a value fits**, and is not too great. -/
theorem fits_of_value? (h : value? x = some a) : Fits a ∧ |a| ≤ greatestFinite := by
  rcases value?_cases h with ⟨-, -, rfl⟩ |
    ⟨sign, mantissa, exponent, -, -, rfl, hformat, hgreatest⟩
  · refine ⟨fits_zero, ?_⟩
    rw [abs_zero, greatestFinite]
    norm_num
  · have hfits := fits_of_lt hformat.mantissa_lt hformat.le_exponent
    refine ⟨?_, ?_⟩
    · cases sign with
      | negative => exact hfits.neg
      | positive => exact hfits
    · rw [abs_signed_of_nonneg sign (by positivity)]
      exact (size_le_greatestFinite_iff hformat).2 hgreatest

/-- **A whole number of the last place there is.** -/
def OnGrid (q : ℚ) : Prop :=
  ∃ n : ℤ, q = n * 2 ^ (-1074 : ℤ)

theorem Fits.onGrid (h : Fits a) : OnGrid a := by
  obtain ⟨mantissa, exponent, -, hexponent, rfl⟩ := h
  obtain ⟨k, rfl⟩ := Int.le.dest hexponent
  refine ⟨mantissa * 2 ^ k, ?_⟩
  rw [zpow_add₀ two_ne_zero, zpow_natCast, Int.cast_mul, Int.cast_pow, Int.cast_ofNat, mul_assoc,
    mul_comm (2 ^ k : ℚ)]

/-- So is every difference of values. -/
theorem onGrid_sub (hx : value? x = some a) (hy : value? y = some b) : OnGrid (a - b) := by
  obtain ⟨n, rfl⟩ := (fits_of_value? hx).1.onGrid
  obtain ⟨m, rfl⟩ := (fits_of_value? hy).1.onGrid
  exact ⟨n - m, by rw [Int.cast_sub, sub_mul]⟩

/-- The least number on the grid that is greater than nothing. -/
theorem OnGrid.le_of_pos (h : OnGrid a) (hpos : 0 < a) : 2 ^ (-1074 : ℤ) ≤ a := by
  obtain ⟨n, rfl⟩ := h
  have hplace : (0 : ℚ) < 2 ^ (-1074 : ℤ) := zpow_pos two_pos (-1074)
  have hn : (0 : ℤ) < n := by exact_mod_cast pos_of_mul_pos_left hpos hplace.le
  exact le_mul_of_one_le_left hplace.le (mod_cast hn)

/-- **When a result has become too great**: what is nearer to the greatest finite number than to
the next power of two is not, and half way between the two it is. -/
theorem RoundsSize.le_greatestFinite_iff (h : RoundsSize exact rounded) (hexact : 0 ≤ exact) :
    rounded ≤ greatestFinite ↔ exact < tooGreat := by
  have hpos : (0 : ℚ) < 2 ^ (971 : ℤ) := zpow_pos two_pos 971
  have hbound : tooGreat = (2 ^ 53 - 1 / 2) * 2 ^ (971 : ℤ) := by
    rw [tooGreat, greatestFinite, show (971 : ℤ) = 970 + 1 by norm_num, zpow_add_one₀ two_ne_zero]
    ring
  have hfloor {q : ℚ} (hle : 2 ^ 53 - 1 ≤ q) (hlt : q < 2 ^ 53) : ⌊q⌋₊ = 2 ^ 53 - 1 :=
    (Nat.floor_eq_iff (le_trans (by norm_num) hle)).2
      ⟨by norm_num at hle ⊢; exact hle, by norm_num at hlt ⊢; exact hlt⟩
  have hformat : Binary.InFormat (2 ^ 53 - 1) 971 := ⟨by norm_num, by norm_num, by norm_num⟩
  constructor
  · intro hle
    by_contra hge
    -- half way the even mantissa is taken, which is the one of the power of two
    have hup : RoundsSize ((2 ^ 53 - 1 / 2) * 2 ^ (971 : ℤ)) (2 ^ 53 * 2 ^ (971 : ℤ)) := by
      have hplaces : (2 ^ 53 - 1 / 2) * 2 ^ (971 : ℤ) / 2 ^ (971 : ℤ) = (2 ^ 53 - 1 / 2 : ℚ) :=
        mul_div_cancel_right₀ _ hpos.ne'
      have hwhole := hfloor (q := 2 ^ 53 - 1 / 2) (by norm_num) (by norm_num)
      refine ⟨971, ?_, ?_⟩ <;> rw [hplaces]
      · rwa [hwhole]
      · rw [roundEven, hwhole]
        norm_num
    have hfar := hup.mono h (mul_nonneg (by norm_num) hpos.le) (hbound ▸ not_lt.1 hge)
    have hnext : greatestFinite < 2 ^ 53 * 2 ^ (971 : ℤ) :=
      mul_lt_mul_of_pos_right (by norm_num) hpos
    exact (hnext.trans_le hfar).not_ge hle
  · intro hlt
    rcases le_or_gt exact greatestFinite with hle | hgt
    · exact (h.faithful hexact).ge fits_greatestFinite hle
    -- beyond the greatest number, but nearer to it than half way
    rw [hbound, ← div_lt_iff₀ hpos] at hlt
    rw [greatestFinite, ← lt_div_iff₀ hpos] at hgt
    have hdown : RoundsSize exact greatestFinite := by
      have hwhole := hfloor hgt.le (hlt.trans (by norm_num))
      have hless : exact / 2 ^ (971 : ℤ) - (2 ^ 53 - 1 : ℕ) < 1 / 2 := by
        rw [sub_lt_iff_lt_add]
        exact hlt.trans_eq (by norm_num)
      refine ⟨971, hwhole ▸ hformat, ?_⟩
      rw [roundEven, hwhole, if_pos hless, greatestFinite]
      norm_num
    exact h.mono hdown hexact le_rfl

/-! ### Results that are finite -/

theorem isFinite_iff : x.isFinite = true ↔ ∃ a, value? x = some a := by
  rw [← isSome_value?, Option.isSome_iff_exists]

theorem isFinite_eq_false_iff : x.isFinite = false ↔ value? x = none := by
  rw [← isSome_value?, Option.isSome_eq_false_iff, Option.isNone_iff_eq_none]

namespace RoundsTo

theorem isFinite_iff (h : RoundsTo exact rounded x) :
    x.isFinite = true ↔ |rounded| ≤ greatestFinite := by
  rw [← isSome_value?]
  rcases le_or_gt |rounded| greatestFinite with hle | hgt
  · rw [h.value_of_le hle]
    exact iff_of_true rfl hle
  · rw [h.value_of_lt hgt]
    exact iff_of_false Bool.false_ne_true hgt.not_ge

/-- A size that fits is a bound for what is rounded if it is one for the exact result. -/
theorem abs_rounded_le (h : RoundsTo exact rounded x) {bound : ℚ} (hfits : Fits bound)
    (hle : |exact| ≤ bound) : |rounded| ≤ bound :=
  abs_le.2 ⟨h.rounds.faithful.le hfits.neg (abs_le.1 hle).1,
    h.rounds.faithful.ge hfits (abs_le.1 hle).2⟩

end RoundsTo

theorem value?_zero : value? 0.0 = some 0 := by decide +kernel

theorem value?_one : value? (Scalar.ofNat 1) = some 1 := by decide +kernel

theorem value?_two : value? (Scalar.ofNat 2) = some 2 := by decide +kernel

/-! ### Widths -/

/-- The greatest width that is too narrow to be mapped. -/
def greatestNarrow : ℚ :=
  2 ^ (-1023 : ℤ)

/-- The least width that is wide enough, which is the next on the grid. -/
def leastWide : ℚ :=
  (2 ^ 51 + 1 : ℕ) * 2 ^ (-1074 : ℤ)

theorem greatestNarrow_le_one : greatestNarrow ≤ 1 :=
  zpow_le_one_of_nonpos₀ one_le_two (by norm_num)

theorem greatestNarrow_eq : greatestNarrow = (2 ^ 51 : ℕ) * 2 ^ (-1074 : ℤ) := by
  rw [greatestNarrow, show (-1023 : ℤ) = (51 : ℕ) + -1074 by norm_num, zpow_add₀ two_ne_zero,
    zpow_natCast, Nat.cast_pow, Nat.cast_ofNat]

theorem greatestNarrow_lt_leastWide : greatestNarrow < leastWide := by
  rw [greatestNarrow_eq, leastWide]
  exact mul_lt_mul_of_pos_right (by norm_num) (zpow_pos two_pos (-1074))

theorem fits_leastWide : Fits leastWide :=
  fits_of_lt (by norm_num) le_rfl

section Widths

variable {width : ℚ}

/-- Two divided by a narrow width is greater than all finite numbers. -/
theorem le_two_div_of_le_greatestNarrow (hpos : 0 < width) (h : width ≤ greatestNarrow) :
    2 ^ (1024 : ℤ) ≤ 2 / width := by
  rw [le_div_iff₀ hpos]
  calc (2 : ℚ) ^ (1024 : ℤ) * width
      ≤ 2 ^ (1024 : ℤ) * 2 ^ (-1023 : ℤ) :=
        mul_le_mul_of_nonneg_left h (zpow_pos two_pos 1024).le
    _ = 2 := by
        rw [← zpow_add₀ two_ne_zero]
        norm_num

/-- What is on the grid is not between the two. -/
theorem OnGrid.leastWide_le (h : OnGrid width) (hwide : greatestNarrow < width) :
    leastWide ≤ width := by
  obtain ⟨n, rfl⟩ := h
  have hplace : (0 : ℚ) < 2 ^ (-1074 : ℤ) := zpow_pos two_pos (-1074)
  rw [greatestNarrow_eq, mul_lt_mul_iff_left₀ hplace] at hwide
  rw [leastWide, mul_le_mul_iff_left₀ hplace]
  have hlt : ((2 ^ 51 : ℕ) : ℤ) < n := by exact_mod_cast hwide
  exact_mod_cast hlt

/-- Two divided by a width that is wide enough is not greater. -/
theorem two_div_le_of_leastWide_le (h : leastWide ≤ width) : 2 / width ≤ greatestFinite := by
  have hpos : 0 < width := h.trans_lt' (mul_pos (by norm_num) (zpow_pos two_pos (-1074)))
  have hgreatest : 0 ≤ greatestFinite := four_le_greatestFinite.trans' (by norm_num)
  rw [div_le_iff₀ hpos]
  calc (2 : ℚ) ≤ (2 ^ 53 - 1) * (2 ^ 51 + 1 : ℕ) * 2 ^ (-103 : ℤ) := by norm_num
    _ = greatestFinite * leastWide := by
        rw [greatestFinite, leastWide, show (-103 : ℤ) = 971 + -1074 by norm_num,
          zpow_add₀ two_ne_zero, mul_mul_mul_comm]
    _ ≤ greatestFinite * width := mul_le_mul_of_nonneg_left h hgreatest

/-- **Two divided by a width is too great** over narrow widths and no others. -/
theorem two_div_le_iff (hgrid : OnGrid width) (hpos : 0 < width) :
    2 / width ≤ greatestFinite ↔ greatestNarrow < width := by
  refine ⟨fun hle => not_le.1 fun hnarrow => ?_,
    fun hwide => two_div_le_of_leastWide_le (hgrid.leastWide_le hwide)⟩
  have hgreat := le_two_div_of_le_greatestNarrow hpos hnarrow
  exact (greatestFinite_lt_two_zpow.trans_le hgreat).not_ge hle

/-- Rounded it is so over the same widths. -/
theorem RoundsTo.isFinite_two_div_iff {slope : ℚ} (h : RoundsTo (2 / width) slope x)
    (hgrid : OnGrid width) (hpos : 0 < width) : x.isFinite = true ↔ greatestNarrow < width := by
  have hnonneg : 0 ≤ 2 / width := by positivity
  rw [h.isFinite_iff, ← two_div_le_iff hgrid hpos]
  refine ⟨fun hle => ?_, fun hle => ?_⟩
  · rw [two_div_le_iff hgrid hpos]
    by_contra hnarrow
    have hgreat := h.rounds.faithful.le (fits_two_zpow (by norm_num))
      (le_two_div_of_le_greatestNarrow hpos (not_lt.1 hnarrow))
    exact (greatestFinite_lt_two_zpow.trans_le hgreat).not_ge ((le_abs_self slope).trans hle)
  · refine h.abs_rounded_le fits_greatestFinite ?_
    rwa [abs_of_nonneg hnonneg]

/-- **A product with the rounded slope** is not greater than four, for all that is not greater
than the width. -/
theorem Rounds.mul_le_four {slope distance : ℚ} (h : Rounds (2 / width) slope) (hpos : 0 < width)
    (hwidth : width ≤ greatestFinite) (hdistance : distance ≤ width) :
    distance * slope ≤ 4 := by
  -- the next power of two fits, so that the slope is not rounded above it
  obtain ⟨k, hk, hk'⟩ := exists_mem_Ico_zpow hpos one_lt_two
  have hsmall : (2 : ℚ) ^ k < 2 ^ (1024 : ℤ) :=
    hk.trans_lt (hwidth.trans_lt greatestFinite_lt_two_zpow)
  rw [zpow_lt_zpow_iff_right₀ one_lt_two] at hsmall
  have hexact : 2 / width ≤ 2 ^ (1 - k) := by
    rw [div_le_iff₀ hpos, zpow_sub₀ two_ne_zero, zpow_one, div_mul_eq_mul_div,
      le_div_iff₀ (zpow_pos two_pos k)]
    exact mul_le_mul_of_nonneg_left hk two_pos.le
  have hslope : slope ≤ 2 ^ (1 - k) := h.faithful.ge (fits_two_zpow (by omega)) hexact
  have hnonneg : 0 ≤ slope := h.faithful.nonneg (by positivity)
  calc distance * slope ≤ 2 ^ (k + 1) * 2 ^ (1 - k) :=
        mul_le_mul (hdistance.trans hk'.le) hslope hnonneg (zpow_pos two_pos _).le
    _ = 4 := by
        rw [← zpow_add₀ two_ne_zero, show k + 1 + (1 - k) = 2 by omega]
        norm_num

end Widths

namespace Rounds

variable (h : Rounds exact rounded) (hgrid : OnGrid exact)

include h hgrid

/-- A difference is rounded to nothing only if it is nothing. -/
theorem pos_iff (hexact : 0 ≤ exact) : 0 < rounded ↔ 0 < exact := by
  refine ⟨fun hpos => hexact.lt_of_ne fun heq => ?_, fun hpos => ?_⟩
  · have hzero : rounded = exact := h.faithful.eq (heq ▸ fits_zero)
    exact hpos.ne (heq.trans hzero.symm)
  · exact (zpow_pos two_pos (-1074)).trans_le
      (h.faithful.le (fits_two_zpow le_rfl) (hgrid.le_of_pos hpos))

/-- A difference is not rounded from the one side to the other. -/
theorem greatestNarrow_lt_iff : greatestNarrow < rounded ↔ greatestNarrow < exact := by
  refine ⟨fun hwide => not_le.1 fun hnarrow => ?_, fun hwide => ?_⟩
  · exact (h.faithful.ge (fits_two_zpow (by norm_num)) hnarrow).not_gt hwide
  · exact greatestNarrow_lt_leastWide.trans_le
      (h.faithful.le fits_leastWide (hgrid.leastWide_le hwide))

end Rounds

/-! ### Images -/

/-- A small product is finite, and so is what is one less. -/
theorem isFinite_of_mul_le_four (hx : value? x = some a) (hy : value? y = some b)
    (hnonneg : 0 ≤ a * b) (hle : a * b ≤ 4) :
    (x * y).isFinite = true ∧ (x * y - Scalar.ofNat 1).isFinite = true := by
  have hfits : Fits 4 := by simpa using fits_natCast (show 4 < 2 ^ 53 by norm_num)
  obtain ⟨product, hproduct⟩ := exists_roundsTo_mul hx hy
  have hproduct_nonneg : 0 ≤ product := hproduct.rounds.faithful.nonneg hnonneg
  have hproduct_abs : |product| ≤ 4 :=
    hproduct.abs_rounded_le hfits (by rwa [abs_of_nonneg hnonneg])
  have hproduct_finite := hproduct_abs.trans four_le_greatestFinite
  obtain ⟨image, himage⟩ := exists_roundsTo_sub (hproduct.value_of_le hproduct_finite) value?_one
  have himage_abs : |image| ≤ 4 := himage.abs_rounded_le hfits (by
    have := (le_abs_self product).trans hproduct_abs
    exact abs_le.2 ⟨by linarith, by linarith⟩)
  exact ⟨hproduct.isFinite_iff.2 hproduct_finite,
    himage.isFinite_iff.2 (himage_abs.trans four_le_greatestFinite)⟩

/-- What is multiplied with what is not finite is not finite. -/
theorem isFinite_mul_eq_false (h : y.isFinite = false) :
    (x * y).isFinite = false ∧ (x * y - Scalar.ofNat 1).isFinite = false := by
  have hproduct := value?_mul_eq_none (x := x) (isFinite_eq_false_iff.1 h)
  exact ⟨isFinite_eq_false_iff.2 hproduct,
    isFinite_eq_false_iff.2 (value?_sub_eq_none (Or.inl hproduct))⟩

end Scalar

/-! ### Axes of numbers of 64 bits -/

namespace Axis

open Scalar

/-- **A range is too narrow**: it has a width, but two divided by it is greater than all finite
numbers. -/
def TooNarrow (low high : Float) : Prop :=
  ∃ l h, value? low = some l ∧ value? high = some h ∧ 0 < h - l ∧ h - l ≤ greatestNarrow

/-- **How large the quantities of an axis become**, from `low` to `high` with the values `l` and
`h`, for a number `a` with a value `v` between them: those that are exact, and those that are
rounded. -/
structure Quantities (low high flat a : Float) (l h v : ℚ) : Prop where
  /-- There is a slope, unless there is no width or it is rounded to more than all finite
  numbers. -/
  slope_iff : (Axis.new low high flat).slope.isSome = true
    ↔ 0 < h - l ∧ h - l < tooGreat
  /-- The distance from the lower end is not greater than the width. -/
  distance : 0 ≤ v - l ∧ v - l ≤ h - l
  /-- Only over a range that is too narrow the slope is too great. -/
  slope_le_iff : 0 < h - l → (2 / (h - l) ≤ greatestFinite ↔ ¬TooNarrow low high)
  /-- The product of the two is between nothing and two. -/
  product : 0 < h - l → 0 ≤ (v - l) * (2 / (h - l)) ∧ (v - l) * (2 / (h - l)) ≤ 2
  /-- Rounded, the distance is finite. -/
  isFinite_distance : (Axis.new low high flat).slope.isSome = true → (a - low).isFinite = true
  /-- Rounded, the slope and the product are finite unless the range is too narrow. -/
  isFinite_slope_iff : ∀ slope, (Axis.new low high flat).slope = some slope →
    (slope.isFinite = true ↔ ¬TooNarrow low high) ∧
      (((a - low) * slope).isFinite = true ↔ ¬TooNarrow low high)
  /-- So is the image. -/
  isFinite_map_iff : ((Axis.new low high flat).map a).isFinite = true ↔ ¬TooNarrow low high

variable {low high flat a : Float} {l h v : ℚ}

theorem slope_new (low high flat : Float) :
    (Axis.new low high flat).slope
      = if 0.0 < high - low ∧ (high - low).isFinite = true then
          some (Scalar.ofNat 2 / (high - low))
        else none := by
  show (if (decide (0.0 < high - low) && (high - low).isFinite) = true then
    some (Scalar.ofNat 2 / (high - low)) else none) = _
  simp only [Bool.and_eq_true, decide_eq_true_eq]

theorem tooNarrow_iff (hlow : value? low = some l) (hhigh : value? high = some h) :
    TooNarrow low high ↔ 0 < h - l ∧ h - l ≤ greatestNarrow := by
  refine ⟨?_, fun hnarrow => ⟨l, h, hlow, hhigh, hnarrow⟩⟩
  rintro ⟨l', h', hlow', hhigh', hnarrow⟩
  obtain rfl := Option.some.inj (hlow.symm.trans hlow')
  obtain rfl := Option.some.inj (hhigh.symm.trans hhigh')
  exact hnarrow

/-- **The width of a range in 64 bits.** It is finite if the exact one is not rounded to more
than all finite numbers, and then it is greater than nothing if the exact one is. -/
theorem exists_width (hlow : value? low = some l) (hhigh : value? high = some h) (hle : l ≤ h)
    (flat : Float) :
    ∃ width, Rounds (h - l) width ∧
      (h - l < tooGreat →
        value? (high - low) = some width ∧ width ≤ greatestFinite) ∧
      (Axis.new low high flat).slope
        = if 0 < h - l ∧ h - l < tooGreat then
            some (Scalar.ofNat 2 / (high - low))
          else none := by
  have hexact : 0 ≤ h - l := sub_nonneg.2 hle
  obtain ⟨width, hwidth⟩ := exists_roundsTo_sub hhigh hlow
  have hnonneg : 0 ≤ width := hwidth.rounds.faithful.nonneg hexact
  have hgreat : |width| ≤ greatestFinite ↔ h - l < tooGreat := by
    rw [abs_of_nonneg hnonneg]
    exact (hwidth.rounds.roundsSize hexact).le_greatestFinite_iff hexact
  refine ⟨width, hwidth.rounds, fun hsmall => ?_, ?_⟩
  · exact ⟨hwidth.value_of_le (hgreat.2 hsmall), (le_abs_self width).trans (hgreat.2 hsmall)⟩
  have hgrid := onGrid_sub hhigh hlow
  have hboth : 0.0 < high - low ∧ (high - low).isFinite = true
      ↔ 0 < h - l ∧ h - l < tooGreat := by
    rw [hwidth.isFinite_iff, hgreat]
    exact and_congr_left fun hsmall =>
      (lt_iff_of_value? value?_zero (hwidth.value_of_le (hgreat.2 hsmall))).trans
        (hwidth.rounds.pos_iff hgrid hexact)
  exact (slope_new low high flat).trans (if_congr hboth rfl rfl)

/-- **What a slope does** with a number in its range. -/
theorem isFinite_of_slope (hlow : value? low = some l) (hhigh : value? high = some h)
    (ha : value? a = some v) (hl : l ≤ v) (hh : v ≤ h) (hpos : 0 < h - l)
    (hsmall : h - l < tooGreat) {slope : Float}
    (hslope : slope = Scalar.ofNat 2 / (high - low)) :
    (a - low).isFinite = true ∧
      (slope.isFinite = true ↔ greatestNarrow < h - l) ∧
      (((a - low) * slope).isFinite = true ↔ greatestNarrow < h - l) ∧
      (((a - low) * slope - Scalar.ofNat 1).isFinite = true ↔ greatestNarrow < h - l) := by
  have hgrid := onGrid_sub hhigh hlow
  obtain ⟨width, hrounds, hvalue, -⟩ := exists_width hlow hhigh (hl.trans hh) 0.0
  obtain ⟨hvalue, hgreat⟩ := hvalue hsmall
  have hwidth : 0 < width := (hrounds.pos_iff hgrid hpos.le).2 hpos
  -- the distance is not greater than the width, rounded as well as exact
  obtain ⟨distance, hdistance⟩ := exists_roundsTo_sub ha hlow
  have hdistance_nonneg := hdistance.rounds.faithful.nonneg (sub_nonneg.2 hl)
  have hdistance_le : distance ≤ width :=
    hdistance.rounds.mono hrounds (sub_nonneg.2 hl) (by linarith)
  have hdistance_abs : |distance| ≤ greatestFinite := by
    rw [abs_of_nonneg hdistance_nonneg]
    exact hdistance_le.trans hgreat
  obtain ⟨quotient, hquotient⟩ := exists_roundsTo_div value?_two hvalue hwidth.ne'
  rw [← hslope] at hquotient
  have hfinite : slope.isFinite = true ↔ greatestNarrow < h - l :=
    (hquotient.isFinite_two_div_iff (fits_of_value? hvalue).1.onGrid hwidth).trans
      (hrounds.greatestNarrow_lt_iff hgrid)
  refine ⟨hdistance.isFinite_iff.2 hdistance_abs, hfinite, ?_⟩
  by_cases hwide : greatestNarrow < h - l
  · have hnonneg : 0 ≤ quotient := hquotient.rounds.faithful.nonneg (by positivity)
    obtain ⟨hproduct, himage⟩ := isFinite_of_mul_le_four (hdistance.value_of_le hdistance_abs)
      (hquotient.value_of_le (hquotient.isFinite_iff.1 (hfinite.2 hwide)))
      (mul_nonneg hdistance_nonneg hnonneg)
      (hquotient.rounds.mul_le_four hwidth hgreat hdistance_le)
    exact ⟨iff_of_true hproduct hwide, iff_of_true himage hwide⟩
  · -- what the slope is not, the others cannot be
    obtain ⟨hproduct, himage⟩ := isFinite_mul_eq_false (x := a - low)
      (Bool.eq_false_iff.2 (hfinite.not.2 hwide))
    rw [hproduct, himage]
    exact ⟨iff_of_false Bool.false_ne_true hwide, iff_of_false Bool.false_ne_true hwide⟩

/-- **How large the quantities of an axis become.** -/
theorem quantities (hlow : value? low = some l) (hhigh : value? high = some h)
    (ha : value? a = some v) (hl : l ≤ v) (hh : v ≤ h) (hflat : flat.isFinite = true) :
    Quantities low high flat a l h v := by
  have hle : v - l ≤ h - l := by linarith
  have hgrid := onGrid_sub hhigh hlow
  obtain ⟨-, -, -, hslope⟩ := exists_width hlow hhigh (hl.trans hh) flat
  have hwide (hpos : 0 < h - l) : ¬TooNarrow low high ↔ greatestNarrow < h - l := by
    rw [tooNarrow_iff hlow hhigh, and_iff_right hpos, not_le]
  have hsome : (Axis.new low high flat).slope.isSome = true
      ↔ 0 < h - l ∧ h - l < tooGreat := by
    rw [hslope]
    split <;> rename_i hboth
    · exact iff_of_true rfl hboth
    · exact iff_of_false Bool.false_ne_true hboth
  refine
    { slope_iff := hsome
      distance := ⟨sub_nonneg.2 hl, hle⟩
      slope_le_iff := fun hpos => (two_div_le_iff hgrid hpos).trans (hwide hpos).symm
      product := fun hpos => ?_
      isFinite_distance := fun h => ?_
      isFinite_slope_iff := fun slope h => ?_
      isFinite_map_iff := ?_ }
  · have htwo : (h - l) * (2 / (h - l)) = 2 := mul_div_cancel₀ _ hpos.ne'
    have hquotient : 0 ≤ 2 / (h - l) := by positivity
    exact ⟨mul_nonneg (sub_nonneg.2 hl) hquotient,
      (mul_le_mul_of_nonneg_right hle hquotient).trans_eq htwo⟩
  · obtain ⟨hpos, hsmall⟩ := hsome.1 h
    exact (isFinite_of_slope hlow hhigh ha hl hh hpos hsmall rfl).1
  · obtain ⟨hpos, hsmall⟩ := hsome.1 (Option.isSome_of_eq_some h)
    rw [hslope, if_pos ⟨hpos, hsmall⟩] at h
    obtain ⟨-, hfinite, hproduct, -⟩ := isFinite_of_slope hlow hhigh ha hl hh hpos hsmall
      (Option.some.inj h).symm
    exact ⟨hfinite.trans (hwide hpos).symm, hproduct.trans (hwide hpos).symm⟩
  · by_cases hboth : 0 < h - l ∧ h - l < tooGreat
    · obtain ⟨-, -, -, himage⟩ := isFinite_of_slope hlow hhigh ha hl hh hboth.1 hboth.2 rfl
      rw [map, hslope, if_pos hboth]
      exact himage.trans (hwide hboth.1).symm
    · rw [map, hslope, if_neg hboth]
      refine iff_of_true hflat fun hnarrow => hboth ?_
      obtain ⟨hpos, hnarrow⟩ := (tooNarrow_iff hlow hhigh).1 hnarrow
      exact ⟨hpos, (hnarrow.trans greatestNarrow_le_one).trans_lt one_lt_tooGreat⟩

/-- **An axis maps what lies in its range to a finite number**, unless the range is too narrow.
The ends need not be finite: then there is no slope. -/
theorem isFinite_map_iff (ha : a.isFinite = true) (hlow : ¬a < low) (hhigh : ¬high < a)
    (hflat : flat.isFinite = true) :
    ((Axis.new low high flat).map a).isFinite = true ↔ ¬TooNarrow low high := by
  obtain ⟨v, hv⟩ := isFinite_iff.1 ha
  have hends (hnone : value? high = none ∨ value? low = none) :
      ((Axis.new low high flat).map a).isFinite = true := by
    have hwidth := isFinite_eq_false_iff.2 (value?_sub_eq_none hnone)
    rw [map, slope_new, if_neg fun hboth => Bool.false_ne_true (hwidth.symm.trans hboth.2)]
    exact hflat
  rcases hl : value? low with - | l
  · refine iff_of_true (hends (Or.inr hl)) ?_
    rintro ⟨l, h, hsome, -⟩
    cases hl.symm.trans hsome
  rcases hh : value? high with - | h
  · refine iff_of_true (hends (Or.inl hh)) ?_
    rintro ⟨l, h, -, hsome, -⟩
    cases hh.symm.trans hsome
  rw [lt_iff_of_value? hv hl, not_lt] at hlow
  rw [lt_iff_of_value? hh hv, not_lt] at hhigh
  exact (quantities hl hh hv hlow hhigh hflat).isFinite_map_iff

end Axis

/-! ### Lines of finite samples -/

/-- **A finite sample in a window.** The ends of the window need not be finite. -/
structure Sample.FiniteIn (window : Window Float) (sample : Sample Float) : Prop where
  /-- Its time is finite. -/
  timestamp : sample.timestamp.isFinite = true
  /-- Its reading is finite. -/
  value : sample.value.isFinite = true
  /-- The window does not start after it. -/
  not_before : ¬sample.timestamp < window.min
  /-- The window does not end before it. -/
  not_behind : ¬window.max < sample.timestamp

instance (window : Window Float) (sample : Sample Float) :
    Decidable (sample.FiniteIn window) :=
  decidable_of_iff (sample.timestamp.isFinite = true ∧ sample.value.isFinite = true ∧
      ¬sample.timestamp < window.min ∧ ¬window.max < sample.timestamp)
    ⟨fun ⟨htimestamp, hvalue, hbefore, hbehind⟩ => ⟨htimestamp, hvalue, hbefore, hbehind⟩,
      fun h => ⟨h.timestamp, h.value, h.not_before, h.not_behind⟩⟩

namespace Line

open Axis (TooNarrow Quantities)
open Scalar (value? greatestFinite)

/-- The place of a sample is finite unless one of the two ranges is too narrow. -/
theorem isFinite_place_iff {samples : List (Sample Float)} {window : Window Float}
    {sample : Sample Float} {low high : Float} (hsample : sample.FiniteIn window)
    (hspans : Spans (samples.map Sample.value) low high) (hmem : sample ∈ samples)
    (haxis : valueAxis samples = Axis.new low high Axis.flatValue) :
    (place (timeAxis window) (valueAxis samples) sample).1.isFinite = true ∧
        (place (timeAxis window) (valueAxis samples) sample).2.isFinite = true
      ↔ ¬TooNarrow window.min window.max ∧ ¬TooNarrow low high := by
  have hreading : sample.value ∈ samples.map Sample.value := List.mem_map_of_mem hmem
  rw [haxis]
  refine and_congr ?_ ?_
  · exact Axis.isFinite_map_iff hsample.timestamp hsample.not_before hsample.not_behind
      (by decide +kernel)
  · exact Axis.isFinite_map_iff hsample.value (hspans.low.not_before _ hreading)
      (hspans.high.not_before _ hreading) (by decide +kernel)

/-- **What drawing computes is finite, unless a range is too narrow.** This holds of every number
in the range of an axis with finite ends, and so of every line: if its samples are finite and lie
in the window, its points are finite just if neither the window nor the range of the readings is
too narrow. -/
theorem isFinite_iff_not_tooNarrow {low high a flat : Float} {l h v : ℚ}
    (hlow : value? low = some l) (hhigh : value? high = some h) (ha : value? a = some v)
    (hl : l ≤ v) (hh : v ≤ h) (hflat : flat.isFinite = true) :
    Quantities low high flat a l h v ∧
    ∀ {slots : ℕ} {ring : Ring Float} {window : Window Float} {points : List (Float × Float)},
      points? slots ring window = some points →
        (∀ sample ∈ ring.toList, sample.FiniteIn window) →
          ∃ least greatest, Spans (ring.toList.map Sample.value) least greatest ∧
            ((∀ point ∈ points, point.1.isFinite = true ∧ point.2.isFinite = true)
              ↔ ¬TooNarrow window.min window.max ∧ ¬TooNarrow least greatest) := by
  refine ⟨Axis.quantities hlow hhigh ha hl hh hflat, ?_⟩
  intro slots ring window points hpoints hsamples
  obtain ⟨hsize, hslots, -⟩ := eq_stretch_of_points? hpoints
  have hne : ring.toList ≠ [] := List.ne_nil_of_length_pos (by rw [ring.length_toList]; omega)
  obtain ⟨least, greatest, hspans, haxis⟩ := exists_spans hne
  have hplace {point : Float × Float} (hmem : point ∈ points) :
      point.1.isFinite = true ∧ point.2.isFinite = true
        ↔ ¬TooNarrow window.min window.max ∧ ¬TooNarrow least greatest := by
    obtain ⟨sample, hsample, rfl⟩ := exists_of_mem_points? hpoints hmem
    exact isFinite_place_iff (hsamples sample hsample) hspans hsample haxis
  refine ⟨least, greatest, hspans, fun hfinite => ?_,
    fun hwide point hmem => (hplace hmem).2 hwide⟩
  -- there is a point, and one is enough
  have hpoint : points ≠ [] := List.ne_nil_of_length_pos (by rwa [length_of_points? hpoints])
  obtain ⟨point, rest, rfl⟩ := List.exists_cons_of_ne_nil hpoint
  exact (hplace List.mem_cons_self).1 (hfinite point List.mem_cons_self)

/-- Two samples whose readings differ by the least width that is not too narrow. -/
theorem isFinite_iff_not_tooNarrow_justWide :
    let ring : Ring Float := (Ring.new 2 (by decide)).pushAll
      [⟨0.0, 0.0⟩, ⟨Float.ofBits (2 ^ 51 + 1), 1.0⟩]
    Quantities 0.0 (Float.ofBits (2 ^ 51 + 1)) Axis.flatValue 0.0
        0 ((2 ^ 51 + 1) * 2 ^ (-1074 : ℤ)) 0 ∧
      (∀ sample ∈ ring.toList, sample.FiniteIn ⟨0.0, 1.0⟩) ∧
      ∃ points low high, points? 2 ring ⟨0.0, 1.0⟩ = some points ∧
        (∀ point ∈ points, point.1.isFinite = true ∧ point.2.isFinite = true) ∧
        Spans [0.0, Float.ofBits (2 ^ 51 + 1)] low high ∧ ¬TooNarrow low high := by
  intro ring
  have hsamples : ∀ sample ∈ ring.toList, sample.FiniteIn ⟨0.0, 1.0⟩ := by decide +kernel
  obtain ⟨points, hpoints⟩ := Option.isSome_iff_exists.1
    (show (points? 2 ring ⟨0.0, 1.0⟩).isSome = true by decide +kernel)
  have hfinite : ∀ points ∈ points? 2 ring ⟨0.0, 1.0⟩,
      ∀ point ∈ points, point.1.isFinite = true ∧ point.2.isFinite = true := by decide +kernel
  have hvalue : value? 0.0 = some 0 := by decide +kernel
  have hvalue' : value? (Float.ofBits (2 ^ 51 + 1)) = some ((2 ^ 51 + 1) * 2 ^ (-1074 : ℤ)) := by
    decide +kernel
  have hflat : (Axis.flatValue : Float).isFinite = true := by decide +kernel
  obtain ⟨hquantities, hline⟩ := isFinite_iff_not_tooNarrow hvalue hvalue' hvalue le_rfl
    (by positivity) hflat
  obtain ⟨low, high, hspans, hiff⟩ := hline hpoints hsamples
  have hreadings : ring.toList.map Sample.value = [0.0, Float.ofBits (2 ^ 51 + 1)] := by
    decide +kernel
  rw [hreadings] at hspans
  exact ⟨hquantities, hsamples, points, low, high, hpoints, hfinite points hpoints, hspans,
    (hiff.1 (hfinite points hpoints)).2⟩

/-- Two samples whose times are a second apart, and whose readings differ by as little as two
numbers can. The upper end of the line is infinite, and the lower one is no number. -/
theorem points?_leastDifference_notFinite :
    let ring : Ring Float :=
      (Ring.new 2 (by decide)).pushAll [⟨0.0, 0.0⟩, ⟨Float.ofBits 1, 1.0⟩]
    (∀ sample ∈ ring.toList, sample.FiniteIn ⟨0.0, 1.0⟩) ∧
      (points? 2 ring ⟨0.0, 1.0⟩).map (fun points => points.map fun point =>
          (point.2.isNaN, point.2.isInf))
        = some [(true, false), (false, true)] ∧
      ∃ l h, value? 0.0 = some l ∧ value? (Float.ofBits 1) = some h ∧ l ≤ h ∧
        (Axis.new 0.0 (Float.ofBits 1) Axis.flatValue).slope.isSome = true ∧
          greatestFinite < 2 / (h - l) := by
  refine ⟨by decide +kernel, by decide +kernel, 0, 2 ^ (-1074 : ℤ), ?_⟩
  decide +kernel

end Line

end StripChart
