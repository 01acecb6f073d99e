import Mathlib
import StripChart.Proofs.Overflow
import StripChart.Proofs.Records

/-!
# Numbers that are read are finite

A numeral may be as long as it likes, and name any power of ten. Still there is no infinity in a
message that is received (`Received.allFinite_of_ofPayload`): what has a numeral that is too great
is no message at all.

There are two ways for a numeral. One with a point or a power, or with too many digits, is checked
when it is rounded. A whole number of 64 bits is kept as it is and not checked. It is finite
because whole numbers of that size are far below the greatest finite number
(`Scalar.isFinite_ofNat`), and for this the rounding has to be looked at.

From numerals to values the property goes along with the reading. What is read has two parts, what
is open around and what has been read inside, and each token keeps both finite
(`Json.Reading.IsFinite.step?`).
-/

namespace StripChart

namespace Scalar

open Float.Model (UnpackedFloat totalExponent)
open Float.Model.UnpackedFloat (Sign)

/-! ### The opposite of a number -/

/-- **The opposite of a finite number is finite**, and that of any other is not. -/
theorem isFinite_neg (x : Float) : (-x).isFinite = x.isFinite := by
  have hneg : value? (-x)
      = unpackedValue? (Float.Model.pack x.toModel.unpack.neg).unpack := value?_eq (-x)
  rw [← isSome_value?, ← isSome_value?, hneg]
  rcases hx : value? x with - | a
  · rcases value?_eq_none_cases hx with ⟨sign, hunpack⟩ | hunpack <;> rw [hunpack]
    · exact congrArg Option.isSome (unpackedValue?_infinity (-sign))
    · exact congrArg Option.isSome unpackedValue?_notANumber
  · rcases value?_cases hx with ⟨sign, hunpack, -⟩ |
      ⟨sign, mantissa, exponent, hpos, hunpack, -, hformat, hgreatest⟩ <;> rw [hunpack]
    · rw [UnpackedFloat.neg, unpack_pack_zero]
      rfl
    · rw [UnpackedFloat.neg, unpack_pack_finite _ hformat hpos, if_pos hgreatest,
        unpackedValue?_finite]
      rfl

/-! ### Whole numbers -/

/-- What may be written in 64 bits is far below the greatest finite number. -/
theorem two_pow_le_greatestFinite : (2 ^ (64 : ℤ) : ℚ) ≤ greatestFinite := by
  have hfactor : (1 : ℚ) ≤ 2 ^ 53 - 1 := by norm_num
  calc (2 ^ (64 : ℤ) : ℚ) ≤ 2 ^ (971 : ℤ) := zpow_le_zpow_right₀ one_le_two (by norm_num)
    _ = 1 * 2 ^ (971 : ℤ) := (one_mul _).symm
    _ ≤ greatestFinite := mul_le_mul_of_nonneg_right hfactor (zpow_pos two_pos 971).le

theorem natCast_le_two_zpow {n : ℕ} (h : n ≤ Nat.pow 2 64) : (n : ℚ) ≤ 2 ^ (64 : ℤ) := by
  have hcast : ((Nat.pow 2 64 : ℕ) : ℚ) = 2 ^ (64 : ℤ) := by
    rw [show Nat.pow 2 64 = 2 ^ 64 from rfl, Nat.cast_pow]
    rfl
  rw [← hcast]
  exact Nat.cast_le.2 h

/-- A whole number of few bits is stored as it is. -/
theorem value?_toFloat {n : ℕ} (h : n < 2 ^ 53) : value? n.toUInt64.toFloat = some (n : ℚ) := by
  have hn : (n.toUInt64.toNat : ℤ) = n := by
    rw [show n.toUInt64.toNat = n from Nat.mod_eq_of_lt (h.trans (by norm_num))]
  obtain ⟨rounded, hround⟩ := exists_roundsTo_normalize n 0 .positive
  rw [zpow_zero, mul_one, Int.cast_natCast] at hround
  obtain rfl := hround.rounds.faithful.eq (fits_natCast h)
  have hfinite : |(n : ℚ)| ≤ greatestFinite := by
    rw [abs_of_nonneg n.cast_nonneg]
    exact (natCast_le_two_zpow (h.le.trans (by norm_num))).trans two_pow_le_greatestFinite
  have hvalue := hround.value_of_le hfinite
  rwa [← hn] at hvalue

/-- **A whole number is rounded**, by one of two ways: one of few bits is what it is, and a
longer one is rounded as a product with one. -/
theorem exists_roundsTo_ofNat (n : ℕ) : ∃ rounded, RoundsTo n rounded (Float.ofNat n) := by
  by_cases hfew : n < 2 ^ 53
  · have hone : value? (Float.ofBits 0x3FF0000000000000) = some 1 := by decide +kernel
    have hproduct : Float.ofNat n = n.toUInt64.toFloat * Float.ofBits 0x3FF0000000000000 := by
      show Float.ofScientific n false 0 = _
      rw [Float.ofScientific, dif_pos ⟨hfew, by norm_num⟩, if_neg Bool.false_ne_true]
      rfl
    obtain ⟨rounded, hround⟩ := exists_roundsTo_mul (value?_toFloat hfew) hone
    rw [mul_one] at hround
    exact ⟨rounded, hproduct ▸ hround⟩
  · have hpos : 0 < n := (Nat.two_pow_pos 53).trans_le (not_lt.1 hfew)
    have hproduct : Float.ofNat n = Float.ofModel (Float.Model.pack
        (UnpackedFloat.roundWithAccuracy .binary64 .positive (n <<< 53 * 1) (-53 + 0) .exact)) := by
      show Float.ofScientific n false 0 = _
      rw [Float.ofScientific, dif_neg fun h => hfew h.1]
      show Float.ofModel (Float.Model.pack (UnpackedFloat.ofScientific .binary64 n 0)) = _
      rw [UnpackedFloat.ofScientific, dif_neg hpos.ne', if_neg (by norm_num),
        if_neg (by have := Int.natCast_nonneg n.log2; norm_num), if_pos le_rfl]
      rfl
    have hsize : (n : ℚ) / 2 ^ (-53 + 0 : ℤ) = (n <<< 53 * 1 : ℕ) := by
      rw [mul_one, Nat.shiftLeft_eq, add_zero, zpow_neg, div_inv_eq_mul]
      push_cast
      rfl
    have hlong : (-53 + 0 : ℤ) ≤ max (totalExponent (n <<< 53 * 1) (-53 + 0) - 53) (-1074) := by
      rw [totalExponent, mul_one, log2_shiftLeft hpos]
      omega
    have hround := exists_roundsTo_roundWithAccuracy n.cast_nonneg
      (hsize ▸ Approximates.ofMantissa _) hlong .positive
    rw [hproduct]
    exact hround

/-- **A whole number of 64 bits is a finite number.** -/
theorem isFinite_ofNat {n : ℕ} (h : n ≤ Nat.pow 2 64) : (Float.ofNat n).isFinite = true := by
  obtain ⟨rounded, hround⟩ := exists_roundsTo_ofNat n
  refine hround.isFinite_iff.2 ((hround.abs_rounded_le (fits_two_zpow (by norm_num)) ?_).trans
    two_pow_le_greatestFinite)
  rw [abs_of_nonneg n.cast_nonneg]
  exact natCast_le_two_zpow h

theorem isFinite_ofInt {value : ℤ} (h : value.natAbs ≤ Nat.pow 2 64) :
    (Float.ofInt value).isFinite = true := by
  cases value with
  | ofNat n => exact isFinite_ofNat h
  | negSucc n => exact (isFinite_neg _).trans (isFinite_ofNat h)

end Scalar

/-! ### Numerals -/

namespace Json

/-- **A numeral makes a finite number**, or none. -/
theorem isFinite_of_numberOf? {negative : Bool} {whole : List Char}
    {fraction : Option (List Char)} {exponent : Option Int} {number : Number}
    (h : numberOf? negative whole fraction exponent = some number) :
    number.toFloat.isFinite = true := by
  rw [numberOf?] at h
  split at h
  · -- a whole number without a sign
    rename_i hwhole
    obtain rfl := Option.some.inj h
    have hlt : Decimal.ofDigits whole < Nat.pow 2 64 :=
      of_decide_eq_true (Bool.and_eq_true_iff.1 hwhole).2
    exact Scalar.isFinite_ofInt hlt.le
  · split at h
    · -- a whole number with a minus sign
      rename_i hwhole
      obtain rfl := Option.some.inj h
      have hle : Decimal.ofDigits whole ≤ Nat.pow 2 63 :=
        of_decide_eq_true (Bool.and_eq_true_iff.1 hwhole).2
      refine Scalar.isFinite_ofInt ?_
      rw [Int.natAbs_neg, Int.natAbs_natCast]
      exact hle.trans (by decide)
    · simp only at h
      split at h
      · rename_i hfinite
        obtain rfl := Option.some.inj h
        cases negative with
        | true => exact (Scalar.isFinite_neg _).trans hfinite
        | false => exact hfinite
      · cases h

theorem isFinite_of_scanUnsigned? {negative : Bool} {text after : List Char} {number : Number}
    (h : scanUnsigned? negative text = some (number, after)) :
    number.toFloat.isFinite = true := by
  simp only [scanUnsigned?, bind, Option.bind_eq_some_iff] at h
  obtain ⟨⟨whole, text₁⟩, -, ⟨fraction, text₂⟩, -, ⟨exponent, text₃⟩, -, found, hfound, hpair⟩ := h
  obtain ⟨rfl, -⟩ := Prod.mk.inj (Option.some.inj hpair)
  exact isFinite_of_numberOf? hfound

theorem isFinite_of_scanNumber? {text after : List Char} {number : Number}
    (h : scanNumber? text = some (number, after)) : number.toFloat.isFinite = true := by
  unfold scanNumber? at h
  split at h <;> exact isFinite_of_scanUnsigned? h

namespace Token

/-- If the token is a numeral then its number is finite. -/
def IsFinite (token : Token) : Prop :=
  ∀ number, token = .number number → number.toFloat.isFinite = true

theorem isFinite_of_scanOne? {text after : List Char} {token : Token}
    (h : scanOne? text = some (token, after)) : token.IsFinite := by
  rintro number rfl
  unfold scanOne? at h
  split at h
  case h_11 =>
    obtain ⟨found, hfound, hpair⟩ := Option.map_eq_some_iff.1 h
    obtain ⟨hnumber, -⟩ := Prod.mk.inj hpair
    exact Token.number.inj hnumber ▸ isFinite_of_scanNumber? hfound
  case h_10 =>
    obtain ⟨found, -, hpair⟩ := Option.map_eq_some_iff.1 h
    exact Token.noConfusion (Prod.mk.inj hpair).1
  all_goals cases h

/-- **The numerals of a text are of finite numbers.** -/
theorem isFinite_of_scan? {text : List Char} {tokens : List Token} (h : scan? text = some tokens) :
    ∀ token ∈ tokens, token.IsFinite := by
  fun_induction scan? text generalizing tokens with
  | case1 text hgap =>
    obtain rfl := Option.some.inj h
    exact List.forall_mem_nil _
  | case2 text c rest hgap hscan => cases h
  | case3 text c rest hgap token after hscan ih =>
    obtain ⟨others, hothers, rfl⟩ := Option.map_eq_some_iff.1 h
    exact List.forall_mem_cons.2 ⟨isFinite_of_scanOne? hscan, ih hothers⟩

end Token

/-! ### Values -/

/-- **All numbers in the value are finite.** -/
inductive AllFinite : Json → Prop
  /-- There is none. -/
  | null : AllFinite .null
  /-- There is none. -/
  | bool (value : Bool) : AllFinite (.bool value)
  /-- The number is. -/
  | number {value : Number} (h : value.toFloat.isFinite = true) : AllFinite (.number value)
  /-- There is none. -/
  | string (value : String) : AllFinite (.string value)
  /-- Those in the elements are. -/
  | array {elements : List Json} (h : ∀ element ∈ elements, AllFinite element) :
    AllFinite (.array elements)
  /-- Those in the values of the entries are. -/
  | object {entries : List (String × Json)} (h : ∀ entry ∈ entries, AllFinite entry.2) :
    AllFinite (.object entries)

namespace Reading

/-- All numbers in what is open have been finite. -/
def OpenFinite : Open → Prop
  | .array elements => ∀ element ∈ elements, element.AllFinite
  | .object entries _ => ∀ entry ∈ entries, entry.2.AllFinite

/-- All numbers have been finite in what has been read of the value that is expected to go on. -/
def ExpectingFinite : Expecting → Prop
  | .key entries => ∀ entry ∈ entries, entry.2.AllFinite
  | .colon entries _ => ∀ entry ∈ entries, entry.2.AllFinite
  | .elementEnd elements => ∀ element ∈ elements, element.AllFinite
  | .entryEnd entries => ∀ entry ∈ entries, entry.2.AllFinite
  | .nothing value => value.AllFinite
  | _ => True

/-- **All numbers that have been read are finite.** -/
structure IsFinite (reading : Reading) : Prop where
  /-- Those in the arrays and objects around. -/
  around : ∀ outer ∈ reading.around, OpenFinite outer
  /-- Those in what comes next. -/
  expecting : ExpectingFinite reading.expecting

theorem IsFinite.complete {value : Json} {around : List Open} (hvalue : value.AllFinite)
    (haround : ∀ outer ∈ around, OpenFinite outer) : (complete value around).IsFinite := by
  rcases around with - | ⟨⟨elements⟩ | ⟨entries, key⟩, rest⟩
  · exact ⟨List.forall_mem_nil _, hvalue⟩
  · obtain ⟨houter, hrest⟩ := List.forall_mem_cons.1 haround
    exact ⟨hrest, List.forall_mem_cons.2 ⟨hvalue, houter⟩⟩
  · obtain ⟨houter, hrest⟩ := List.forall_mem_cons.1 haround
    refine ⟨hrest, fun entry hmem => ?_⟩
    rcases Entries.mem_insert hmem with rfl | hmem
    · exact hvalue
    · exact houter entry hmem

theorem IsFinite.beginValue? {around : List Open} {token : Token} {next : Reading}
    (h : Reading.beginValue? around token = some next)
    (haround : ∀ outer ∈ around, OpenFinite outer) (htoken : token.IsFinite) : next.IsFinite := by
  cases token with
  | null => exact Option.some.inj h ▸ .complete .null haround
  | bool value => exact Option.some.inj h ▸ .complete (.bool value) haround
  | number value => exact Option.some.inj h ▸ .complete (.number (htoken value rfl)) haround
  | string value => exact Option.some.inj h ▸ .complete (.string value) haround
  | openArray =>
    rw [Reading.beginValue?] at h
    split at h
    · exact Option.some.inj h ▸ ⟨haround, trivial⟩
    · cases h
  | openObject =>
    rw [Reading.beginValue?] at h
    split at h
    · exact Option.some.inj h ▸ ⟨haround, trivial⟩
    · cases h
  | _ => cases h

/-- **One more token is read.** -/
theorem IsFinite.step? {reading next : Reading} {token : Token} (hfinite : reading.IsFinite)
    (htoken : token.IsFinite) (h : reading.step? token = some next) : next.IsFinite := by
  obtain ⟨around, expecting⟩ := reading
  obtain ⟨haround, hexpecting⟩ := hfinite
  cases expecting with
  | value => exact .beginValue? h haround htoken
  | elementOrEnd =>
    by_cases hclose : token = .closeArray
    · subst hclose
      exact Option.some.inj h ▸ .complete (.array (List.forall_mem_nil _)) haround
    · rw [step?_elementOrEnd hclose] at h
      exact .beginValue? h (List.forall_mem_cons.2 ⟨List.forall_mem_nil _, haround⟩) htoken
  | keyOrEnd =>
    cases token with
    | closeObject => exact Option.some.inj h ▸ .complete (.object (List.forall_mem_nil _)) haround
    | string key => exact Option.some.inj h ▸ ⟨haround, List.forall_mem_nil _⟩
    | _ => cases h
  | key entries =>
    cases token with
    | string key => exact Option.some.inj h ▸ ⟨haround, hexpecting⟩
    | _ => cases h
  | colon entries key =>
    cases token with
    | colon => exact Option.some.inj h ▸ ⟨List.forall_mem_cons.2 ⟨hexpecting, haround⟩, trivial⟩
    | _ => cases h
  | elementEnd elements =>
    cases token with
    | comma => exact Option.some.inj h ▸ ⟨List.forall_mem_cons.2 ⟨hexpecting, haround⟩, trivial⟩
    | closeArray =>
      have helements : ∀ element ∈ elements.reverse, element.AllFinite :=
        fun element hmem => hexpecting element (List.mem_reverse.1 hmem)
      exact Option.some.inj h ▸ .complete (.array helements) haround
    | _ => cases h
  | entryEnd entries =>
    cases token with
    | comma => exact Option.some.inj h ▸ ⟨haround, hexpecting⟩
    | closeObject => exact Option.some.inj h ▸ .complete (.object hexpecting) haround
    | _ => cases h
  | nothing value => cases token <;> cases h

/-- **A row of tokens is read.** -/
theorem IsFinite.foldlM {reading last : Reading} {tokens : List Token}
    (hfinite : reading.IsFinite) (htokens : ∀ token ∈ tokens, token.IsFinite)
    (h : tokens.foldlM Reading.step? reading = some last) : last.IsFinite := by
  induction tokens generalizing reading with
  | nil => exact Option.some.inj h ▸ hfinite
  | cons token rest ih =>
    obtain ⟨htoken, hrest⟩ := List.forall_mem_cons.1 htokens
    obtain ⟨next, hnext, hlast⟩ := Option.bind_eq_some_iff.1 h
    exact ih (hfinite.step? htoken hnext) hrest hlast

end Reading

/-- **All numbers of a text are finite**, if it is the text of a value at all. -/
theorem allFinite_of_decode? {bytes : List UInt8} {value : Json} (h : decode? bytes = some value) :
    value.AllFinite := by
  obtain ⟨text, -, hparse⟩ := Option.bind_eq_some_iff.1 h
  obtain ⟨tokens, hscan, hvalue⟩ := Option.bind_eq_some_iff.1 hparse
  obtain ⟨last, hlast, hcomplete⟩ := Option.bind_eq_some_iff.1 hvalue
  have hstart : Reading.start.IsFinite := ⟨List.forall_mem_nil _, trivial⟩
  have hfinite := hstart.foldlM (Token.isFinite_of_scan? hscan) hlast
  obtain ⟨around, expecting⟩ := last
  cases expecting with
  | nothing other => exact Option.some.inj hcomplete ▸ hfinite.expecting
  | _ => cases hcomplete

end Json

/-- **A message that is received has finite numbers only.** -/
theorem Received.allFinite_of_ofPayload {payload : Bytes} {said : Message}
    (h : Received.ofPayload payload = .message said) :
    ∀ entry ∈ said.entries, entry.2.AllFinite := by
  rw [ofPayload] at h
  split at h
  · rename_i entries hdecode
    obtain rfl := Received.message.inj h
    cases Json.allFinite_of_decode? hdecode with
    | object hentries => exact fun entry hmem => hentries entry (Entries.mem_of_mem_ofList hmem)
  · cases h
  · cases h

end StripChart
