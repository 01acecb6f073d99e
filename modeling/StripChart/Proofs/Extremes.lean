import Mathlib
import StripChart.Proofs.Lines

/-!
# The least and the greatest reading

What a line is drawn between is found by one walk through the readings of a channel, and these
may be any numbers of 64 bits: infinite ones, two zeros, and such as are no numbers. Here it is
shown that the walk ends with what one would call the least and the greatest of them
(`Line.exists_spans`), although it may well begin with what is no number.

The order of numbers of 64 bits is not a linear one, and it is no partial order of them either,
since what is no number stands nowhere and the two zeros stand at one place. All that is needed
of it is that the numbers proper can be put on a line in their order, more than one at a place
(`Scalar.lt_iff_rank`): a place goes by sign, then by exponent, then by mantissa. From this come
the three facts that the walk rests on (`Scalar.Ranking`), and these do not tell less from
greater, so that both ends of the range are one argument.
-/

namespace StripChart

namespace Scalar

open Float.Model (UnpackedFloat)

/-! ### The order of numbers of 64 bits -/

/-- **The place of a number** on a line of all numbers. Numbers of one sign go by their
exponents first; what is no number has to be put somewhere. -/
def rank : UnpackedFloat → ℤ ×ₗ ℤ ×ₗ ℤ
  | .infinity .negative => toLex (-2, toLex (0, 0))
  | .finite .negative mantissa exponent _ => toLex (-1, toLex (-exponent, -mantissa))
  | .zero _ => toLex (0, toLex (0, 0))
  | .finite .positive mantissa exponent _ => toLex (1, toLex (exponent, mantissa))
  | .infinity .positive => toLex (2, toLex (0, 0))
  | .notANumber => toLex (0, toLex (0, 0))

/-- Exponents are compared first, and then mantissas. -/
theorem then_compare_eq_lt_iff {exponent exponent' : ℤ} {mantissa mantissa' : ℕ} :
    (compare exponent exponent').then (compare mantissa mantissa') = .lt
      ↔ exponent < exponent' ∨ exponent = exponent' ∧ mantissa < mantissa' := by
  rw [Ordering.then_eq_lt, compare_lt_iff_lt, compare_eq_iff_eq, compare_lt_iff_lt]

theorem then_compare_eq_gt_iff {exponent exponent' : ℤ} {mantissa mantissa' : ℕ} :
    (compare exponent exponent').then (compare mantissa mantissa') = .gt
      ↔ exponent' < exponent ∨ exponent = exponent' ∧ mantissa' < mantissa := by
  rw [Ordering.then_eq_gt, compare_gt_iff_gt, compare_eq_iff_eq, compare_gt_iff_gt]

/-- **Numbers are compared by their places**, and what is no number is not compared. -/
theorem lt_unpacked_iff_rank {a b : UnpackedFloat} :
    a.lt b = true ↔ a.isNaN = false ∧ b.isNaN = false ∧ rank a < rank b := by
  have hsigns : compare UnpackedFloat.Sign.negative UnpackedFloat.Sign.positive = .lt := rfl
  -- one case for each kind and sign; only two numbers of one sign have to be looked into
  rcases a with (_ | _) | _ | _ | ⟨_ | _, mantissa, exponent, _⟩ <;>
    rcases b with (_ | _) | _ | _ | ⟨_ | _, mantissa', exponent', _⟩ <;>
    simp [UnpackedFloat.isNaN, UnpackedFloat.lt, UnpackedFloat.compare, rank, hsigns,
      then_compare_eq_lt_iff, then_compare_eq_gt_iff, Prod.Lex.toLex_lt_toLex]

theorem lt_iff_rank {a b : Float} :
    a < b ↔ a.isNaN = false ∧ b.isNaN = false ∧
      rank a.toModel.unpack < rank b.toModel.unpack :=
  decide_eq_true_iff.trans lt_unpacked_iff_rank

/-- The difference of what is no number to itself is no number either. -/
theorem isNaN_sub {a b : Float} (ha : a.isNaN = true) (hb : b.isNaN = true) :
    (a - b).isNaN = true := by
  have hunpacked (u : UnpackedFloat) (h : u.isNaN = true) : u = .notANumber := by
    cases u with
    | notANumber => rfl
    | _ => cases h
  show (Float.Model.pack (UnpackedFloat.sub .binary64 a.toModel.unpack b.toModel.unpack)).isNaN
    = true
  rw [hunpacked _ ha, hunpacked _ hb]
  decide

/-- **An order in which one walk finds the foremost.** What is no number stands nowhere, and a
number that stands between two others, or beside one of them, parts these. -/
structure Ranking (before : Float → Float → Prop) : Prop where
  /-- What is no number comes before nothing. -/
  not_before_left {a b : Float} (h : a.isNaN = true) : ¬before a b
  /-- Of two numbers one at most comes before the other. -/
  asymm {a b : Float} (h : before a b) : ¬before b a
  /-- A third number comes behind the first of them, or else before the second. -/
  parts {a c : Float} (h : before a c) {b : Float} (hb : b.isNaN = false) :
    before a b ∨ before b c

theorem ranking_lt : Ranking fun a b => a < b where
  not_before_left h hlt := by
    obtain ⟨ha, -, -⟩ := lt_iff_rank.1 hlt
    exact Bool.false_ne_true (ha.symm.trans h)
  asymm h h' := lt_asymm (lt_iff_rank.1 h).2.2 (lt_iff_rank.1 h').2.2
  parts h b hb := by
    obtain ⟨ha, hc, hlt⟩ := lt_iff_rank.1 h
    rcases lt_or_ge (rank _) (rank b.toModel.unpack) with hab | hba
    · exact Or.inl (lt_iff_rank.2 ⟨ha, hb, hab⟩)
    · exact Or.inr (lt_iff_rank.2 ⟨hb, hc, hba.trans_lt hlt⟩)

theorem ranking_gt : Ranking fun a b => b < a where
  not_before_left h hlt := by
    obtain ⟨-, ha, -⟩ := lt_iff_rank.1 hlt
    exact Bool.false_ne_true (ha.symm.trans h)
  asymm h h' := ranking_lt.asymm h h'
  parts h b hb := (ranking_lt.parts h hb).symm

/-! ### The foremost of some numbers -/

/-- The foremost of two; if neither comes before the other, the second, unless that is no
number. -/
def pick (before : Float → Float → Prop) [DecidableRel before] (a b : Float) : Float :=
  if b.isNaN then a else if before a b then a else b

/-- **The foremost of some numbers** is one of them, and none comes before it. It is no number
only if none of them is. -/
structure Foremost (before : Float → Float → Prop) (numbers : List Float) (a : Float) : Prop where
  /-- It is one of them. -/
  mem : a ∈ numbers
  /-- None comes before it. -/
  not_before : ∀ b ∈ numbers, ¬before b a
  /-- If there is a number among them, it is one. -/
  isNaN_of_isNaN : a.isNaN = true → ∀ b ∈ numbers, b.isNaN = true

section Walk

variable {before : Float → Float → Prop} [DecidableRel before] {numbers : List Float} {a : Float}

/-- **One step of the walk.** -/
theorem Foremost.concat (h : Foremost before numbers a) (hranking : Ranking before) (b : Float) :
    Foremost before (numbers ++ [b]) (pick before a b) := by
  rw [pick]
  cases hb : b.isNaN with
  | true =>
    rw [if_pos rfl]
    refine ⟨List.mem_append_left _ h.mem, ?_, ?_⟩
    · simp only [List.forall_mem_append, List.forall_mem_singleton]
      exact ⟨h.not_before, hranking.not_before_left hb⟩
    · intro ha
      simp only [List.forall_mem_append, List.forall_mem_singleton]
      exact ⟨h.isNaN_of_isNaN ha, hb⟩
  | false =>
    rw [if_neg Bool.false_ne_true]
    by_cases hbefore : before a b
    · rw [if_pos hbefore]
      refine ⟨List.mem_append_left _ h.mem, ?_, fun ha => ?_⟩
      · simp only [List.forall_mem_append, List.forall_mem_singleton]
        exact ⟨h.not_before, hranking.asymm hbefore⟩
      · exact absurd hbefore (hranking.not_before_left ha)
    · rw [if_neg hbefore]
      refine ⟨List.mem_append_right _ List.mem_cons_self, ?_, fun hnan => ?_⟩
      · simp only [List.forall_mem_append, List.forall_mem_singleton]
        refine ⟨fun c hc hcb => ?_, fun hbb => hranking.asymm hbb hbb⟩
        cases ha : a.isNaN with
        | true => exact hranking.not_before_left (h.isNaN_of_isNaN ha c hc) hcb
        | false =>
          -- what comes before the new one would come before the old, or else that before the new
          rcases hranking.parts hcb ha with hca | hab
          · exact h.not_before c hc hca
          · exact hbefore hab
      · exact absurd (hb.symm.trans hnan) Bool.false_ne_true

/-- **The walk ends with the foremost.** -/
theorem foremost_foldl (hranking : Ranking before) (first : Float) (rest : List Float) :
    Foremost before (first :: rest) (rest.foldl (pick before) first) := by
  suffices h : ∀ numbers a, Foremost before numbers a →
      Foremost before (numbers ++ rest) (rest.foldl (pick before) a) by
    refine h [first] first ⟨List.mem_cons_self, ?_, ?_⟩
    · exact List.forall_mem_singleton.2 fun hself => hranking.asymm hself hself
    · exact fun hnan => List.forall_mem_singleton.2 hnan
  induction rest with
  | nil =>
    intro numbers a h
    rwa [List.append_nil]
  | cons b rest ih =>
    intro numbers a h
    have hstep := ih (numbers ++ [b]) (pick before a b) (h.concat hranking b)
    rwa [List.append_assoc, List.singleton_append] at hstep

end Walk

end Scalar

/-! ### The range of the readings -/

namespace Line

/-- **Readings span a range**: from the least of them to the greatest. -/
structure Spans (readings : List Float) (low high : Float) : Prop where
  /-- No reading is less. -/
  low : Scalar.Foremost (fun a b => a < b) readings low
  /-- No reading is greater. -/
  high : Scalar.Foremost (fun a b => b < a) readings high

/-- The two ends of a range are found one beside the other. -/
theorem foldl_range_eq {α : Type} [Scalar α] (samples : List (Sample α)) (range : α × α) :
    samples.foldl (fun range sample =>
        (Scalar.least range.1 sample.value, Scalar.greatest range.2 sample.value)) range
      = ((samples.map Sample.value).foldl Scalar.least range.1,
          (samples.map Sample.value).foldl Scalar.greatest range.2) := by
  induction samples generalizing range with
  | nil => rfl
  | cons sample rest ih => exact ih _

/-- **The axis of readings goes from the least of them to the greatest.** -/
theorem exists_spans {samples : List (Sample Float)} (hne : samples ≠ []) :
    ∃ low high, Spans (samples.map Sample.value) low high ∧
      valueAxis samples = Axis.new low high Axis.flatValue := by
  obtain ⟨first, rest, rfl⟩ := List.exists_cons_of_ne_nil hne
  refine ⟨_, _, ⟨Scalar.foremost_foldl Scalar.ranking_lt first.value (rest.map Sample.value),
    Scalar.foremost_foldl Scalar.ranking_gt first.value (rest.map Sample.value)⟩, ?_⟩
  rw [valueAxis, valueRange?, foldl_range_eq]
  rfl

/-- A range that is not one of numbers has no width. -/
theorem Spans.map_of_isNaN {readings : List Float} {low high : Float}
    (h : Spans readings low high) (hnan : ∀ reading ∈ readings, reading.isNaN = true)
    (flat a : Float) : (Axis.new low high flat).map a = flat := by
  have hspan : (high - low).isNaN = true :=
    Scalar.isNaN_sub (hnan high h.high.mem) (hnan low h.low.mem)
  have hpos : Scalar.isPositive (high - low) = false := by
    refine decide_eq_false fun hlt => ?_
    obtain ⟨-, hnumber, -⟩ := Scalar.lt_iff_rank.1 hlt
    exact Bool.false_ne_true (hnumber.symm.trans hspan)
  rw [Axis.map, Axis.new, hpos]
  rfl

end Line

end StripChart
