import Mathlib
import StripChart.Proofs.FiniteNumbers

/-!
# What spells a number

A number is read from a text by cutting its parts off the front, a sign, digits, a point and more
digits, a power of ten, and a name may stand in the place of all but the sign. Here it is said
which texts are numbers without any cutting, by a grammar (`Decimal.Spells`). A finite number is
read from a text just if the text spells it (`Decimal.parse?_eq_some_iff`). The grammar has no
names, since what has a name is not finite.

That a part is cut off where it ends depends on what is behind it: no digit behind digits, and no
sign where a sign is left out. So there is, for the parts that come behind others, a fact about
their front (`Decimal.IsDigits.ne_sign`, `Decimal.IsPower.front`,
`Decimal.SpellsMagnitude.front`).
-/

namespace StripChart

namespace Decimal

/-! ### Spelling -/

/-- The characters are digits, if there are any. -/
def IsDigits (text : List Char) : Prop :=
  ∀ c ∈ text, c.isDigit = true

/-- **A text is a sign**, and says whether it is a minus. -/
inductive IsSign : List Char → Bool → Prop
  /-- It may be left out. -/
  | none : IsSign [] false
  /-- A plus. -/
  | plus : IsSign ['+'] false
  /-- A minus. -/
  | minus : IsSign ['-'] true

/-- **A text is a point with the digits behind it**, of which there may be none. -/
inductive IsFraction : List Char → List Char → Prop
  /-- It may be left out. -/
  | none : IsFraction [] []
  /-- A point. -/
  | point {places : List Char} (h : IsDigits places) : IsFraction ('.' :: places) places

/-- **A text is a power of ten.** -/
inductive IsPower : List Char → Int → Prop
  /-- It may be left out. -/
  | none : IsPower [] 0
  /-- The letter, small or great, and a whole number behind it. -/
  | letter {c : Char} {sign digits : List Char} {negative : Bool} (hletter : c = 'e' ∨ c = 'E')
    (hsign : IsSign sign negative) (hdigits : IsDigits digits) (hsome : digits ≠ []) :
    IsPower (c :: (sign ++ digits)) (if negative then -(ofDigits digits : Int) else ofDigits digits)

/-- **A text spells a magnitude**: digits around a point, at least one of them, and a power of
ten. -/
inductive SpellsMagnitude : List Char → Decimal → Prop
  /-- The digits are read as one whole number. -/
  | intro {whole fraction places power : List Char} {exponent : Int} (hwhole : IsDigits whole)
    (hfraction : IsFraction fraction places) (hsome : whole ≠ [] ∨ places ≠ [])
    (hpower : IsPower power exponent) :
    SpellsMagnitude (whole ++ (fraction ++ power))
      ⟨ofDigits (whole ++ places), exponent - places.length⟩

/-- **A text spells a number**: a magnitude with a sign. -/
inductive Spells : List Char → Float → Prop
  /-- It is the nearest number of 64 bits. -/
  | intro {sign text : List Char} {negative : Bool} {size : Decimal} (hsign : IsSign sign negative)
    (hsize : SpellsMagnitude text size) :
    Spells (sign ++ text) (if negative then -size.toFloat else size.toFloat)

/-! ### The parts of a numeral -/

theorem splitDigits_spec {text digits rest : List Char} (h : splitDigits text = (digits, rest)) :
    IsDigits digits ∧ text = digits ++ rest := by
  obtain ⟨rfl, rfl⟩ := Prod.mk.inj h
  exact ⟨fun _ hmem => List.mem_takeWhile_imp hmem, List.takeWhile_append_dropWhile.symm⟩

/-- Digits by themselves are all digits. -/
theorem splitDigits_of_isDigits {digits : List Char} (h : IsDigits digits) :
    splitDigits digits = (digits, []) := by
  have hsplit := Json.splitDigits_append_of h (show splitDigits [] = ([], []) from rfl)
  rwa [List.append_nil] at hsplit

/-- A sign is cut off the front of a text, unless the text goes on with one where there is
none. -/
theorem splitSign_append {sign text : List Char} {negative : Bool} (h : IsSign sign negative)
    (htext : ∀ c ∈ text.head?, c ≠ '-' ∧ c ≠ '+') :
    splitSign (sign ++ text) = (negative, text) := by
  cases h with
  | plus => rfl
  | minus => rfl
  | none =>
    rw [List.nil_append, splitSign.eq_def]
    split
    · exact absurd rfl (htext '-' rfl).1
    · exact absurd rfl (htext '+' rfl).2
    · rfl

theorem splitSign_spec (text : List Char) :
    ∃ sign, IsSign sign (splitSign text).1 ∧ text = sign ++ (splitSign text).2 := by
  rw [splitSign.eq_def]
  split
  · exact ⟨_, .minus, rfl⟩
  · exact ⟨_, .plus, rfl⟩
  · exact ⟨_, .none, rfl⟩

/-- A digit is no sign, no point and no letter. -/
theorem ne_of_isDigit {c : Char} (h : c.isDigit = true) {other : Char}
    (hother : other.isDigit = false) : c ≠ other := by
  rintro rfl
  exact Bool.false_ne_true (hother.symm.trans h)

/-- Where digits are at the front there is no sign. -/
theorem IsDigits.ne_sign {digits rest : List Char} (h : IsDigits digits) (hsome : digits ≠ []) :
    ∀ c ∈ (digits ++ rest).head?, c ≠ '-' ∧ c ≠ '+' := by
  intro c hc
  cases digits with
  | nil => exact absurd rfl hsome
  | cons first more =>
    obtain rfl : first = c := Option.some.inj hc
    have hdigit := h first List.mem_cons_self
    exact ⟨ne_of_isDigit hdigit (by decide), ne_of_isDigit hdigit (by decide)⟩

/-- **A power of ten is read to the end** just if the text is one. -/
theorem exists_scanExponent?_iff {text : List Char} {exponent : Int} :
    (∃ found, scanExponent? text = some (found, []) ∧ found.getD 0 = exponent) ↔
      IsPower text exponent := by
  constructor
  · rintro ⟨found, hfound, rfl⟩
    cases text with
    | nil =>
      obtain rfl := (Prod.mk.inj (Option.some.inj hfound)).1
      exact .none
    | cons c rest =>
      rw [scanExponent?] at hfound
      split at hfound
      · -- behind the letter there has to be a digit, and nothing may be left over
        rename_i hletter
        obtain ⟨sign, hsign, hrest⟩ := splitSign_spec rest
        generalize splitSign rest = signed at hfound hsign hrest
        obtain ⟨negative, digits⟩ := signed
        subst hrest
        rcases hsplit : splitDigits digits with ⟨_ | ⟨first, more⟩, after⟩
        · rw [hsplit] at hfound
          cases hfound
        · rw [hsplit] at hfound
          obtain ⟨rfl, rfl⟩ := Prod.mk.inj (Option.some.inj hfound)
          obtain ⟨hdigits, rfl⟩ := splitDigits_spec hsplit
          rw [List.append_nil, Option.getD_some]
          exact .letter hletter hsign hdigits (List.cons_ne_nil first more)
      · cases hfound
  · rintro (_ | ⟨hletter, hsign, hdigits, hsome⟩)
    · exact ⟨none, rfl, rfl⟩
    · rename_i c sign digits negative
      have hnosign : ∀ c ∈ (digits ++ []).head?, c ≠ '-' ∧ c ≠ '+' := hdigits.ne_sign hsome
      rw [List.append_nil] at hnosign
      refine ⟨some (if negative then -(ofDigits digits : Int) else ofDigits digits), ?_, rfl⟩
      rw [scanExponent?, if_pos hletter, splitSign_append hsign hnosign,
        splitDigits_of_isDigits hdigits]
      cases digits with
      | nil => exact absurd rfl hsome
      | cons first more => rfl

/-- A power of ten has no digit at its front, and no point. -/
theorem IsPower.front {text : List Char} {exponent : Int} (h : IsPower text exponent) :
    splitDigits text = ([], text) ∧ ∀ rest, text ≠ '.' :: rest := by
  cases h with
  | none => exact ⟨rfl, fun rest => (List.cons_ne_nil _ _).symm⟩
  | letter hletter hsign hdigits hsome =>
    rcases hletter with rfl | rfl <;>
      exact ⟨rfl, fun rest heq => absurd (List.cons.inj heq).1 (by decide)⟩

/-- What is read when the digits are cut off and the power of ten is to come. -/
def closeDigits? (whole places rest : List Char) : Option Float :=
  if whole.isEmpty && places.isEmpty then none
  else do
    let (exponent, rest) ← scanExponent? rest
    if rest.isEmpty then
      return toFloat ⟨ofDigits (whole ++ places), exponent.getD 0 - places.length⟩
    else none

theorem closeDigits?_eq_some_iff {whole places rest : List Char} {x : Float} :
    closeDigits? whole places rest = some x ↔
      (whole ≠ [] ∨ places ≠ []) ∧ ∃ exponent, IsPower rest exponent ∧
        x = toFloat ⟨ofDigits (whole ++ places), exponent - places.length⟩ := by
  have hsome : (whole.isEmpty && places.isEmpty) = true ↔ ¬(whole ≠ [] ∨ places ≠ []) := by
    rw [Bool.and_eq_true, List.isEmpty_iff, List.isEmpty_iff, not_or, not_not, not_not]
  rw [closeDigits?]
  by_cases hempty : (whole.isEmpty && places.isEmpty) = true
  · rw [if_pos hempty]
    exact ⟨fun h => absurd h (Option.some_ne_none x).symm,
      fun h => absurd h.1 (hsome.1 hempty)⟩
  · rw [if_neg hempty, and_iff_right (not_not.1 (mt hsome.2 hempty))]
    constructor
    · intro h
      obtain ⟨⟨found, more⟩, hfound, h⟩ := Option.bind_eq_some_iff.1 h
      cases more with
      | nil => exact ⟨found.getD 0, exists_scanExponent?_iff.1 ⟨found, hfound, rfl⟩,
          (Option.some.inj h).symm⟩
      | cons c more => cases h
    · rintro ⟨exponent, hpower, rfl⟩
      obtain ⟨found, hfound, rfl⟩ := exists_scanExponent?_iff.2 hpower
      rw [hfound]
      rfl

/-- With a point behind the first digits, more digits are read. -/
theorem parseDigits?_of_point {text whole more places rest : List Char}
    (hwhole : splitDigits text = (whole, '.' :: more))
    (hplaces : splitDigits more = (places, rest)) :
    parseDigits? text = closeDigits? whole places rest := by
  rw [parseDigits?, hwhole]
  change closeDigits? whole (splitDigits more).1 (splitDigits more).2 = _
  rw [hplaces]

/-- Without one, there are no more. -/
theorem parseDigits?_of_ne_point {text whole rest : List Char}
    (hwhole : splitDigits text = (whole, rest)) (hpoint : ∀ more, rest ≠ '.' :: more) :
    parseDigits? text = closeDigits? whole [] rest := by
  rw [parseDigits?, hwhole]
  dsimp only
  split
  · exact absurd rfl (hpoint _)
  · rfl

/-- **A magnitude is read** just if the text spells one. -/
theorem parseDigits?_eq_some_iff {text : List Char} {x : Float} :
    parseDigits? text = some x ↔ ∃ size, SpellsMagnitude text size ∧ x = size.toFloat := by
  constructor
  · intro h
    rcases hsplit : splitDigits text with ⟨whole, after⟩
    obtain ⟨hwhole, rfl⟩ := splitDigits_spec hsplit
    by_cases hpoint : ∃ more, after = '.' :: more
    · obtain ⟨more, rfl⟩ := hpoint
      rcases hmore : splitDigits more with ⟨places, rest⟩
      rw [parseDigits?_of_point hsplit hmore, closeDigits?_eq_some_iff] at h
      obtain ⟨hsome, exponent, hpower, rfl⟩ := h
      obtain ⟨hplaces, rfl⟩ := splitDigits_spec hmore
      exact ⟨_, .intro hwhole (.point hplaces) hsome hpower, rfl⟩
    · rw [parseDigits?_of_ne_point hsplit (not_exists.1 hpoint), closeDigits?_eq_some_iff] at h
      obtain ⟨hsome, exponent, hpower, rfl⟩ := h
      exact ⟨_, .intro hwhole .none hsome hpower, rfl⟩
  · rintro ⟨size, ⟨hwhole, hfraction, hsome, hpower⟩, rfl⟩
    -- the power behind the digits is not taken for more of them, and not for a point
    obtain ⟨hfront, hpoint⟩ := hpower.front
    cases hfraction with
    | none =>
      rw [List.nil_append,
        parseDigits?_of_ne_point (Json.splitDigits_append_of hwhole hfront) hpoint]
      exact closeDigits?_eq_some_iff.2 ⟨hsome, _, hpower, rfl⟩
    | point hplaces =>
      rw [List.cons_append, parseDigits?_of_point (Json.splitDigits_append_of hwhole rfl)
        (Json.splitDigits_append_of hplaces hfront)]
      exact closeDigits?_eq_some_iff.2 ⟨hsome, _, hpower, rfl⟩

/-! ### Names and signs -/

/-- A digit is no letter. -/
theorem isAlpha_of_isDigit {c : Char} (h : c.isDigit = true) : c.isAlpha = false := by
  have hrange : 48 ≤ c.toNat ∧ c.toNat ≤ 57 := Char.isDigit_iff_toNat.1 h
  simp [Char.isAlpha, Char.isUpper, Char.isLower, UInt32.le_iff_toNat_le]
  omega

/-- A magnitude starts with a digit or a point. -/
theorem SpellsMagnitude.front {text : List Char} {size : Decimal} (h : SpellsMagnitude text size) :
    ∃ c rest, text = c :: rest ∧ c.isAlpha = false ∧ c ≠ '-' ∧ c ≠ '+' := by
  obtain ⟨hwhole, hfraction, hsome, -⟩ := h
  rename_i whole fraction places power exponent
  cases whole with
  | cons c more =>
    have hdigit := hwhole c List.mem_cons_self
    exact ⟨c, _, rfl, isAlpha_of_isDigit hdigit, ne_of_isDigit hdigit (by decide),
      ne_of_isDigit hdigit (by decide)⟩
  | nil =>
    cases hfraction with
    | point => exact ⟨'.', _, rfl, by decide, by decide, by decide⟩
    | none => exact absurd rfl (hsome.resolve_left (absurd rfl))

/-- What starts with no letter is none of the names. -/
theorem parseMagnitude?_cons {c : Char} {rest : List Char} (h : c.isAlpha = false) :
    parseMagnitude? (c :: rest) = parseDigits? (c :: rest) := by
  have hletter : ∀ first more, first.isAlpha = true →
      (c :: rest).map Char.toLower ≠ first :: more := by
    intro first more hfirst heq
    rw [List.map_cons] at heq
    rw [← (List.cons.inj heq).1, Char.isAlpha_toLower_eq_isAlpha, h] at hfirst
    exact Bool.false_ne_true hfirst
  have hinfinity : (c :: rest).map Char.toLower ∉ infinityNames := by
    rw [infinityNames, List.mem_cons, List.mem_singleton, not_or]
    exact ⟨hletter 'i' _ (by decide), hletter 'i' _ (by decide)⟩
  have hname : (c :: rest).map Char.toLower ≠ notANumberName := hletter 'n' _ (by decide)
  rw [parseMagnitude?, if_neg hinfinity, if_neg hname]

/-- **A finite magnitude is read** just if the text spells one: what has a name is not
finite. -/
theorem parseMagnitude?_eq_some_iff {text : List Char} {x : Float} (hfinite : x.isFinite = true) :
    parseMagnitude? text = some x ↔ ∃ size, SpellsMagnitude text size ∧ x = size.toFloat := by
  rw [← parseDigits?_eq_some_iff]
  constructor
  · intro h
    rw [parseMagnitude?] at h
    -- the first two cases are those of a name
    split at h
    · obtain rfl := Option.some.inj h
      exact absurd hfinite (by decide +kernel)
    · split at h
      · obtain rfl := Option.some.inj h
        exact absurd hfinite (by decide +kernel)
      · exact h
  · intro h
    obtain ⟨size, hsize, -⟩ := parseDigits?_eq_some_iff.1 h
    obtain ⟨c, rest, rfl, hletter, -⟩ := hsize.front
    rw [parseMagnitude?_cons hletter, h]

/-- A sign leaves a number as finite as it was. -/
theorem isFinite_signed (negative : Bool) (size : Float) :
    (if negative = true then -size else size).isFinite = size.isFinite := by
  cases negative with
  | true => exact Scalar.isFinite_neg size
  | false => rfl

/-- **A finite number is read from a text** just if the text spells it, white space around it
left out of account. -/
theorem parse?_eq_some_iff {text : String} {x : Float} (hfinite : x.isFinite = true) :
    parse? text = some x ↔ Spells (Blank.trim text.toList) x := by
  constructor
  · intro h
    rw [parse?] at h
    obtain ⟨sign, hsign, htext⟩ := splitSign_spec (Blank.trim text.toList)
    generalize splitSign (Blank.trim text.toList) = signed at h hsign htext
    obtain ⟨negative, magnitude⟩ := signed
    obtain ⟨size, hsize, rfl⟩ := Option.map_eq_some_iff.1 h
    rw [isFinite_signed] at hfinite
    obtain ⟨d, hspells, rfl⟩ := (parseMagnitude?_eq_some_iff hfinite).1 hsize
    rw [htext]
    exact .intro hsign hspells
  · intro h
    rw [parse?]
    generalize Blank.trim text.toList = text at h
    obtain ⟨hsign, hspells⟩ := h
    rename_i sign magnitude negative size
    obtain ⟨c, rest, rfl, -, hc⟩ := hspells.front
    -- where the sign is left out, none may be cut off
    have hnosign : ∀ first ∈ (c :: rest).head?, first ≠ '-' ∧ first ≠ '+' := by
      intro first hfirst
      obtain rfl : c = first := Option.some.inj hfirst
      exact hc
    rw [isFinite_signed] at hfinite
    rw [splitSign_append hsign hnosign]
    dsimp only
    rw [(parseMagnitude?_eq_some_iff hfinite).2 ⟨size, hspells, rfl⟩]
    rfl

end Decimal

end StripChart
