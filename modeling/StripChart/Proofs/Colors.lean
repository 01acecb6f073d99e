import Mathlib
import StripChart.Color

/-!
# Which texts are colors

A color is read by cutting. White space is cut off the two ends of a text and number signs off
the front of the rest, and the components are cut out of what is left by places in bytes. Here it
is said without cutting which texts are colors, and which colors they are (`Color.parse_grammar`).

What is left is described by what was around it (`Color.Remains`), and it is the only text that
fits the description (`Color.digits_eq_iff`). Six or eight digits are described by the bytes that
they spell (`Hex.Spells`): they are what is written for these bytes, if their case does not count.
So a color that is written spells the bytes of its components once more, now in lower case, and
is read again.

That the written color has the same bytes is a fact about numbers of 32 bits. A component is a
byte divided by 255 and rounded, and multiplied by 255 it is rounded again; that this gives the
byte back has no reason but that it does, 256 times (`Color.step_component`).
-/

namespace StripChart

/-! ### White space at the ends -/

/-- **What is left behind a front** all of which has a property. -/
theorem dropWhile_eq_iff {α : Type} {p : α → Bool} {text rest : List α} :
    text.dropWhile p = rest ↔
      ∃ front, text = front ++ rest ∧ (∀ a ∈ front, p a = true) ∧
        ∀ a ∈ rest.head?, p a = false := by
  constructor
  · rintro rfl
    refine ⟨text.takeWhile p, List.takeWhile_append_dropWhile.symm,
      fun a ha => List.mem_takeWhile_imp ha, fun a ha => ?_⟩
    have hhead := List.head?_dropWhile_not p text
    rw [Option.mem_def.1 ha] at hhead
    exact hhead
  · rintro ⟨front, rfl, hfront, hhead⟩
    rw [List.dropWhile_append_of_pos hfront]
    cases rest with
    | nil => rfl
    | cons a rest => rw [List.dropWhile_cons, hhead a rfl, if_neg Bool.false_ne_true]

namespace Blank

/-- **What is left of a text** without the white space at its two ends. -/
structure Trims (text inner : List Char) : Prop where
  /-- There is white space around it, if there is anything. -/
  around : ∃ before after, text = before ++ (inner ++ after) ∧
    (∀ c ∈ before, isBlank c = true) ∧ ∀ c ∈ after, isBlank c = true
  /-- It does not start with white space. -/
  head : ∀ c ∈ inner.head?, isBlank c = false
  /-- Nor does it end with any. -/
  last : ∀ c ∈ inner.getLast?, isBlank c = false

theorem dropEndWhile_eq_iff {p : Char → Bool} {text rest : List Char} :
    dropEndWhile p text = rest ↔
      ∃ back, text = rest ++ back ∧ (∀ c ∈ back, p c = true) ∧
        ∀ c ∈ rest.getLast?, p c = false := by
  rw [dropEndWhile, List.reverse_eq_iff, dropWhile_eq_iff, List.head?_reverse]
  constructor
  · rintro ⟨front, htext, hfront, hhead⟩
    rw [List.reverse_eq_iff, List.reverse_append, List.reverse_reverse] at htext
    exact ⟨front.reverse, htext, fun c hc => hfront c (List.mem_reverse.1 hc), hhead⟩
  · rintro ⟨back, rfl, hback, hlast⟩
    exact ⟨back.reverse, List.reverse_append, fun c hc => hback c (List.mem_reverse.1 hc), hlast⟩

theorem trim_eq_iff {text inner : List Char} : trim text = inner ↔ Trims text inner := by
  rw [trim, dropEndWhile_eq_iff]
  constructor
  · rintro ⟨after, hrest, hafter, hlast⟩
    obtain ⟨before, htext, hbefore, hhead⟩ := dropWhile_eq_iff.1 hrest
    refine ⟨⟨before, after, htext, hbefore, hafter⟩, fun c hc => hhead c ?_, hlast⟩
    rw [List.head?_append, Option.mem_def.1 hc]
    rfl
  · rintro ⟨⟨before, after, htext, hbefore, hafter⟩, hhead, hlast⟩
    cases inner with
    | nil =>
      -- all is white space, and it goes from the front
      refine ⟨[], ?_, fun _ hc => absurd hc List.not_mem_nil, hlast⟩
      rw [htext, List.nil_append, List.append_nil, List.dropWhile_append_of_pos hbefore]
      exact dropWhile_eq_iff.2 ⟨after, (List.append_nil after).symm, hafter, by simp⟩
    | cons c inner =>
      exact ⟨after, dropWhile_eq_iff.2 ⟨before, htext, hbefore, hhead⟩, hafter, hlast⟩

end Blank

namespace Color

/-- **What remains of a text** without the white space at its two ends and without the number
signs in front of the rest. -/
def Remains (text rest : List Char) : Prop :=
  ∃ inner signs, Blank.Trims text inner ∧ inner = signs ++ rest ∧ (∀ c ∈ signs, c = '#') ∧
    rest.head? ≠ some '#'

theorem digits_eq_iff {text : String} {rest : List Char} :
    digits text = rest ↔ Remains text.toList rest := by
  rw [digits, dropWhile_eq_iff]
  simp only [beq_iff_eq, beq_eq_false_iff_ne]
  constructor
  · rintro ⟨signs, htrim, hsigns, hhead⟩
    exact ⟨_, signs, Blank.trim_eq_iff.1 rfl, htrim, hsigns, fun h => hhead '#' h rfl⟩
  · rintro ⟨inner, signs, htrims, rfl, hsigns, hhead⟩
    refine ⟨signs, Blank.trim_eq_iff.2 htrims, hsigns, ?_⟩
    rintro c hc rfl
    exact hhead hc

end Color

/-! ### Digits and bytes -/

namespace Hex

/-- The digits in base sixteen, in both cases. -/
def alphabet : List Char :=
  ['0', '1', '2', '3', '4', '5', '6', '7', '8', '9', 'a', 'b', 'c', 'd', 'e', 'f', 'A', 'B', 'C',
    'D', 'E', 'F']

theorem isDigit_iff {c : Char} : isDigit c = true ↔ c ∈ alphabet := by
  constructor
  · intro h
    obtain ⟨n, hvalue⟩ := isDigit_iff_exists.1 h
    exact of_forall_code (p := fun c => isDigit c = true → c ∈ alphabet) (by decide)
      (toNat_lt_of_value? hvalue) h
  · have hall : alphabet.all isDigit = true := by decide
    exact List.all_eq_true.1 hall c

theorem isBlank_of_isDigit {c : Char} (h : isDigit c = true) : Blank.isBlank c = false := by
  have hall : alphabet.all (fun c => !Blank.isBlank c) = true := by decide
  have hc := List.all_eq_true.1 hall c (isDigit_iff.1 h)
  rwa [Bool.not_eq_true'] at hc

/-- The case of a character does not count. -/
theorem value?_toLower (c : Char) : value? c.toLower = value? c := by
  by_cases hupper : c.isUpper = true
  · have hlt : c.toNat < 128 := by
      rw [Char.isUpper, decide_eq_true_eq] at hupper
      exact (UInt32.le_iff_toNat_le.1 hupper.2).trans_lt (by decide)
    exact of_forall_code (p := fun c => value? c.toLower = value? c) (by decide) hlt
  · rw [Char.toLower_eq_of_not_isUpper hupper]

theorem value?_eq_some_iff {c : Char} {n : ℕ} :
    value? c = some n ↔ n < 16 ∧ c.toLower = digit n := by
  refine ⟨lt_and_toLower_of_value?, ?_⟩
  rintro ⟨hlt, hlower⟩
  rw [← value?_toLower, hlower, value?_digit hlt]

/-- **Characters spell bytes**: in lower case they are what is written for them, two digits for
each. -/
def Spells (text : List Char) (bytes : List UInt8) : Prop :=
  text.map Char.toLower = bytes.flatMap fun byte => byteChars byte.toNat

variable {text : List Char} {byte : UInt8} {bytes : List UInt8}

theorem Spells.map_toLower (h : Spells text bytes) :
    text.map Char.toLower = bytes.flatMap fun byte => byteChars byte.toNat :=
  h

theorem spells_cons_iff :
    Spells text (byte :: bytes) ↔ ∃ high low rest, text = high :: low :: rest ∧
      value? high = some (byte.toNat / 16) ∧ value? low = some (byte.toNat % 16) ∧
      Spells rest bytes := by
  have hbyte := byte.toNat_lt
  have hhigh : byte.toNat / 16 < 16 := by omega
  have hlow : byte.toNat % 16 < 16 := by omega
  constructor
  · intro h
    rw [Spells, List.flatMap_cons, byteChars, List.cons_append, List.cons_append, List.nil_append,
      List.map_eq_cons_iff] at h
    obtain ⟨high, more, rfl, hhigh', hmore⟩ := h
    obtain ⟨low, rest, rfl, hlow', hrest⟩ := List.map_eq_cons_iff.1 hmore
    exact ⟨high, low, rest, rfl, value?_eq_some_iff.2 ⟨hhigh, hhigh'⟩,
      value?_eq_some_iff.2 ⟨hlow, hlow'⟩, hrest⟩
  · rintro ⟨high, low, rest, rfl, hhigh', hlow', hrest⟩
    rw [Spells, List.map_cons, List.map_cons, toLower_of_value? hhigh', toLower_of_value? hlow',
      hrest.map_toLower]
    rfl

/-- The bytes behind others are spelled behind them. -/
theorem Spells.drop {front : List UInt8} (h : Spells text (front ++ bytes)) :
    Spells (text.drop (2 * front.length)) bytes := by
  induction front generalizing text with
  | nil => exact h
  | cons byte front ih =>
    obtain ⟨high, low, rest, rfl, -, -, hrest⟩ := spells_cons_iff.1 h
    rw [List.length_cons, Nat.mul_succ, List.drop_succ_cons, List.drop_succ_cons]
    exact ih hrest

/-- The bytes in front of others are spelled in front of them. -/
theorem Spells.take (front : List UInt8) (h : Spells text (front ++ bytes)) :
    Spells (text.take (2 * front.length)) front := by
  induction front generalizing text with
  | nil => rfl
  | cons byte front ih =>
    obtain ⟨high, low, rest, rfl, hhigh, hlow, hrest⟩ := spells_cons_iff.1 h
    rw [List.length_cons, Nat.mul_succ, List.take_succ_cons, List.take_succ_cons]
    exact spells_cons_iff.2 ⟨high, low, _, rfl, hhigh, hlow, ih hrest⟩

theorem Spells.toLower (h : Spells text bytes) : Spells (text.map Char.toLower) bytes := by
  refine Eq.trans ?_ h
  rw [List.map_map]
  exact List.map_congr_left fun c _ => Char.toLower_toLower_eq_toLower c

theorem Spells.length_eq (h : Spells text bytes) : text.length = 2 * bytes.length := by
  induction bytes generalizing text with
  | nil => rw [List.map_eq_nil_iff.1 h]; rfl
  | cons byte bytes ih =>
    obtain ⟨high, low, rest, rfl, -, -, hrest⟩ := spells_cons_iff.1 h
    rw [List.length_cons, List.length_cons, List.length_cons, ih hrest]
    omega

theorem Spells.isDigit (h : Spells text bytes) : ∀ c ∈ text, isDigit c = true := by
  induction bytes generalizing text with
  | nil =>
    rw [List.map_eq_nil_iff.1 h]
    exact fun _ hc => absurd hc List.not_mem_nil
  | cons byte bytes ih =>
    obtain ⟨high, low, rest, rfl, hhigh, hlow, hrest⟩ := spells_cons_iff.1 h
    intro c hc
    rcases List.mem_cons.1 hc with rfl | hc
    · exact isDigit_iff_exists.2 ⟨_, hhigh⟩
    rcases List.mem_cons.1 hc with rfl | hc
    · exact isDigit_iff_exists.2 ⟨_, hlow⟩
    · exact ih hrest c hc

/-- **Digits that come in pairs spell bytes.** -/
theorem exists_spells (hdigits : ∀ c ∈ text, isDigit c = true) {n : ℕ}
    (hlength : text.length = 2 * n) : ∃ bytes, Spells text bytes ∧ bytes.length = n := by
  induction n generalizing text with
  | zero => exact ⟨[], by rw [List.length_eq_zero_iff.1 hlength]; rfl, rfl⟩
  | succ n ih =>
    obtain ⟨high, low, rest, rfl⟩ : ∃ high low rest, text = high :: low :: rest := by
      match text, hlength with
      | high :: low :: rest, _ => exact ⟨high, low, rest, rfl⟩
    obtain ⟨m, hhigh⟩ := isDigit_iff_exists.1 (hdigits high (by simp))
    obtain ⟨k, hlow⟩ := isDigit_iff_exists.1 (hdigits low (by simp))
    obtain ⟨bytes, hspells, hbytes⟩ := ih (fun c hc => hdigits c (by simp [hc]))
      (show rest.length = 2 * n by simp only [List.length_cons] at hlength; omega)
    have hm := value?_lt hhigh
    have hk := value?_lt hlow
    have hbyte : (UInt8.ofNat (m * 16 + k)).toNat = m * 16 + k :=
      UInt8.toNat_ofNat_of_lt' (show m * 16 + k < 256 by omega)
    refine ⟨UInt8.ofNat (m * 16 + k) :: bytes, spells_cons_iff.2 ⟨high, low, rest, rfl, ?_, ?_,
      hspells⟩, by rw [List.length_cons, hbytes]⟩
    · rw [hbyte, hhigh, show (m * 16 + k) / 16 = m by omega]
    · rw [hbyte, hlow, show (m * 16 + k) % 16 = k by omega]

end Hex

namespace Color

/-! ### Components -/

/-- **The step nearest to a byte divided by 255 is that byte.** -/
theorem step_component (byte : UInt8) : step (byte.toFloat32 / 255.0) = byte.toNat := by
  -- the quotient is rounded and so is its product with 255, so the one does not undo the other by
  -- any law; but it does so for every byte
  have hall : ∀ n : Fin 256, step (component n) = n := by decide +kernel
  have := hall ⟨byte.toNat, byte.toNat_lt⟩
  rwa [component, UInt8.ofNat_toNat] at this

/-- **Digits show a color**: two of them spell the byte of a component, which is divided by 255.
The last component may be left out and is one then. -/
inductive Shows : List Char → Color → Prop
  /-- Six digits. -/
  | three {digits : List Char} (r g b : UInt8) (h : Hex.Spells digits [r, g, b]) :
    Shows digits ⟨r.toFloat32 / 255.0, g.toFloat32 / 255.0, b.toFloat32 / 255.0, 1.0⟩
  /-- Eight digits. -/
  | four {digits : List Char} (r g b a : UInt8) (h : Hex.Spells digits [r, g, b, a]) :
    Shows digits ⟨r.toFloat32 / 255.0, g.toFloat32 / 255.0, b.toFloat32 / 255.0,
      a.toFloat32 / 255.0⟩

theorem Shows.isWritten {digits : List Char} {color : Color} (h : Shows digits color) :
    isWritten digits = true := by
  cases h with
  | three r g b h => exact isWritten_iff.2 ⟨Or.inl h.length_eq, h.isDigit⟩
  | four r g b a h => exact isWritten_iff.2 ⟨Or.inr h.length_eq, h.isDigit⟩

theorem exists_shows_iff {digits : List Char} :
    (∃ color, Shows digits color) ↔ isWritten digits = true := by
  constructor
  · rintro ⟨color, hshows⟩
    exact hshows.isWritten
  · intro h
    obtain ⟨hlength, hdigits⟩ := isWritten_iff.1 h
    rcases hlength with hshort | hlong
    · obtain ⟨bytes, hspells, hbytes⟩ := Hex.exists_spells hdigits (n := 3) hshort
      match bytes, hbytes with
      | [r, g, b], _ => exact ⟨_, .three r g b hspells⟩
    · obtain ⟨bytes, hspells, hbytes⟩ := Hex.exists_spells hdigits (n := 4) hlong
      match bytes, hbytes with
      | [r, g, b, a], _ => exact ⟨_, .four r g b a hspells⟩

section Reading

variable {text : String} {color : Color}

/-- What is read is what the cuts give, since all of them can be made. -/
theorem run_parse? (text : String) : (parse? text).run = some (parse text) :=
  (Option.some_get (isSome_parse? text)).symm

/-- A component is cut out behind the bytes in front of it. -/
theorem componentAt_of_spells (front : List UInt8) {bytes : List UInt8} {byte : UInt8}
    (h : Hex.Spells (digits text) (front ++ byte :: bytes)) :
    componentAt text (2 * front.length) = pure (byte.toFloat32 / 255.0) := by
  obtain ⟨high, low, rest, hdrop, hhigh, hlow, -⟩ := Hex.spells_cons_iff.1 h.drop
  rw [componentAt_eq h.isDigit hdrop hhigh hlow, component, Nat.div_add_mod', UInt8.ofNat_toNat]

theorem parse_of_spells {r g b : UInt8} {bytes : List UInt8} {alpha : Float32}
    (h : Hex.Spells (digits text) (r :: g :: b :: bytes))
    (hwritten : isWritten (digits text) = true) (halpha : alphaOf text = pure alpha) :
    parse text
      = .ok ⟨r.toFloat32 / 255.0, g.toFloat32 / 255.0, b.toFloat32 / 255.0, alpha⟩ := by
  have hred : componentAt text 0 = _ := componentAt_of_spells [] h
  have hgreen : componentAt text 2 = _ := componentAt_of_spells [r] h
  have hblue : componentAt text 4 = _ := componentAt_of_spells [r, g] h
  have hrun := run_parse? text
  rw [parse?, if_pos hwritten, halpha, hred, hgreen, hblue] at hrun
  exact (Option.some.inj hrun).symm

theorem parse_of_shows (h : Shows (digits text) color) : parse text = .ok color := by
  have hwritten := h.isWritten
  cases h with
  | three r g b h =>
    refine parse_of_spells h hwritten ?_
    rw [alphaOf, Hex.size_eq_length h.isDigit, h.length_eq]
    rfl
  | four r g b a h =>
    refine parse_of_spells h hwritten ?_
    rw [alphaOf, Hex.size_eq_length h.isDigit, h.length_eq]
    exact componentAt_of_spells [r, g, b] h

/-- Anything else is refused. -/
theorem parse_of_not_isWritten (h : isWritten (digits text) = false) :
    parse text = .error ⟨text⟩ := by
  have hrun := run_parse? text
  rw [parse?, h, if_neg Bool.false_ne_true] at hrun
  exact (Option.some.inj hrun).symm

/-- **A color is read from a text** just if the digits of the text show it. -/
theorem parse_eq_ok_iff : parse text = .ok color ↔ Shows (digits text) color := by
  refine ⟨fun hparse => ?_, parse_of_shows⟩
  cases hwritten : isWritten (digits text) with
  | false =>
    rw [parse_of_not_isWritten hwritten] at hparse
    cases hparse
  | true =>
    obtain ⟨shown, hshows⟩ := exists_shows_iff.2 hwritten
    rw [parse_of_shows hshows] at hparse
    exact Except.ok.inj hparse ▸ hshows

end Reading

/-! ### Writing -/

section Writing

variable {digits : List Char} {color : Color}

theorem Shows.exists_bytes (h : Shows digits color) :
    ∃ r g b, Hex.Spells (digits.take 6) [r, g, b] ∧
      color = ⟨r.toFloat32 / 255.0, g.toFloat32 / 255.0, b.toFloat32 / 255.0, color.alpha⟩ := by
  cases h with
  | three r g b h => exact ⟨r, g, b, h.take [r, g, b], rfl⟩
  | four r g b a h => exact ⟨r, g, b, h.take [r, g, b], rfl⟩

/-- **What is written is the first six digits** in lower case. -/
theorem Shows.toText_eq (h : Shows digits color) :
    color.toText = String.ofList ('#' :: (digits.take 6).map Char.toLower) := by
  obtain ⟨r, g, b, hspells, hcolor⟩ := h.exists_bytes
  rw [hcolor, toText, step_component, step_component, step_component, hspells.map_toLower]
  rfl

/-- They show the same color without its fourth component. -/
theorem Shows.take (h : Shows digits color) :
    Shows ((digits.take 6).map Char.toLower) { color with alpha := 1.0 } := by
  obtain ⟨r, g, b, hspells, hcolor⟩ := h.exists_bytes
  rw [hcolor]
  exact .three r g b hspells.toLower

/-- Behind a number sign digits remain as they are. -/
theorem digits_ofList (h : ∀ c ∈ digits, Hex.isDigit c = true) :
    Color.digits (String.ofList ('#' :: digits)) = digits := by
  have hblank : ∀ c ∈ '#' :: digits, Blank.isBlank c = false := by
    intro c hc
    rcases List.mem_cons.1 hc with rfl | hc
    · decide
    · exact Hex.isBlank_of_isDigit (h c hc)
  rw [digits_eq_iff, String.toList_ofList]
  refine ⟨'#' :: digits, ['#'], ⟨⟨[], [], ?_, by simp, by simp⟩, ?_, ?_⟩, rfl, by simp, ?_⟩
  · rw [List.nil_append, List.append_nil]
  · exact fun c hc => hblank c (List.mem_of_mem_head? hc)
  · exact fun c hc => hblank c (List.mem_of_mem_getLast? hc)
  · intro hsign
    exact absurd (h '#' (List.mem_of_mem_head? hsign)) (by decide)

end Writing

/-! ### The colors in text -/

/-- **A text is a color just if six or eight digits remain of it.** They show the color, which is
written as the first six of them in lower case, and this is read as the same color without its
fourth component. With any other character among what remains, be it a sign or a space or one of
several bytes, the text is refused, and it comes back as it was. On the way no character is cut in
two. -/
theorem parse_grammar (text : String) :
    (parse? text).run = some (parse text) ∧
      ((∃ color, parse text = .ok color) ↔
        ∃ rest, Remains text.toList rest ∧ (rest.length = 6 ∨ rest.length = 8) ∧
          ∀ c ∈ rest, c ∈ Hex.alphabet) ∧
      (∀ color rest, parse text = .ok color → Remains text.toList rest →
        Shows rest color ∧
          color.toText = String.ofList ('#' :: (rest.take 6).map Char.toLower) ∧
          parse color.toText = .ok { color with alpha := 1.0 }) ∧
      (∀ rest c, Remains text.toList rest → c ∈ rest → c ∉ Hex.alphabet →
        (parse? text).run = some (.error ⟨text⟩)) ∧
      ∀ error, parse text = .error error → error.text = text := by
  refine ⟨run_parse? text, ?_, ?_, ?_, ?_⟩
  · have hwritten : (∃ color, parse text = .ok color) ↔ isWritten (digits text) = true := by
      simp only [parse_eq_ok_iff, exists_shows_iff]
    rw [hwritten, isWritten_iff]
    constructor
    · rintro ⟨hlength, hdigits⟩
      exact ⟨_, digits_eq_iff.1 rfl, hlength, fun c hc => Hex.isDigit_iff.1 (hdigits c hc)⟩
    · rintro ⟨rest, hrest, hlength, hdigits⟩
      obtain rfl := digits_eq_iff.2 hrest
      exact ⟨hlength, fun c hc => Hex.isDigit_iff.2 (hdigits c hc)⟩
  · intro color rest hparse hrest
    obtain rfl := digits_eq_iff.2 hrest
    have hshows := parse_eq_ok_iff.1 hparse
    refine ⟨hshows, hshows.toText_eq, parse_eq_ok_iff.2 ?_⟩
    rw [hshows.toText_eq, digits_ofList (isWritten_iff.1 hshows.take.isWritten).2]
    exact hshows.take
  · intro rest c hrest hc hother
    obtain rfl := digits_eq_iff.2 hrest
    rw [run_parse?, parse_of_not_isWritten]
    exact Bool.eq_false_iff.2 fun hwritten =>
      hother (Hex.isDigit_iff.1 ((isWritten_iff.1 hwritten).2 c hc))
  · intro error hparse
    cases hwritten : isWritten (digits text) with
    | false =>
      rw [parse_of_not_isWritten hwritten] at hparse
      cases hparse
      rfl
    | true =>
      obtain ⟨color, hshows⟩ := exists_shows_iff.2 hwritten
      rw [parse_eq_ok_iff.2 hshows] at hparse
      cases hparse

/-- White space of three kinds, two number signs and digits in both cases. -/
def mixedCase : String :=
  "\u3000 ##Ff8000aA\n"

theorem parse_grammar_mixedCase :
    let color : Color := ⟨component 255, component 128, component 0, component 170⟩
    parse mixedCase = .ok color ∧ color.toText = "#ff8000" ∧
      parse "#ff8000" = .ok { color with alpha := 1.0 } ∧
      -- two characters of three bytes each
      (parse? "\u20ac\u20ac").run = some (.error ⟨"\u20ac\u20ac"⟩) := by
  intro color
  have hparse : parse mixedCase = .ok color := rfl
  have hremains : Remains mixedCase.toList "Ff8000aA".toList := digits_eq_iff.1 rfl
  obtain ⟨-, -, hread, -⟩ := parse_grammar mixedCase
  obtain ⟨-, htext, hagain⟩ := hread color _ hparse hremains
  obtain ⟨-, -, -, hrefused, -⟩ := parse_grammar "\u20ac\u20ac"
  have hwritten : color.toText = "#ff8000" := htext.trans rfl
  exact ⟨hparse, hwritten, hwritten ▸ hagain,
    hrefused _ '\u20ac' (digits_eq_iff.1 rfl) (List.mem_cons_self ..) (by decide)⟩

end Color

end StripChart
