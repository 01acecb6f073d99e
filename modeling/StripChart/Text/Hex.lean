import StripChart.Text.Utf8

/-!
# Digits in base sixteen

Colors and escaped characters are written in base sixteen. `Hex.value?` reads a digit in
either case, `Hex.digit` writes one in lower case, and the two agree (`Hex.value?_digit`,
`Hex.toLower_of_value?`).

A text that stands for a number below 256 may have a plus sign in front of its digits
(`Hex.number?`). A text of two digits has no room for one, and is read as a pair
(`Hex.number?_pair`).
-/

namespace StripChart

namespace Hex

/-- The value of a digit, in either case. -/
def value? (c : Char) : Option Nat :=
  if '0' ≤ c ∧ c ≤ '9' then some (c.toNat - '0'.toNat)
  else if 'a' ≤ c ∧ c ≤ 'f' then some (c.toNat - 'a'.toNat + 10)
  else if 'A' ≤ c ∧ c ≤ 'F' then some (c.toNat - 'A'.toNat + 10)
  else none

/-- The digit of a value below sixteen, in lower case. -/
def digit (n : Nat) : Char :=
  Nat.digitChar n

theorem value?_digit {n : Nat} (h : n < 16) : value? (digit n) = some n := by
  have : ∀ n : Fin 16, value? (digit n) = some n.val := by decide
  exact this ⟨n, h⟩

/-- All digits are among the first 128 characters. -/
theorem toNat_lt_of_value? {c : Char} {n : Nat} (h : value? c = some n) : c.toNat < 128 := by
  simp only [value?, Char.le_def, UInt32.le_iff_toNat_le] at h
  show c.val.toNat < 128
  split at h
  · rename_i hdecimal
    exact Nat.lt_of_le_of_lt hdecimal.2 (by decide)
  split at h
  · rename_i hlower
    exact Nat.lt_of_le_of_lt hlower.2 (by decide)
  split at h
  · rename_i hupper
    exact Nat.lt_of_le_of_lt hupper.2 (by decide)
  · cases h

/-- So each of them takes one byte. -/
theorem utf8Size_of_value? {c : Char} {n : Nat} (h : value? c = some n) : c.utf8Size = 1 :=
  Char.utf8Size_eq_one_iff.2 (UInt32.le_iff_toNat_le.2 (Nat.le_of_lt_succ (toNat_lt_of_value? h)))

/-- What holds of the first 128 characters can be checked for one after another. -/
theorem of_forall_code {p : Char → Prop} (h : ∀ code : Fin 128, p (Char.ofNat code)) {c : Char}
    (hc : c.toNat < 128) : p c := by
  have := h ⟨c.toNat, hc⟩
  rwa [Char.ofNat_toNat] at this

theorem lt_and_toLower_of_value? {c : Char} {n : Nat} (h : value? c = some n) :
    n < 16 ∧ c.toLower = digit n :=
  of_forall_code (p := fun c => ∀ n ∈ value? c, n < 16 ∧ c.toLower = digit n) (by decide)
    (toNat_lt_of_value? h) n h

theorem value?_lt {c : Char} {n : Nat} (h : value? c = some n) : n < 16 :=
  (lt_and_toLower_of_value? h).1

theorem toLower_of_value? {c : Char} {n : Nat} (h : value? c = some n) : c.toLower = digit n :=
  (lt_and_toLower_of_value? h).2

/-- Whether the character is a digit, in either case. -/
def isDigit (c : Char) : Bool :=
  (value? c).isSome

theorem isDigit_iff_exists {c : Char} : isDigit c = true ↔ ∃ n, value? c = some n :=
  Option.isSome_iff_exists

theorem size_eq_length {digits : List Char} (h : ∀ c ∈ digits, isDigit c = true) :
    Utf8.size digits = digits.length := by
  refine Utf8.size_eq_length fun c hc => ?_
  obtain ⟨_, hvalue⟩ := isDigit_iff_exists.1 (h c hc)
  exact utf8Size_of_value? hvalue

/-- The number below 256 that two digits stand for. -/
def byte? (high low : Char) : Option Nat := do
  let high ← value? high
  let low ← value? low
  return high * 16 + low

/-- The number that digits stand for, as long as it stays below 256. -/
def magnitude? (digits : List Char) : Option Nat :=
  digits.foldlM (fun number c => do
    let value ← value? c
    let number := number * 16 + value
    if number < 256 then some number else none) 0

/-- The number below 256 that a text stands for: digits, which may have a plus sign in
front. -/
def number? (text : List Char) : Option Nat :=
  let digits := if text.head? = some '+' then text.tail else text
  if digits.isEmpty then none else magnitude? digits

theorem number?_pair {high low : Char} {m n : Nat} (hhigh : value? high = some m)
    (hlow : value? low = some n) : number? [high, low] = some (m * 16 + n) := by
  have hplus : high ≠ '+' := by
    rintro rfl
    cases hhigh
  have hm := value?_lt hhigh
  have hn := value?_lt hlow
  have hbelow : m < 256 := by omega
  have hpair : m * 16 + n < 256 := by omega
  simp [number?, hplus, magnitude?, hhigh, hlow, hbelow, hpair]

/-- The two digits of a number below 256. -/
def byteChars (n : Nat) : List Char :=
  [digit (n / 16), digit (n % 16)]

end Hex

end StripChart
