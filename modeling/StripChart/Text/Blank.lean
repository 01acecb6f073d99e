/-!
# White space

What may surround a numeral or a color in text is white space in the sense of the
Unicode property of that name, 25 characters in all. `Blank.trim` takes it off both
ends.
-/

namespace StripChart

namespace Blank

/-- The characters with the Unicode property White_Space, as ranges of code points. -/
def ranges : List (Nat × Nat) :=
  [(0x9, 0xD), (0x20, 0x20), (0x85, 0x85), (0xA0, 0xA0), (0x1680, 0x1680), (0x2000, 0x200A),
    (0x2028, 0x2029), (0x202F, 0x202F), (0x205F, 0x205F), (0x3000, 0x3000)]

/-- Whether the character is white space. -/
def isBlank (c : Char) : Bool :=
  ranges.any fun range => decide (range.1 ≤ c.toNat) && decide (c.toNat ≤ range.2)

/-- Every character that the core library counts as white space is blank. -/
theorem isBlank_of_isWhitespace {c : Char} (h : c.isWhitespace = true) : isBlank c = true := by
  simp only [Char.isWhitespace, Bool.or_eq_true, decide_eq_true_eq] at h
  rcases h with ((h | h) | h) | h <;> subst h <;> decide

/-- Drops the elements that satisfy `p` from the end. -/
def dropEndWhile (p : Char → Bool) (text : List Char) : List Char :=
  (text.reverse.dropWhile p).reverse

/-- The text without the white space at its two ends. -/
def trim (text : List Char) : List Char :=
  dropEndWhile isBlank (text.dropWhile isBlank)

end Blank

end StripChart
