import Mathlib.Data.List.Chain
import Mathlib.Data.List.Induction
import StripChart.Json.Reader
import StripChart.Json.Writer

/-!
# The text of a value reads back

Reading the text of a value gives the value (`Json.ReadsBack`). It does for every value whose
objects have their keys in order, whose arrays and objects stand inside each other no deeper
than a reader goes, and whose numbers read back one by one (`Json.readsBack_of_ordered`); of
the numbers, all whole numbers that reading makes do (`Json.Number.readsBack_integer`).

There are two halves, one for each step of reading, and they meet at the row of tokens of the
value. The text is cut into the tokens it was made of (`Json.Token.scan?_flatMap_chars`). Here
the one thing to look at is a numeral, which does not say itself where it ends; but in the
tokens of a value no numeral is followed by anything that could be part of it
(`Json.Token.Spaced`). And the machine that reads tokens, started anywhere on the tokens of a
value, comes to where it has completed the value (`Json.Reading.foldlM_tokens`).

Only the objects inside have to have their keys in order. The entries of the value itself are
put in order by reading them (`Json.decode?_encode_object`).
-/

namespace StripChart

/-! ### Entries that are in order already -/

section Ordered

variable {β : Type}

/-- A name greater than all others comes last. -/
theorem Entries.insert_of_forall_lt {name : String} {entries : List (String × β)} (value : β)
    (h : ∀ entry ∈ entries, entry.1 < name) :
    insert name value entries = entries ++ [(name, value)] := by
  induction entries with
  | nil => rfl
  | cons head rest ih =>
    have hlt : head.1 < name := h head List.mem_cons_self
    have hne : name ≠ head.1 := fun heq => String.lt_irrefl _ (heq ▸ hlt)
    rw [insert, if_neg (String.lt_asymm hlt), if_neg hne,
      ih fun entry hmem => h entry (List.mem_cons_of_mem _ hmem), List.cons_append]

/-- Entries that are in order stay as they are. -/
theorem Entries.ofList_of_sorted {entries : List (String × β)} (h : Sorted entries) :
    ofList entries = entries := by
  induction entries using List.reverseRecOn with
  | nil => rfl
  | append_singleton entries entry ih =>
    obtain ⟨hbefore, -, hlt⟩ := List.pairwise_append.1 h
    have hlast : ofList (entries ++ [entry]) = insert entry.1 entry.2 (ofList entries) := by
      rw [ofList, List.foldl_append]
      rfl
    rw [hlast, ih hbefore,
      insert_of_forall_lt entry.2 fun other hmem => hlt other hmem entry List.mem_cons_self]

theorem ByName.ofList_entries (table : ByName β) : ofList table.entries = table := by
  obtain ⟨entries, hsorted⟩ := table
  rw [ofList, ByName.mk.injEq]
  exact Entries.ofList_of_sorted hsorted

end Ordered

namespace Json

/-! ### Texts in quotes -/

/-- The two digits of a byte stand for it, behind two zeros. -/
theorem hexUnit?_byteChars {n : Nat} (h : n < 0x20) :
    hexUnit? '0' '0' (Hex.digit (n / 16)) (Hex.digit (n % 16)) = some n := by
  have hzero : Hex.byte? '0' '0' = some 0 := by decide
  rw [hexUnit?, hzero, Hex.byte?, Hex.value?_digit (by omega), Hex.value?_digit (by omega)]
  show some (0 * 256 + (n / 16 * 16 + n % 16)) = some n
  congr 1
  omega

/-- **The piece is what the character is read as**, and it stands for the character. -/
structure Piece.IsOf (piece : Piece) (c : Char) : Prop where
  /-- The text of the character is read as the piece. -/
  pieces_eq (rest : List Char) :
    pieces (escapeChar c ++ rest)
      = (pieces rest).map fun found => (piece :: found.1, found.2)
  /-- The piece is joined to the character. -/
  joinPieces_eq (found : List Piece) :
    joinPieces (piece :: found) = (joinPieces found).map (c :: ·)

/-- A character that is escaped by a letter. -/
theorem Piece.isOf_letter {c letter : Char} (hchars : escapeChar c = ['\\', letter])
    (hunit : letter ≠ 'u') (hletter : letterEscape? letter = some c) :
    (Piece.plain c).IsOf c where
  pieces_eq rest := by
    rw [hchars, List.cons_append, List.singleton_append, pieces]
    · rw [hletter]
      cases pieces rest <;> rfl
    · intro _ _ _ _ _ h _
      exact hunit h
  joinPieces_eq _ := rfl

/-- A control character without a letter of its own is escaped by its number. -/
theorem Piece.isOf_unit {c : Char}
    (hchars : escapeChar c = '\\' :: 'u' :: '0' :: '0' :: Hex.byteChars c.toNat)
    (hc : c.toNat < 0x20) : (Piece.unit c.toNat).IsOf c where
  pieces_eq rest := by
    rw [hchars, Hex.byteChars]
    show pieces ('\\' :: 'u' :: '0' :: '0' :: Hex.digit (c.toNat / 16) ::
      Hex.digit (c.toNat % 16) :: rest) = _
    rw [pieces, hexUnit?_byteChars hc]
    cases pieces rest <;> rfl
  joinPieces_eq found := by
    have hhigh : isHighSurrogate c.toNat = false := by
      rw [isHighSurrogate, decide_eq_false (by omega), Bool.false_and]
    have hlow : isLowSurrogate c.toNat = false := by
      rw [isLowSurrogate, decide_eq_false (by omega), Bool.false_and]
    rw [joinPieces.eq_def]
    simp only [hhigh, hlow, Char.ofNat_toNat]
    rfl

/-- Any other character stands for itself. -/
theorem Piece.isOf_plain {c : Char} (hchars : escapeChar c = [c]) (hquote : c ≠ '"')
    (hslash : c ≠ '\\') (hc : ¬c.toNat < 0x20) : (Piece.plain c).IsOf c where
  pieces_eq rest := by
    rw [hchars, List.singleton_append, pieces]
    · rw [if_neg (not_or.2 ⟨hc, hslash⟩)]
      cases pieces rest <;> rfl
    · exact hquote
    · exact fun _ _ _ _ _ h _ => hslash h
    · exact fun _ _ h _ => hslash h
  joinPieces_eq _ := rfl

theorem exists_isOf (c : Char) : ∃ piece : Piece, piece.IsOf c := by
  have hchars := escapeChar.eq_def c
  split at hchars
  case h_8 hquote hslash _ _ _ _ _ =>
    split at hchars
    · rename_i hc
      exact ⟨_, Piece.isOf_unit hchars hc⟩
    · rename_i hc
      exact ⟨_, Piece.isOf_plain hchars hquote hslash hc⟩
  all_goals exact ⟨_, Piece.isOf_letter hchars (by decide) rfl⟩

/-- **A text in quotes is read as it was written.** -/
theorem scanString?_quoted (chars rest : List Char) :
    scanString? (chars.flatMap escapeChar ++ '"' :: rest) = some (String.ofList chars, rest) := by
  have hpieces : ∃ found, pieces (chars.flatMap escapeChar ++ '"' :: rest) = some (found, rest) ∧
      joinPieces found = some chars := by
    induction chars with
    | nil => exact ⟨[], by rw [List.flatMap_nil, List.nil_append, pieces], rfl⟩
    | cons c others ih =>
      obtain ⟨found, hfound, hjoin⟩ := ih
      obtain ⟨piece, hpiece⟩ := exists_isOf c
      refine ⟨piece :: found, ?_, ?_⟩
      · rw [List.flatMap_cons, List.append_assoc, hpiece.pieces_eq, hfound]
        rfl
      · rw [hpiece.joinPieces_eq, hjoin]
        rfl
  obtain ⟨found, hfound, hjoin⟩ := hpieces
  rw [scanString?, hfound]
  show (joinPieces found).bind _ = _
  rw [hjoin]
  rfl

/-! ### Numerals -/

/-- What follows cannot be part of a numeral: it is nothing, or a comma or a closing bracket or
brace. -/
def Stops (rest : List Char) : Prop :=
  rest = [] ∨ ∃ c ∈ [',', ']', '\x7d'], ∃ others, rest = c :: others

/-- **A number reads back**: behind its text, the text may end or the value around it may go
on. -/
def Number.ReadsBack (number : Number) : Prop :=
  ∀ rest, Stops rest → Token.scanOne? (number.chars ++ rest) = some (.number number, rest)

/-- Where numerals stop, no further part of one is found. -/
theorem Stops.scan_eq {rest : List Char} (h : Stops rest) :
    Decimal.splitDigits rest = ([], rest) ∧ scanFraction? rest = some (none, rest) ∧
      Decimal.scanExponent? rest = some (none, rest) := by
  rcases h with rfl | ⟨c, hc, others, rfl⟩
  · exact ⟨rfl, rfl, rfl⟩
  · simp only [List.mem_cons, List.not_mem_nil, or_false] at hc
    rcases hc with rfl | rfl | rfl <;> exact ⟨rfl, rfl, rfl⟩

/-- Digits are cut off the front of a text if what follows has none at its front. -/
theorem splitDigits_append_of {digits rest : List Char} (hdigits : ∀ c ∈ digits, c.isDigit = true)
    (hrest : Decimal.splitDigits rest = ([], rest)) :
    Decimal.splitDigits (digits ++ rest) = (digits, rest) := by
  rw [Decimal.splitDigits, Prod.mk.injEq] at hrest ⊢
  rw [List.takeWhile_append_of_pos hdigits, List.dropWhile_append_of_pos hdigits, hrest.1, hrest.2,
    List.append_nil]
  exact ⟨rfl, rfl⟩

theorem splitDigits_append {digits rest : List Char} (hdigits : ∀ c ∈ digits, c.isDigit = true)
    (h : Stops rest) : Decimal.splitDigits (digits ++ rest) = (digits, rest) :=
  splitDigits_append_of hdigits h.scan_eq.1

theorem ofDigits_digitChars (n : Nat) : Decimal.ofDigits (Decimal.digitChars n) = n := by
  rw [Decimal.ofDigits, ← Nat.ofDigitChars_eq_foldl]
  exact Nat.ofDigitChars_ten_toDigits

theorem isDigit_of_mem_digitChars {n : Nat} {c : Char} (h : c ∈ Decimal.digitChars n) :
    c.isDigit = true :=
  Nat.isDigit_of_mem_toDigits (by decide) (by decide) h

/-- A whole number is written without zeros in front of other digits. -/
theorem digitChars_ne_zero_cons (n : Nat) (c : Char) (others : List Char) :
    Decimal.digitChars n ≠ '0' :: c :: others := by
  intro h
  induction n using Nat.strongRecOn generalizing c others with
  | ind n ih =>
    have hdigits : Decimal.digitChars n
        = if n < 10 then [n.digitChar] else Decimal.digitChars (n / 10) ++ [(n % 10).digitChar] :=
      Nat.toDigits_eq_if (by decide)
    rw [hdigits] at h
    split at h
    · exact List.cons_ne_nil _ _ (List.cons.inj h).2.symm
    · rename_i hn
      -- the zero is the first digit of the tenth part, which is less
      rcases htenth : Decimal.digitChars (n / 10) with - | ⟨first, tail⟩
      · exact Nat.toDigits_ne_nil htenth
      · rw [htenth] at h
        obtain ⟨rfl, -⟩ := List.cons.inj h
        rcases tail with - | ⟨c, others⟩
        · have hzero := ofDigits_digitChars (n / 10)
          rw [htenth, show Decimal.ofDigits ['0'] = 0 from rfl] at hzero
          omega
        · exact ih (n / 10) (by omega) c others htenth

theorem scanWhole?_digitChars (n : Nat) {rest : List Char} (h : Stops rest) :
    scanWhole? (Decimal.digitChars n ++ rest) = some (Decimal.digitChars n, rest) := by
  have hsplit := splitDigits_append (fun _ => isDigit_of_mem_digitChars (n := n)) h
  rw [scanWhole?, hsplit]
  split
  · rename_i hnil
    exact absurd (Prod.mk.inj hnil).1 Nat.toDigits_ne_nil
  · rename_i hzero
    exact absurd (Prod.mk.inj hzero).1 (digitChars_ne_zero_cons _ _ _)
  · rfl

theorem scanUnsigned?_digitChars (negative : Bool) (n : Nat) {rest : List Char} (h : Stops rest) :
    scanUnsigned? negative (Decimal.digitChars n ++ rest)
      = (numberOf? negative (Decimal.digitChars n) none none).map fun number => (number, rest) := by
  obtain ⟨-, hfraction, hexponent⟩ := h.scan_eq
  simp only [scanUnsigned?, scanWhole?_digitChars n h, hfraction, hexponent, Option.bind_eq_bind,
    Option.bind_some]
  cases numberOf? negative (Decimal.digitChars n) none none <;> rfl

/-- A text that begins with a sign or a digit is that of a numeral. -/
theorem scanOne?_of_numeral {c : Char} (h : c = '-' ∨ c.isDigit = true) (others : List Char) :
    Token.scanOne? (c :: others)
      = (scanNumber? (c :: others)).map fun found => (.number found.1, found.2) := by
  unfold Token.scanOne?
  split
  case h_11 => rfl
  all_goals
    rename_i heq
    obtain ⟨rfl, -⟩ := List.cons.inj heq
    exact absurd h (by decide)

/-- A numeral in digits alone is read as the number that its digits make. -/
theorem scanNumber?_digitChars (n : Nat) {rest : List Char} (h : Stops rest) :
    scanNumber? (Decimal.digitChars n ++ rest)
      = (numberOf? false (Decimal.digitChars n) none none).map fun number => (number, rest) := by
  rw [← scanUnsigned?_digitChars false n h, scanNumber?]
  intro others heq
  rcases hdigits : Decimal.digitChars n with - | ⟨c, tail⟩
  · exact Nat.toDigits_ne_nil hdigits
  · rw [hdigits] at heq
    obtain ⟨rfl, -⟩ := List.cons.inj heq
    have hminus : '-'.isDigit = true :=
      isDigit_of_mem_digitChars (hdigits ▸ List.mem_cons_self)
    exact absurd hminus (by decide)

theorem numberOf?_digitChars {n : Nat} (h : n < Nat.pow 2 64) :
    numberOf? false (Decimal.digitChars n) none none = some (.integer n) := by
  have hlt : decide (n < Nat.pow 2 64) = true := decide_eq_true h
  rw [numberOf?, ofDigits_digitChars]
  simp only [hlt]
  rfl

theorem numberOf?_digitChars_of_negative {n : Nat} (hpos : 0 < n) (h : n ≤ Nat.pow 2 63) :
    numberOf? true (Decimal.digitChars n) none none = some (.integer (-n)) := by
  have hle : decide (n ≤ Nat.pow 2 63) = true := decide_eq_true h
  have hlt : decide (0 < n) = true := decide_eq_true hpos
  rw [numberOf?, ofDigits_digitChars]
  simp only [hle, hlt]
  rfl

/-- **All whole numbers that reading makes read back**, those of 64 bits with a sign or
without. -/
theorem Number.readsBack_integer {value : Int} (hleast : -9223372036854775808 ≤ value)
    (hgreatest : value < 18446744073709551616) : (Number.integer value).ReadsBack := by
  intro rest h
  rw [Number.chars, integerChars]
  rcases Int.lt_or_le value 0 with hneg | hpos
  · have hle : value.natAbs ≤ 9223372036854775808 := by omega
    have hnumber : numberOf? true (Decimal.digitChars value.natAbs) none none
        = some (.integer value) := by
      rw [numberOf?_digitChars_of_negative (by omega) hle]
      congr 2
      omega
    rw [if_pos hneg, List.cons_append, scanOne?_of_numeral (Or.inl rfl), scanNumber?,
      scanUnsigned?_digitChars true _ h, hnumber]
    rfl
  · have hlt : value.natAbs < 18446744073709551616 := by omega
    have hnumber : numberOf? false (Decimal.digitChars value.natAbs) none none
        = some (.integer value) := by
      rw [numberOf?_digitChars hlt]
      congr 2
      omega
    have hnumeral := scanNumber?_digitChars value.natAbs h
    rw [if_neg (Int.not_lt.2 hpos)]
    rcases hdigits : Decimal.digitChars value.natAbs with - | ⟨c, tail⟩
    · exact absurd hdigits Nat.toDigits_ne_nil
    · rw [hdigits] at hnumeral hnumber
      rw [List.cons_append] at hnumeral ⊢
      have hdigit : c.isDigit = true := isDigit_of_mem_digitChars (hdigits ▸ List.mem_cons_self)
      rw [scanOne?_of_numeral (Or.inr hdigit), hnumeral, hnumber]
      rfl

/-! ### From characters to tokens -/

namespace Token

/-- No token begins with white space. -/
theorem isGap_of_scanOne? {c : Char} {others : List Char} {found : Token × List Char}
    (h : scanOne? (c :: others) = some found) : isGap c = false := by
  have hgaps : ∀ gap ∈ [' ', '\t', '\n', '\r'], scanOne? (gap :: others) = none := by
    simp only [List.forall_mem_cons]
    exact ⟨rfl, rfl, rfl, rfl, fun _ hmem => absurd hmem List.not_mem_nil⟩
  rw [← Bool.not_eq_true]
  intro hgap
  have hmem : c ∈ [' ', '\t', '\n', '\r'] := by
    simpa [isGap, or_assoc] using hgap
  rw [hgaps c hmem] at h
  exact Option.some_ne_none _ h.symm

/-- A token at the front of a text is cut off. -/
theorem scan?_of_scanOne? {text rest : List Char} {token : Token}
    (h : scanOne? text = some (token, rest)) :
    scan? text = (scan? rest).map (token :: ·) := by
  rcases text with - | ⟨c, others⟩
  · cases h
  · have hdrop : (c :: others).dropWhile isGap = c :: others :=
      List.dropWhile_cons_of_neg (by rw [isGap_of_scanOne? h]; exact Bool.false_ne_true)
    rw [scan?]
    split
    · rename_i hnil
      exact absurd (hdrop.symm.trans hnil) (List.cons_ne_nil _ _)
    · rename_i first more hcons
      rw [hdrop] at hcons
      obtain ⟨rfl, rfl⟩ := List.cons.inj hcons
      split
      · rename_i hnone
        exact absurd (hnone.symm.trans h).symm (Option.some_ne_none _)
      · rename_i token' after hsome
        obtain ⟨rfl, rfl⟩ := Prod.mk.inj (Option.some.inj (h.symm.trans hsome))
        rfl

/-- What may come directly behind a numeral. -/
def mayFollow : Token → Bool
  | .comma => true
  | .closeArray => true
  | .closeObject => true
  | _ => false

/-- **No numeral runs into what follows it.** -/
def Spaced (row : List Token) : Prop :=
  row.IsChain fun first second => (∃ number, first = .number number) → second.mayFollow = true

/-- Behind a token comes what may stop a numeral, if the next token may. -/
theorem stops_of_mayFollow {token : Token} (h : token.mayFollow = true) (rest : List Char) :
    Stops (token.chars ++ rest) := by
  cases token with
  | comma => exact Or.inr ⟨',', by simp, rest, rfl⟩
  | closeArray => exact Or.inr ⟨']', by simp, rest, rfl⟩
  | closeObject => exact Or.inr ⟨'\x7d', by simp, rest, rfl⟩
  | _ => cases h

/-- The text of a token is the token, whatever follows it; but a numeral has to stop. -/
theorem scanOne?_chars {token : Token} {rest : List Char}
    (hnumber : ∀ number, token = .number number → number.ReadsBack ∧ Stops rest) :
    scanOne? (token.chars ++ rest) = some (token, rest) := by
  cases token with
  | number number =>
    obtain ⟨hreads, hstops⟩ := hnumber number rfl
    exact hreads rest hstops
  | string value =>
    have hquoted := scanString?_quoted value.toList rest
    rw [String.ofList_toList] at hquoted
    rw [chars, quotedChars, List.cons_append, List.append_assoc, List.singleton_append, scanOne?,
      hquoted]
    rfl
  | bool value => cases value <;> rfl
  | _ => rfl

/-- **A text is cut into the tokens it was made of.** -/
theorem scan?_flatMap_chars {row : List Token} (hspaced : Spaced row)
    (hnumbers : ∀ number, .number number ∈ row → number.ReadsBack) :
    scan? (row.flatMap chars) = some row := by
  induction row with
  | nil => rw [List.flatMap_nil, scan?]; rfl
  | cons token rest ih =>
    have hrest := ih (List.IsChain.of_cons hspaced) fun number hmem =>
      hnumbers number (List.mem_cons_of_mem _ hmem)
    have hone :
        scanOne? (token.chars ++ rest.flatMap chars) = some (token, rest.flatMap chars) := by
      refine scanOne?_chars fun number htoken =>
        ⟨hnumbers number (htoken ▸ List.mem_cons_self), ?_⟩
      rcases rest with - | ⟨next, others⟩
      · exact Or.inl rfl
      · exact stops_of_mayFollow ((List.isChain_cons_cons.1 hspaced).1 ⟨number, htoken⟩) _
    rw [List.flatMap_cons, scan?_of_scanOne? hone, hrest]
    rfl

end Token

/-! ### The tokens of a value are spaced -/

namespace Token

variable {token : Token} {rest : List Token}

/-- What comes directly behind the tokens of a value, if anything does: it may come behind a
numeral. -/
def Follows (rest : List Token) : Prop :=
  ∀ next ∈ rest.head?, next.mayFollow = true

theorem follows_nil : Follows [] :=
  fun _ h => absurd h.symm (Option.some_ne_none _)

theorem follows_cons (h : token.mayFollow = true) : Follows (token :: rest) := by
  intro next hnext
  rw [← Option.some.inj hnext]
  exact h

/-- A token that is no numeral stands before anything. -/
theorem Spaced.cons (h : Spaced rest) (htoken : ∀ value, token ≠ .number value) :
    Spaced (token :: rest) :=
  List.isChain_cons.2 ⟨fun _ _ ⟨value, hnumber⟩ => absurd hnumber (htoken value), h⟩

theorem Spaced.number_cons (h : Spaced rest) (hfollows : Follows rest) (value : Number) :
    Spaced (.number value :: rest) :=
  List.isChain_cons.2 ⟨fun next hnext _ => hfollows next hnext, h⟩

/-- Behind further elements there is a comma, or what comes behind the last of them. -/
theorem follows_moreElementTokens {elements : List Json} {rest : List Token} (h : Follows rest) :
    Follows (moreElementTokens elements ++ rest) := by
  cases elements with
  | nil => exact h
  | cons element others => exact follows_cons rfl

theorem follows_moreEntryTokens {entries : List (String × Json)} {rest : List Token}
    (h : Follows rest) : Follows (moreEntryTokens entries ++ rest) := by
  cases entries with
  | nil => exact h
  | cons entry others => exact follows_cons rfl

mutual

/-- **The tokens of a value are spaced**, and it may stand before what may follow a numeral. -/
theorem spaced_tokens : ∀ (value : Json) {rest : List Token}, Spaced rest → Follows rest →
    Spaced (value.tokens ++ rest)
  | .null, _, h, _ => h.cons fun _ => Token.noConfusion
  | .bool _, _, h, _ => h.cons fun _ => Token.noConfusion
  | .number value, _, h, hfollows => h.number_cons hfollows value
  | .string _, _, h, _ => h.cons fun _ => Token.noConfusion
  | .array [], _, h, _ => (h.cons fun _ => Token.noConfusion).cons fun _ => Token.noConfusion
  | .array (element :: others), rest, h, _ => by
    have hclose : Spaced (.closeArray :: rest) := h.cons fun _ => Token.noConfusion
    have hothers := spaced_moreElementTokens others hclose (follows_cons rfl)
    have helement := spaced_tokens element hothers (follows_moreElementTokens (follows_cons rfl))
    rw [tokens, elementTokens, List.cons_append, List.append_assoc, List.append_assoc]
    exact helement.cons fun _ => Token.noConfusion
  | .object [], _, h, _ => (h.cons fun _ => Token.noConfusion).cons fun _ => Token.noConfusion
  | .object (entry :: others), rest, h, _ => by
    have hclose : Spaced (.closeObject :: rest) := h.cons fun _ => Token.noConfusion
    have hothers := spaced_moreEntryTokens others hclose (follows_cons rfl)
    have hvalue := spaced_tokens entry.2 hothers (follows_moreEntryTokens (follows_cons rfl))
    rw [tokens, entryTokens]
    simp only [List.cons_append, List.append_assoc, List.nil_append]
    exact ((hvalue.cons fun _ => Token.noConfusion).cons fun _ => Token.noConfusion).cons
      fun _ => Token.noConfusion

theorem spaced_moreElementTokens : ∀ (elements : List Json) {rest : List Token}, Spaced rest →
    Follows rest → Spaced (moreElementTokens elements ++ rest)
  | [], _, h, _ => h
  | element :: others, rest, h, hfollows => by
    have hothers := spaced_moreElementTokens others h hfollows
    have helement := spaced_tokens element hothers (follows_moreElementTokens hfollows)
    rw [moreElementTokens, List.cons_append, List.append_assoc]
    exact helement.cons fun _ => Token.noConfusion

theorem spaced_moreEntryTokens : ∀ (entries : List (String × Json)) {rest : List Token},
    Spaced rest → Follows rest → Spaced (moreEntryTokens entries ++ rest)
  | [], _, h, _ => h
  | entry :: others, rest, h, hfollows => by
    have hothers := spaced_moreEntryTokens others h hfollows
    have hvalue := spaced_tokens entry.2 hothers (follows_moreEntryTokens hfollows)
    rw [moreEntryTokens, List.cons_append, List.cons_append, List.cons_append, List.append_assoc]
    exact ((hvalue.cons fun _ => Token.noConfusion).cons fun _ => Token.noConfusion).cons
      fun _ => Token.noConfusion

end

end Token

/-! ### From tokens to a value -/

namespace Reading

/-- The first token of a value is none that closes an array. -/
theorem exists_tokens_eq_cons (value : Json) :
    ∃ token rest, value.tokens = token :: rest ∧ token ≠ .closeArray := by
  cases value <;> exact ⟨_, _, rfl, Token.noConfusion⟩

/-- Where a first element or the end of an array may come, any other token than the end is read
as one of an element. -/
theorem step?_elementOrEnd {token : Token} (h : token ≠ .closeArray) (around : List Open) :
    step? ⟨around, .elementOrEnd⟩ token = step? ⟨.array [] :: around, .value⟩ token := by
  cases token <;> first | rfl | exact absurd rfl h

/-- Where a first element or the end of an array may come, the tokens of a value are read as
those of an element. -/
theorem foldlM_elementOrEnd (value : Json) (around : List Open) (rest : List Token) :
    (value.tokens ++ rest).foldlM step? ⟨around, .elementOrEnd⟩
      = (value.tokens ++ rest).foldlM step? ⟨.array [] :: around, .value⟩ := by
  obtain ⟨token, others, htokens, hclose⟩ := exists_tokens_eq_cons value
  rw [htokens, List.cons_append, List.foldlM_cons, List.foldlM_cons, step?_elementOrEnd hclose]

theorem step?_openArray {around : List Open} (h : around.length < maxDepth) :
    step? ⟨around, .value⟩ .openArray = some ⟨around, .elementOrEnd⟩ :=
  if_pos h

theorem step?_openObject {around : List Open} (h : around.length < maxDepth) :
    step? ⟨around, .value⟩ .openObject = some ⟨around, .keyOrEnd⟩ :=
  if_pos h

mutual

/-- **Over the tokens of a value the machine comes to where it has completed the value.** -/
theorem foldlM_tokens : ∀ (value : Json) (around : List Open) (rest : List Token),
    value.Ordered → value.depth + around.length ≤ maxDepth →
    (value.tokens ++ rest).foldlM step? ⟨around, .value⟩
      = rest.foldlM step? (complete value around)
  | .null, _, _, _, _ => rfl
  | .bool _, _, _, _, _ => rfl
  | .number _, _, _, _, _ => rfl
  | .string _, _, _, _, _ => rfl
  | .array [], around, rest, _, hdepth => by
    rw [depth] at hdepth
    have hopen := step?_openArray (show around.length < maxDepth by omega)
    show (step? ⟨around, .value⟩ .openArray).bind _ = _
    rw [hopen]
    rfl
  | .array (element :: others), around, rest, h, hdepth => by
    rw [depth, depthElements] at hdepth
    have hopen := step?_openArray (show around.length < maxDepth by omega)
    have helement := foldlM_tokens element (.array [] :: around)
      (moreElementTokens others ++ .closeArray :: rest) h.1 (by rw [List.length_cons]; omega)
    have hothers := foldlM_moreElementTokens others [element] around rest h.2 (by omega)
    rw [tokens, elementTokens, List.cons_append, List.foldlM_cons, hopen, List.append_assoc,
      List.append_assoc, List.singleton_append]
    show (element.tokens ++ _).foldlM step? _ = _
    rw [foldlM_elementOrEnd, helement]
    exact hothers
  | .object [], around, rest, _, hdepth => by
    rw [depth] at hdepth
    have hopen := step?_openObject (show around.length < maxDepth by omega)
    show (step? ⟨around, .value⟩ .openObject).bind _ = _
    rw [hopen]
    rfl
  | .object (entry :: others), around, rest, h, hdepth => by
    rw [depth, depthEntries] at hdepth
    have hopen := step?_openObject (show around.length < maxDepth by omega)
    have hvalue := foldlM_tokens entry.2 (.object [] entry.1 :: around)
      (moreEntryTokens others ++ .closeObject :: rest) h.2.1 (by rw [List.length_cons]; omega)
    have hothers := foldlM_moreEntryTokens others [entry] around rest h.1 h.2.2 (by omega)
    rw [tokens, entryTokens, List.cons_append, List.foldlM_cons, hopen]
    simp only [List.cons_append, List.append_assoc, List.nil_append]
    show (entry.2.tokens ++ _).foldlM step? ⟨.object [] entry.1 :: around, .value⟩ = _
    rw [hvalue]
    exact hothers

theorem foldlM_moreElementTokens : ∀ (elements read : List Json) (around : List Open)
    (rest : List Token), OrderedElements elements →
    depthElements elements + (around.length + 1) ≤ maxDepth →
    (moreElementTokens elements ++ .closeArray :: rest).foldlM step? ⟨around, .elementEnd read⟩
      = rest.foldlM step? (complete (.array (read.reverse ++ elements)) around)
  | [], read, around, rest, _, _ => by
    rw [List.append_nil]
    rfl
  | element :: others, read, around, rest, h, hdepth => by
    rw [depthElements] at hdepth
    have helement := foldlM_tokens element (.array read :: around)
      (moreElementTokens others ++ .closeArray :: rest) h.1 (by rw [List.length_cons]; omega)
    have hothers := foldlM_moreElementTokens others (element :: read) around rest h.2 (by omega)
    rw [List.reverse_cons, List.append_assoc, List.singleton_append] at hothers
    rw [moreElementTokens, List.cons_append, List.append_assoc]
    show (element.tokens ++ _).foldlM step? ⟨.array read :: around, .value⟩ = _
    rw [helement]
    exact hothers

theorem foldlM_moreEntryTokens : ∀ (entries read : List (String × Json)) (around : List Open)
    (rest : List Token), Entries.Sorted (read ++ entries) → OrderedEntries entries →
    depthEntries entries + (around.length + 1) ≤ maxDepth →
    (moreEntryTokens entries ++ .closeObject :: rest).foldlM step? ⟨around, .entryEnd read⟩
      = rest.foldlM step? (complete (.object (read ++ entries)) around)
  | [], read, around, rest, _, _, _ => by
    rw [List.append_nil]
    rfl
  | entry :: others, read, around, rest, hsorted, h, hdepth => by
    rw [depthEntries] at hdepth
    have hvalue := foldlM_tokens entry.2 (.object read entry.1 :: around)
      (moreEntryTokens others ++ .closeObject :: rest) h.1 (by rw [List.length_cons]; omega)
    -- the key is greater than all that have been read, so that the entry comes last
    have hlast : Entries.insert entry.1 entry.2 read = read ++ [entry] :=
      Entries.insert_of_forall_lt entry.2 fun other hmem =>
        (List.pairwise_append.1 hsorted).2.2 other hmem entry List.mem_cons_self
    rw [List.append_cons] at hsorted
    have hothers := foldlM_moreEntryTokens others (read ++ [entry]) around rest hsorted h.2
      (by omega)
    rw [← List.append_cons] at hothers
    simp only [moreEntryTokens, List.cons_append, List.append_assoc]
    show (entry.2.tokens ++ _).foldlM step? ⟨.object read entry.1 :: around, .value⟩ = _
    rw [hvalue, complete, hlast]
    exact hothers

end

end Reading

/-! ### Reading what was written -/

/-- **The text of the value reads back**: reading it gives the value. -/
def ReadsBack (value : Json) : Prop :=
  decode? value.encode = some value

/-- The text of a value is cut into the tokens of the value, and read as what these make. -/
theorem decode?_encode {value : Json}
    (hnumbers : ∀ number, .number number ∈ value.tokens → number.ReadsBack) :
    decode? value.encode = ofTokens? value.tokens := by
  have hspaced : Token.Spaced value.tokens := by
    have happend : Token.Spaced (value.tokens ++ []) :=
      Token.spaced_tokens value List.IsChain.nil Token.follows_nil
    rwa [List.append_nil] at happend
  have hscan : Token.scan? value.chars = some value.tokens :=
    Token.scan?_flatMap_chars hspaced hnumbers
  have hdecode : decode? value.encode = parse? value.render := by
    rw [decode?, encode, Utf8.decode?_encode]
    rfl
  rw [hdecode, parse?, render, String.toList_ofList, ofChars?, hscan]
  rfl

/-- **The text of a value reads back**, if the objects in it have their keys in order, if it is
no deeper than a reader goes, and if every number in it reads back. -/
theorem readsBack_of_ordered {value : Json} (hordered : value.Ordered)
    (hdepth : value.depth ≤ maxDepth)
    (hnumbers : ∀ number, .number number ∈ value.tokens → number.ReadsBack) :
    value.ReadsBack := by
  have hfold := Reading.foldlM_tokens value [] [] hordered hdepth
  rw [List.append_nil] at hfold
  rw [ReadsBack, decode?_encode hnumbers, ofTokens?, Reading.start, hfold]
  rfl

/-- The token is no numeral but one of a whole number of 64 bits. -/
def Token.isWhole : Token → Bool
  | .number (.integer value) =>
    decide (-9223372036854775808 ≤ value ∧ value < 18446744073709551616)
  | .number (.double _) => false
  | _ => true

/-- If all numbers in a value are whole, each of them reads back. -/
theorem readsBack_of_isWhole {value : Json} (h : value.tokens.all Token.isWhole = true)
    (number : Number) (hnumber : .number number ∈ value.tokens) : number.ReadsBack := by
  have hwhole := List.all_eq_true.1 h _ hnumber
  cases number with
  | integer value =>
    obtain ⟨hleast, hgreatest⟩ := of_decide_eq_true hwhole
    exact Number.readsBack_integer hleast hgreatest
  | double value => exact absurd hwhole Bool.false_ne_true

/-! ### Entries in any order -/

/-- Over the tokens of further entries, in whatever order they stand, the machine puts each in
under its key. -/
theorem Reading.foldlM_moreEntryTokens_insert (entries read : List (String × Json))
    (around : List Open) (rest : List Token) (h : OrderedEntries entries)
    (hdepth : depthEntries entries + (around.length + 1) ≤ maxDepth) :
    (moreEntryTokens entries ++ .closeObject :: rest).foldlM step? ⟨around, .entryEnd read⟩
      = rest.foldlM step? (complete (.object
          (entries.foldl (fun table entry => Entries.insert entry.1 entry.2 table) read))
          around) := by
  induction entries generalizing read with
  | nil => rfl
  | cons entry others ih =>
    rw [depthEntries] at hdepth
    have hvalue := foldlM_tokens entry.2 (.object read entry.1 :: around)
      (moreEntryTokens others ++ .closeObject :: rest) h.1 (by rw [List.length_cons]; omega)
    simp only [moreEntryTokens, List.cons_append, List.append_assoc]
    show (entry.2.tokens ++ _).foldlM step? ⟨.object read entry.1 :: around, .value⟩ = _
    rw [hvalue]
    exact ih _ h.2 (by omega)

/-- **It makes no difference in what order the entries of an object stand in a text**: it is read
as the object with these entries. Of two with one key the later stays. -/
theorem decode?_encode_object {entries : List (String × Json)} (h : OrderedEntries entries)
    (hdepth : (Json.object entries).depth ≤ maxDepth)
    (hnumbers : ∀ number, .number number ∈ (Json.object entries).tokens → number.ReadsBack) :
    decode? (Json.object entries).encode = some (ofEntries entries) := by
  rw [decode?_encode hnumbers, ofTokens?, Reading.start]
  cases entries with
  | nil => rfl
  | cons entry others =>
    rw [depth, depthEntries] at hdepth
    have hvalue := Reading.foldlM_tokens entry.2 [.object [] entry.1]
      (moreEntryTokens others ++ [.closeObject]) h.1 (by rw [List.length_singleton]; omega)
    have hothers := Reading.foldlM_moreEntryTokens_insert others [entry] [] [] h.2
      (by rw [List.length_nil]; omega)
    have hfold : (Json.object (entry :: others)).tokens.foldlM Reading.step? ⟨[], .value⟩
        = some ⟨[], .nothing (ofEntries (entry :: others))⟩ := by
      rw [tokens, entryTokens, List.cons_append, List.foldlM_cons,
        Reading.step?_openObject (show ([] : List Open).length < maxDepth by decide)]
      simp only [List.cons_append, List.append_assoc]
      show (entry.2.tokens ++ _).foldlM Reading.step? ⟨[.object [] entry.1], .value⟩ = _
      rw [hvalue]
      exact hothers
    rw [hfold]
    rfl

end Json

end StripChart
