/-!
# Text as bytes

Frames carry text as bytes in UTF-8. `Utf8.encode` gives the bytes of a text and
`Utf8.decode?` reads them back, refusing every sequence that is not well formed
(`Utf8.decode?_encode`).

Places in a text are counted in bytes too. A character takes up to four, so not every place
is one where a text can be cut: `Utf8.split?` cuts a text between two characters only
(`Utf8.split?_eq_some_iff`), and `Utf8.slice?` takes a part out.
-/

namespace StripChart

namespace Utf8

/-- The bytes of a text. -/
def encode (text : String) : List UInt8 :=
  text.toByteArray.data.toList

/-- The text of a row of bytes; `none` if they are not well-formed UTF-8. -/
def decode? (bytes : List UInt8) : Option String :=
  String.fromUTF8? ⟨bytes.toArray⟩

@[simp] theorem decode?_encode (text : String) : decode? (encode text) = some text := by
  simp [decode?, encode, String.fromUTF8?, text.isValidUTF8, String.fromUTF8]

/-- The number of bytes that characters take. -/
def size : List Char → Nat
  | [] => 0
  | c :: text => c.utf8Size + size text

@[simp] theorem size_nil : size [] = 0 := rfl

@[simp] theorem size_cons (c : Char) (text : List Char) :
    size (c :: text) = c.utf8Size + size text := rfl

/-- It is the size of what is encoded. -/
theorem length_encode (text : List Char) : (encode (String.ofList text)).length = size text := by
  rw [encode, String.toByteArray_ofList]
  induction text with
  | nil => rfl
  | cons c text ih =>
    rw [List.utf8Encode_cons, List.utf8Encode_singleton, ByteArray.data_append, Array.toList_append,
      List.length_append, ih, List.data_toByteArray, List.toList_toArray,
      String.length_utf8EncodeChar, size_cons]

theorem size_eq_length {text : List Char} (h : ∀ c ∈ text, c.utf8Size = 1) :
    size text = text.length := by
  induction text with
  | nil => rfl
  | cons c text ih =>
    rw [size_cons, h c (List.mem_cons_self ..), ih fun d hd => h d (List.mem_cons_of_mem c hd),
      List.length_cons, Nat.add_comm]

/-- A text in two parts, the first of so many bytes. No character is cut in two, and there is
nothing behind the end. -/
def split? : List Char → Nat → Option (List Char × List Char)
  | text, 0 => some ([], text)
  | [], _ + 1 => none
  | c :: text, n + 1 =>
    if c.utf8Size ≤ n + 1 then do
      let (front, rest) ← split? text (n + 1 - c.utf8Size)
      return (c :: front, rest)
    else none

theorem split?_cons {c : Char} {n : Nat} (h : c.utf8Size ≤ n) (text : List Char) :
    split? (c :: text) n
      = (split? text (n - c.utf8Size)).map fun parts => (c :: parts.1, parts.2) := by
  cases n with
  | zero => exact absurd (Nat.le_zero.1 h) (Nat.ne_of_gt (Char.utf8Size_pos c))
  | succ n =>
    rw [split?, if_pos h]
    cases split? text (n + 1 - c.utf8Size) <;> rfl

/-- A text can be cut just between its characters. -/
theorem split?_eq_some_iff {text front rest : List Char} {n : Nat} :
    split? text n = some (front, rest) ↔ text = front ++ rest ∧ size front = n := by
  constructor
  · intro h
    fun_induction split? text n generalizing front with
    | case1 text =>
      cases h
      exact ⟨rfl, rfl⟩
    | case2 n => cases h
    | case3 c text n hle ih =>
      cases hparts : split? text (n + 1 - c.utf8Size) with
      | none =>
        rw [hparts] at h
        cases h
      | some parts =>
        rw [hparts] at h
        cases h
        obtain ⟨rfl, hsize⟩ := ih hparts
        exact ⟨rfl, by rw [size_cons, hsize]; omega⟩
    | case4 c text n hgt => cases h
  · rintro ⟨rfl, rfl⟩
    induction front with
    | nil => cases rest <;> rfl
    | cons c front ih =>
      rw [List.cons_append, size_cons, split?_cons (Nat.le_add_right ..), Nat.add_sub_cancel_left,
        ih]
      rfl

/-- So many bytes of a text from a place on, which is counted in bytes too. -/
def slice? (text : List Char) (start length : Nat) : Option (List Char) := do
  let (_, rest) ← split? text start
  let (part, _) ← split? rest length
  return part

theorem slice?_append (front part rest : List Char) :
    slice? (front ++ (part ++ rest)) (size front) (size part) = some part := by
  have hstart : split? (front ++ (part ++ rest)) (size front) = some (front, part ++ rest) :=
    split?_eq_some_iff.2 ⟨rfl, rfl⟩
  have hstop : split? (part ++ rest) (size part) = some (part, rest) :=
    split?_eq_some_iff.2 ⟨rfl, rfl⟩
  rw [slice?, hstart]
  show (split? (part ++ rest) (size part) >>= _) = _
  rw [hstop]
  rfl

end Utf8

end StripChart
