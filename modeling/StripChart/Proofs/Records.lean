import StripChart.Message.PlotRequest
import StripChart.Proofs.Text

/-!
# Records that are written and read again

A record is written as an object, field by field in a fixed order, and its fields are looked
up by their names when it is read. In between, the fields are put into the order of their
names, and those that are not set are left out. So whether a field is read as it was written
is a question about look-ups alone: what is found in a list of entries is found in the part of
it that comes last (`Entries.find?_ofList_append`), and a part for one field has something under
the name of this field and under no other (`PlotRequest.find?_setField`).

For requests to change a plot this comes to one statement about all of them, whichever of the
seven things they may say they do say (`PlotRequest.ofJson?_toJson`). That their text can be
read at all follows from its having few levels and numbers of few digits (`Json.Plain`).
-/

namespace StripChart

/-! ### Entries that are put in order -/

namespace Entries

variable {β : Type}

theorem find?_insert (name other : String) (value : β) (entries : List (String × β)) :
    find? other (insert name value entries)
      = if other = name then some value else find? other entries := by
  split
  · rename_i heq
    rw [heq, find?_insert_self]
  · rename_i hne
    exact find?_insert_of_ne hne value entries

theorem find?_foldl_insert (name : String) (entries table : List (String × β)) :
    find? name (entries.foldl (fun table entry => insert entry.1 entry.2 table) table)
      = (find? name (ofList entries)).or (find? name table) := by
  induction entries generalizing table with
  | nil => rfl
  | cons entry rest ih =>
    rw [ofList, List.foldl_cons, List.foldl_cons, ih, ih (insert entry.1 entry.2 []),
      find?_insert, find?_insert, Option.or_assoc]
    congr 1
    split <;> rfl

/-- **The later entries are found first.** -/
theorem find?_ofList_append (name : String) (first second : List (String × β)) :
    find? name (ofList (first ++ second))
      = (find? name (ofList second)).or (find? name (ofList first)) := by
  rw [ofList, List.foldl_append]
  exact find?_foldl_insert name second _

theorem find?_ofList_cons (name : String) (entry : String × β) (rest : List (String × β)) :
    find? name (ofList (entry :: rest))
      = (find? name (ofList rest)).or (if name = entry.1 then some entry.2 else none) :=
  (find?_ofList_append name [entry] rest).trans
    (congrArg _ (find?_insert entry.1 name entry.2 []))

/-- What is found is one of the entries. -/
theorem mem_of_find?_eq_some {name : String} {value : β}
    {entries : List (String × β)} (h : find? name entries = some value) :
    (name, value) ∈ entries := by
  induction entries with
  | nil => cases h
  | cons head rest ih =>
    rw [find?] at h
    split at h
    · rename_i hname
      rw [hname, ← Option.some.inj h]
      exact List.mem_cons_self
    · exact List.mem_cons_of_mem _ (ih h)

theorem mem_of_mem_ofList {entry : String × β} {entries : List (String × β)}
    (h : entry ∈ ofList entries) : entry ∈ entries := by
  induction entries using List.reverseRecOn with
  | nil => exact h
  | append_singleton entries last ih =>
    have hlast : ofList (entries ++ [last]) = insert last.1 last.2 (ofList entries) := by
      rw [ofList, List.foldl_append]
      rfl
    rw [hlast] at h
    rcases mem_insert h with rfl | hmem
    · exact List.mem_append_right _ List.mem_cons_self
    · exact List.mem_append_left _ (ih hmem)

end Entries

/-! ### Values of few levels -/

namespace Json

theorem orderedEntries_of_forall {entries : List (String × Json)}
    (h : ∀ entry ∈ entries, entry.2.Ordered) : OrderedEntries entries := by
  induction entries with
  | nil => trivial
  | cons entry rest ih =>
    exact ⟨h entry List.mem_cons_self, ih fun other hmem => h other (List.mem_cons_of_mem _ hmem)⟩

theorem depthEntries_le {levels : Nat} {entries : List (String × Json)}
    (h : ∀ entry ∈ entries, entry.2.depth ≤ levels) : depthEntries entries ≤ levels := by
  induction entries with
  | nil => exact Nat.zero_le _
  | cons entry rest ih =>
    exact Nat.max_le.2
      ⟨h entry List.mem_cons_self, ih fun other hmem => h other (List.mem_cons_of_mem _ hmem)⟩

/-- The numbers among the tokens of entries are those of their values. -/
theorem exists_of_mem_moreEntryTokens {number : Number} {entries : List (String × Json)}
    (h : .number number ∈ moreEntryTokens entries) :
    ∃ entry ∈ entries, .number number ∈ entry.2.tokens := by
  induction entries with
  | nil => cases h
  | cons entry rest ih =>
    simp only [moreEntryTokens, List.mem_cons, List.mem_append, reduceCtorEq, false_or] at h
    rcases h with hvalue | hrest
    · exact ⟨entry, List.mem_cons_self, hvalue⟩
    · obtain ⟨other, hmem, hother⟩ := ih hrest
      exact ⟨other, List.mem_cons_of_mem _ hmem, hother⟩

theorem exists_of_mem_entryTokens {number : Number} {entries : List (String × Json)}
    (h : .number number ∈ entryTokens entries) :
    ∃ entry ∈ entries, .number number ∈ entry.2.tokens := by
  cases entries with
  | nil => cases h
  | cons entry rest =>
    -- a comma in front makes no difference
    exact @exists_of_mem_moreEntryTokens number (entry :: rest) (List.mem_cons_of_mem _ h)

/-- **A plain value**: its objects are in order, it has so many levels at most, and every number
in it reads back. -/
structure Plain (levels : Nat) (value : Json) : Prop where
  /-- Objects have their keys in order. -/
  ordered : value.Ordered
  /-- There are so many levels at most. -/
  depth_le : value.depth ≤ levels
  /-- Numbers read back. -/
  readsBack_number {number : Number} : .number number ∈ value.tokens → number.ReadsBack

theorem plain_string (text : String) : Plain 0 (.string text) :=
  ⟨trivial, Nat.le_refl _, fun h => by simp [tokens] at h⟩

theorem plain_bool (value : Bool) : Plain 0 (.bool value) :=
  ⟨trivial, Nat.le_refl _, fun h => by simp [tokens] at h⟩

theorem plain_ofNat {n : Nat} (h : n < 18446744073709551616) : Plain 0 (.ofNat n) := by
  refine ⟨trivial, Nat.le_refl _, fun hnumber => ?_⟩
  obtain rfl := Token.number.inj (List.mem_singleton.1 hnumber)
  exact Number.readsBack_integer (by omega) (by omega)

/-- An object of plain values is plain, with one level more. -/
theorem plain_ofEntries {levels : Nat} {entries : List (String × Json)}
    (h : ∀ entry ∈ entries, entry.2.Plain levels) : Plain (levels + 1) (ofEntries entries) where
  ordered := ⟨Entries.sorted_ofList entries,
    orderedEntries_of_forall fun entry hmem => (h entry (Entries.mem_of_mem_ofList hmem)).ordered⟩
  depth_le := Nat.succ_le_succ
    (depthEntries_le fun entry hmem => (h entry (Entries.mem_of_mem_ofList hmem)).depth_le)
  readsBack_number {number} hnumber := by
    simp only [ofEntries, tokens, List.mem_cons, List.mem_append, List.not_mem_nil, reduceCtorEq,
      false_or, or_false] at hnumber
    obtain ⟨entry, hmem, hentry⟩ := exists_of_mem_entryTokens hnumber
    exact (h entry (Entries.mem_of_mem_ofList hmem)).readsBack_number hentry

/-- **Plain values of few levels read back.** -/
theorem Plain.readsBack {levels : Nat} {value : Json} (h : value.Plain levels)
    (hle : levels ≤ maxDepth) : value.ReadsBack :=
  readsBack_of_ordered h.ordered (Nat.le_trans h.depth_le hle) fun _ => h.readsBack_number

/-- A field that may be left out is read as it was written, set or not, if its value is never
written as `null`. -/
theorem optional_map {γ : Type} {read : Json → Option γ} {write : γ → Json}
    (hread : ∀ c, read (write c) = some c) (hnull : ∀ c, write c ≠ .null) (value : Option γ) :
    optional read (value.map write) = some value := by
  cases value with
  | none => rfl
  | some c =>
    have hsome : optional read (some (write c)) = (read (write c)).map some := by
      cases hwrite : write c with
      | null => exact absurd hwrite (hnull c)
      | _ => rfl
    rw [Option.map_some, hsome, hread, Option.map_some]

end Json

/-! ### Requests to change a plot -/

namespace PlotRequest

/-- A width or height has few digits enough to be read. -/
theorem pixels?_pixelsToJson (pixels : UInt32) : pixels? (pixelsToJson pixels) = some pixels := by
  rw [pixels?, pixelsToJson, Json.ofNat, Json.nat?,
    if_pos ⟨Int.natCast_nonneg _, Int.ofNat_lt.2 pixels.toNat_lt⟩]
  simp

/-- **A field that may be left out** is found under its own name, if it is set, and under no
other. -/
theorem find?_setField {γ : Type} (name key : String) (write : γ → Json) (value : Option γ) :
    Entries.find? name (Entries.ofList (setField key write value))
      = if name = key then value.map write else none := by
  cases value with
  | none => exact (ite_self none).symm
  | some c => exact Entries.find?_insert key name (write c) []

/-- **Every request is read as it was written**, and what it does not say is not said. -/
theorem ofJson?_toJson (request : PlotRequest) : ofJson? request.toJson = some request := by
  have hfind (name : String) : Entries.find? name (Entries.ofList request.fields) = _ :=
    Entries.find?_ofList_cons name _ _
  have hstring := @Json.optional_map String Json.string? .string (fun _ => rfl)
    fun _ => Json.noConfusion
  have hbool := @Json.optional_map Bool Json.bool? .bool (fun _ => rfl) fun _ => Json.noConfusion
  have hpixels := @Json.optional_map UInt32 pixels? pixelsToJson pixels?_pixelsToJson
    fun _ => Json.noConfusion
  simp only [Entries.find?_ofList_append, find?_setField] at hfind
  rw [ofJson?, toJson, Json.ofEntries, Json.isRecord, if_pos rfl]
  simp only [Json.field?, hfind]
  simp [hstring, hbool, hpixels, Json.required, Json.string?]

theorem plain_toJson (request : PlotRequest) : request.toJson.Plain 1 := by
  refine Json.plain_ofEntries fun entry hmem => ?_
  have hset {γ : Type} {key : String} {write : γ → Json} {value : Option γ}
      (hplain : ∀ c, (write c).Plain 0) (hmem : entry ∈ setField key write value) :
      entry.2.Plain 0 := by
    obtain ⟨c, -, rfl⟩ := List.mem_map.1 hmem
    exact hplain c
  have hpixels (pixels : UInt32) : (pixelsToJson pixels).Plain 0 :=
    Json.plain_ofNat (Nat.lt_trans pixels.toNat_lt (by decide))
  rw [fields] at hmem
  simp only [List.mem_cons, List.mem_append] at hmem
  rcases hmem with rfl | (((((hmem | hmem) | hmem) | hmem) | hmem) | hmem) | hmem
  · exact Json.plain_string _
  · exact hset Json.plain_string hmem
  · exact hset Json.plain_bool hmem
  · exact hset Json.plain_string hmem
  · exact hset Json.plain_bool hmem
  · exact hset hpixels hmem
  · exact hset hpixels hmem
  · exact hset Json.plain_bool hmem

end PlotRequest

end StripChart
