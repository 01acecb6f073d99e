/-!
# Entries kept by name

Tabs, channels, handlers, counters and the entries of a message are all addressed by a
name, and whenever they are walked they are walked in the order of their names. This
file holds the one table they share.

There are two layers. `Entries` is the theory of plain lists of pairs: insertion at the
place of the name (replacing what stood there), look-up and removal. It is stated on
lists because a JSON object holds its entries as a list inside an inductive type. On top
of it, `ByName α` is a table whose entries are known to be in strictly ascending order
of name, so that no name occurs twice and two tables with the same look-ups are equal
(`ByName.ext_find?`).

Names are compared by their characters' code points, which for well-formed text is the
order of the UTF-8 bytes.
-/

namespace StripChart

variable {α β : Type}

namespace Entries

/-! ### Lists of named entries -/

/-- Puts `value` under `name`, at the place the name has in ascending order; an entry
of that name is replaced. -/
def insert (name : String) (value : α) : List (String × α) → List (String × α)
  | [] => [(name, value)]
  | entry :: rest =>
    if name < entry.1 then (name, value) :: entry :: rest
    else if name = entry.1 then (name, value) :: rest
    else entry :: insert name value rest

/-- The value under `name`. -/
def find? (name : String) : List (String × α) → Option α
  | [] => none
  | entry :: rest => if name = entry.1 then some entry.2 else find? name rest

/-- Removes the entry under `name`. -/
def erase (name : String) : List (String × α) → List (String × α)
  | [] => []
  | entry :: rest => if name = entry.1 then rest else entry :: erase name rest

/-- The entries of a list inserted one after the other, so that of two entries with one
name the later stays. -/
def ofList (entries : List (String × α)) : List (String × α) :=
  entries.foldl (fun table entry => insert entry.1 entry.2 table) []

/-- The names ascend strictly. -/
def Sorted (entries : List (String × α)) : Prop :=
  entries.Pairwise fun a b => a.1 < b.1

instance (entries : List (String × α)) : Decidable (Sorted entries) :=
  inferInstanceAs (Decidable (List.Pairwise _ _))

theorem sorted_nil : Sorted ([] : List (String × α)) :=
  List.Pairwise.nil

/-! ### What insertion and removal do to membership and order -/

theorem mem_insert {name : String} {value : α} {entry : String × α}
    {entries : List (String × α)} (h : entry ∈ insert name value entries) :
    entry = (name, value) ∨ entry ∈ entries := by
  induction entries with
  | nil => exact .inl (List.mem_singleton.1 h)
  | cons head rest ih =>
    simp only [insert] at h
    split at h
    · exact List.mem_cons.1 h
    · split at h
      · rcases List.mem_cons.1 h with h | h
        · exact .inl h
        · exact .inr (List.mem_cons_of_mem _ h)
      · rcases List.mem_cons.1 h with h | h
        · exact .inr (h ▸ List.mem_cons_self)
        · exact (ih h).imp_right (List.mem_cons_of_mem _)

theorem mem_of_mem_erase {name : String} {entry : String × α}
    {entries : List (String × α)} (h : entry ∈ erase name entries) : entry ∈ entries := by
  induction entries with
  | nil => exact nomatch h
  | cons head rest ih =>
    simp only [erase] at h
    split at h
    · exact List.mem_cons_of_mem _ h
    · rcases List.mem_cons.1 h with h | h
      · exact h ▸ List.mem_cons_self
      · exact List.mem_cons_of_mem _ (ih h)

private theorem lt_of_not_lt_of_ne {a b : String} (hlt : ¬a < b) (hne : a ≠ b) : b < a := by
  rcases String.le_total a b with h | h
  · exact absurd (String.le_antisymm h (String.not_lt.1 hlt)) hne
  · exact String.not_le.1 fun h' => hne (String.le_antisymm h' h)

theorem sorted_insert (name : String) (value : α) {entries : List (String × α)}
    (h : Sorted entries) : Sorted (insert name value entries) := by
  induction entries with
  | nil => exact List.pairwise_singleton _ _
  | cons head rest ih =>
    have hrest := (List.pairwise_cons.1 h).2
    have hhead := (List.pairwise_cons.1 h).1
    simp only [insert]
    split
    · rename_i hlt
      refine List.pairwise_cons.2 ⟨fun entry hmem => ?_, h⟩
      rcases List.mem_cons.1 hmem with rfl | hmem
      · exact hlt
      · exact String.lt_trans hlt (hhead entry hmem)
    · rename_i hlt
      split
      · rename_i heq
        exact List.pairwise_cons.2 ⟨fun entry hmem => heq ▸ hhead entry hmem, hrest⟩
      · rename_i hne
        refine List.pairwise_cons.2 ⟨fun entry hmem => ?_, ih hrest⟩
        rcases mem_insert hmem with rfl | hmem
        · exact lt_of_not_lt_of_ne hlt hne
        · exact hhead entry hmem

theorem sorted_erase (name : String) {entries : List (String × α)} (h : Sorted entries) :
    Sorted (erase name entries) := by
  induction entries with
  | nil => exact h
  | cons head rest ih =>
    simp only [erase]
    split
    · exact (List.pairwise_cons.1 h).2
    · exact List.pairwise_cons.2
        ⟨fun entry hmem => (List.pairwise_cons.1 h).1 entry (mem_of_mem_erase hmem),
          ih (List.pairwise_cons.1 h).2⟩

theorem sorted_ofList (entries : List (String × α)) : Sorted (ofList entries) := by
  suffices ∀ table : List (String × α), Sorted table →
      Sorted (entries.foldl (fun table entry => insert entry.1 entry.2 table) table) from
    this [] sorted_nil
  induction entries with
  | nil => exact fun _ h => h
  | cons entry rest ih => exact fun table h => ih _ (sorted_insert entry.1 entry.2 h)

/-! ### Look-ups -/

@[simp] theorem find?_nil (name : String) : find? name ([] : List (String × α)) = none :=
  rfl

theorem find?_insert_self (name : String) (value : α) (entries : List (String × α)) :
    find? name (insert name value entries) = some value := by
  induction entries with
  | nil => simp [insert, find?]
  | cons head rest ih =>
    simp only [insert]
    split
    · simp [find?]
    · split
      · simp [find?]
      · rename_i hne
        simp [find?, hne, ih]

theorem find?_insert_of_ne {name other : String} (h : other ≠ name) (value : α)
    (entries : List (String × α)) :
    find? other (insert name value entries) = find? other entries := by
  induction entries with
  | nil => simp [insert, find?, h]
  | cons head rest ih =>
    simp only [insert]
    split
    · simp [find?, h]
    · split
      · rename_i heq
        simp [find?, h, heq ▸ h]
      · simp [find?, ih]

theorem find?_eq_none_of_forall_lt {name : String} {entries : List (String × α)}
    (h : ∀ entry ∈ entries, name < entry.1) : find? name entries = none := by
  induction entries with
  | nil => rfl
  | cons head rest ih =>
    have hne : name ≠ head.1 := fun heq =>
      String.lt_irrefl _ (heq ▸ h head List.mem_cons_self)
    simp [find?, hne, ih fun entry hmem => h entry (List.mem_cons_of_mem _ hmem)]

theorem find?_erase_self (name : String) {entries : List (String × α)} (h : Sorted entries) :
    find? name (erase name entries) = none := by
  induction entries with
  | nil => rfl
  | cons head rest ih =>
    simp only [erase]
    split
    · rename_i heq
      exact find?_eq_none_of_forall_lt (heq ▸ (List.pairwise_cons.1 h).1)
    · rename_i hne
      simp [find?, hne, ih (List.pairwise_cons.1 h).2]

theorem find?_erase_of_ne {name other : String} (h : other ≠ name)
    (entries : List (String × α)) : find? other (erase name entries) = find? other entries := by
  induction entries with
  | nil => rfl
  | cons head rest ih =>
    simp only [erase]
    split
    · rename_i heq
      simp [find?, heq ▸ h]
    · simp [find?, ih]

/-- In a list in strict order the entries are what look-ups find. -/
theorem find?_eq_some_iff {name : String} {value : α} {entries : List (String × α)}
    (h : Sorted entries) : find? name entries = some value ↔ (name, value) ∈ entries := by
  induction entries with
  | nil => simp
  | cons head rest ih =>
    obtain ⟨hlt, hrest⟩ := List.pairwise_cons.1 h
    rw [find?, List.mem_cons]
    split
    · rename_i heq
      constructor
      · intro hvalue
        exact Or.inl (Prod.ext heq (Option.some.inj hvalue).symm)
      · rintro (rfl | hmem)
        · rfl
        · -- a later entry has a greater name
          exact absurd (heq ▸ hlt _ hmem) (String.lt_irrefl _)
    · rename_i hne
      rw [ih hrest]
      constructor
      · exact Or.inr
      · rintro (rfl | hmem)
        · exact absurd rfl hne
        · exact hmem

/-- Lists in strict order that answer every look-up alike are equal. -/
theorem eq_of_find?_eq {first second : List (String × α)} (hfirst : Sorted first)
    (hsecond : Sorted second) (h : ∀ name, find? name first = find? name second) :
    first = second := by
  induction first generalizing second with
  | nil =>
    cases second with
    | nil => rfl
    | cons head rest => simpa [find?] using h head.1
  | cons head rest ih =>
    cases second with
    | nil => simpa [find?] using h head.1
    | cons other rest' =>
      have hlt := (List.pairwise_cons.1 hfirst).1
      have hlt' := (List.pairwise_cons.1 hsecond).1
      have hname : head.1 = other.1 := by
        false_or_by_contra
        rename_i hne
        by_cases hcmp : head.1 < other.1
        · have hnone : find? head.1 (other :: rest') = none :=
            find?_eq_none_of_forall_lt fun entry hmem => by
              rcases List.mem_cons.1 hmem with rfl | hmem
              · exact hcmp
              · exact String.lt_trans hcmp (hlt' entry hmem)
          simpa [find?] using (h head.1).trans hnone
        · have hcmp' := lt_of_not_lt_of_ne hcmp hne
          have hnone : find? other.1 (head :: rest) = none :=
            find?_eq_none_of_forall_lt fun entry hmem => by
              rcases List.mem_cons.1 hmem with rfl | hmem
              · exact hcmp'
              · exact String.lt_trans hcmp' (hlt entry hmem)
          simpa [find?] using (h other.1).symm.trans hnone
      have hvalue : head.2 = other.2 := by
        simpa [find?, hname] using h head.1
      have htail : rest = rest' := by
        refine ih (List.pairwise_cons.1 hfirst).2 (List.pairwise_cons.1 hsecond).2 fun name => ?_
        by_cases heq : name = head.1
        · rw [find?_eq_none_of_forall_lt (heq ▸ hlt),
            find?_eq_none_of_forall_lt (heq ▸ hname ▸ hlt')]
        · simpa [find?, heq, hname ▸ heq] using h name
      rw [htail, Prod.ext hname hvalue]

/-! ### Walking the values -/

/-- The list with every value replaced by what `f` makes of it. -/
def mapValues (f : α → β) (entries : List (String × α)) : List (String × β) :=
  entries.map fun entry => (entry.1, f entry.2)

theorem sorted_mapValues (f : α → β) {entries : List (String × α)} (h : Sorted entries) :
    Sorted (mapValues f entries) :=
  List.pairwise_map.2 h

theorem find?_mapValues (f : α → β) (name : String) (entries : List (String × α)) :
    find? name (mapValues f entries) = (find? name entries).map f := by
  induction entries with
  | nil => rfl
  | cons head rest ih =>
    simp only [mapValues, List.map_cons, find?]
    split
    · rfl
    · exact ih

/-- Among entries that are kept for their names, those names are found that are kept. -/
theorem find?_filter (keep : String → Bool) (name : String) (entries : List (String × α)) :
    find? name (entries.filter fun entry => keep entry.1)
      = if keep name then find? name entries else none := by
  induction entries with
  | nil => exact (ite_self none).symm
  | cons head rest ih =>
    by_cases hname : name = head.1
    · subst hname
      cases hkeep : keep head.1 with
      | true => simp [hkeep, find?]
      | false => simp [hkeep, ih]
    · cases hkeep : keep head.1 with
      | true => simp [hkeep, find?, hname, ih]
      | false => simp [hkeep, find?, hname, ih]

end Entries

/-! ### Tables -/

/-- A table of values by name, its entries in strictly ascending order of name. -/
structure ByName (α : Type) where
  /-- The entries, in the order of their names. -/
  entries : List (String × α)
  /-- No name stands twice, and each comes after the smaller ones. -/
  sorted : Entries.Sorted entries

namespace ByName

instance [DecidableEq α] : DecidableEq (ByName α) := fun first second =>
  decidable_of_iff (first.entries = second.entries)
    ⟨fun h => by cases first; cases second; congr, fun h => h ▸ rfl⟩

/-- The table with no entry. -/
def empty : ByName α :=
  ⟨[], Entries.sorted_nil⟩

instance : EmptyCollection (ByName α) :=
  ⟨empty⟩

instance : Inhabited (ByName α) :=
  ⟨empty⟩

/-- The table of a list of entries; of two with one name the later stays. -/
def ofList (entries : List (String × α)) : ByName α :=
  ⟨Entries.ofList entries, Entries.sorted_ofList entries⟩

/-- The value under `name`. -/
def find? (table : ByName α) (name : String) : Option α :=
  Entries.find? name table.entries

/-- Whether there is an entry under `name`. -/
def contains (table : ByName α) (name : String) : Bool :=
  (table.find? name).isSome

/-- Puts `value` under `name`, replacing what stood there. -/
def insert (table : ByName α) (name : String) (value : α) : ByName α :=
  ⟨Entries.insert name value table.entries, Entries.sorted_insert name value table.sorted⟩

/-- Removes the entry under `name`, if there is one. -/
def erase (table : ByName α) (name : String) : ByName α :=
  ⟨Entries.erase name table.entries, Entries.sorted_erase name table.sorted⟩

/-- Replaces the value under `name` by what `f` makes of it; without such an entry the
table stays. -/
def modify (table : ByName α) (name : String) (f : α → α) : ByName α :=
  match table.find? name with
  | some value => table.insert name (f value)
  | none => table

/-- The table with every value replaced by what `f` makes of it. -/
def mapValues (f : α → β) (table : ByName α) : ByName β :=
  ⟨Entries.mapValues f table.entries, Entries.sorted_mapValues f table.sorted⟩

/-- The table with only those entries that are to be kept. -/
def filter (keep : String × α → Bool) (table : ByName α) : ByName α :=
  ⟨table.entries.filter keep, table.sorted.filter keep⟩

/-- The names, ascending. -/
def names (table : ByName α) : List String :=
  table.entries.map Prod.fst

/-- The values, in the order of their names. -/
def values (table : ByName α) : List α :=
  table.entries.map Prod.snd

/-- The number of entries. -/
def size (table : ByName α) : Nat :=
  table.entries.length

/-- Tables that answer every look-up alike are equal. -/
theorem ext_find? {first second : ByName α} (h : ∀ name, first.find? name = second.find? name) :
    first = second := by
  cases first with | mk entries sorted =>
  cases second with | mk entries' sorted' =>
  have := Entries.eq_of_find?_eq sorted sorted' h
  subst this
  rfl

@[simp] theorem find?_empty (name : String) : (empty : ByName α).find? name = none :=
  rfl

@[simp] theorem find?_insert_self (table : ByName α) (name : String) (value : α) :
    (table.insert name value).find? name = some value :=
  Entries.find?_insert_self name value table.entries

theorem find?_insert_of_ne (table : ByName α) {name other : String} (h : other ≠ name)
    (value : α) : (table.insert name value).find? other = table.find? other :=
  Entries.find?_insert_of_ne h value table.entries

theorem find?_insert (table : ByName α) (name other : String) (value : α) :
    (table.insert name value).find? other
      = if other = name then some value else table.find? other := by
  split
  · rename_i h
    rw [h, find?_insert_self]
  · rename_i h
    exact table.find?_insert_of_ne h value

@[simp] theorem find?_erase_self (table : ByName α) (name : String) :
    (table.erase name).find? name = none :=
  Entries.find?_erase_self name table.sorted

theorem find?_erase_of_ne (table : ByName α) {name other : String} (h : other ≠ name) :
    (table.erase name).find? other = table.find? other :=
  Entries.find?_erase_of_ne h table.entries

theorem find?_erase (table : ByName α) (name other : String) :
    (table.erase name).find? other = if other = name then none else table.find? other := by
  split
  · rename_i h
    rw [h, find?_erase_self]
  · rename_i h
    exact table.find?_erase_of_ne h

@[simp] theorem find?_mapValues (f : α → β) (table : ByName α) (name : String) :
    (table.mapValues f).find? name = (table.find? name).map f :=
  Entries.find?_mapValues f name table.entries

theorem find?_filter (keep : String → Bool) (table : ByName α) (name : String) :
    (table.filter fun entry => keep entry.1).find? name
      = if keep name then table.find? name else none :=
  Entries.find?_filter keep name table.entries

theorem find?_modify (table : ByName α) (name other : String) (f : α → α) :
    (table.modify name f).find? other
      = if other = name then (table.find? other).map f else table.find? other := by
  unfold modify
  split
  · rename_i value h
    rw [find?_insert]
    split
    · rename_i heq
      rw [heq, h, Option.map_some]
    · rfl
  · rename_i h
    split
    · rename_i heq
      rw [heq, h, Option.map_none]
    · rfl

/-- The entries are what look-ups find. -/
theorem find?_eq_some_iff {table : ByName α} {name : String} {value : α} :
    table.find? name = some value ↔ (name, value) ∈ table.entries :=
  Entries.find?_eq_some_iff table.sorted

/-- Putting in again what is there changes nothing. -/
theorem insert_of_find?_eq_some {table : ByName α} {name : String} {value : α}
    (h : table.find? name = some value) : table.insert name value = table := by
  refine ext_find? fun other => ?_
  rw [find?_insert]
  split
  · rename_i heq
    rw [heq, h]
  · rfl

/-- Of two values that are put in under one name the later stays. -/
@[simp] theorem insert_insert (table : ByName α) (name : String) (first second : α) :
    (table.insert name first).insert name second = table.insert name second := by
  refine ext_find? fun other => ?_
  rw [find?_insert, find?_insert, find?_insert]
  split <;> rfl

/-- Removing a name that is not there changes nothing. -/
theorem erase_of_find?_eq_none {table : ByName α} {name : String} (h : table.find? name = none) :
    table.erase name = table := by
  refine ext_find? fun other => ?_
  rw [find?_erase]
  split
  · rename_i heq
    rw [heq, h]
  · rfl

/-- Replacing a value puts no name in, and takes none away. -/
@[simp] theorem contains_modify (table : ByName α) (name other : String) (f : α → α) :
    (table.modify name f).contains other = table.contains other := by
  rw [contains, find?_modify]
  split
  · exact Option.isSome_map
  · rfl

/-- Replacing a value twice is replacing it once, by what both make of it. -/
theorem modify_modify (table : ByName α) (name : String) (f g : α → α) :
    (table.modify name f).modify name g = table.modify name (g ∘ f) := by
  refine ext_find? fun other => ?_
  simp only [find?_modify]
  split
  · rw [Option.map_map]
  · rfl

/-- Values under two names may be replaced in either order. -/
theorem modify_comm (table : ByName α) {one other : String} (h : one ≠ other) (f g : α → α) :
    (table.modify one f).modify other g = (table.modify other g).modify one f := by
  refine ext_find? fun name => ?_
  simp only [find?_modify]
  by_cases hone : name = one
  · subst hone
    rw [if_pos rfl, if_neg h, if_pos rfl, if_neg h]
  · rw [if_neg hone, if_neg hone]

/-- It makes no difference whether values are replaced before one is put in or after. -/
theorem mapValues_insert (f : α → β) (table : ByName α) (name : String) (value : α) :
    (table.insert name value).mapValues f = (table.mapValues f).insert name (f value) := by
  refine ext_find? fun other => ?_
  rw [find?_mapValues, find?_insert, find?_insert, find?_mapValues]
  split <;> rfl

/-- It makes no difference whether values are replaced before one is removed or after. -/
theorem mapValues_erase (f : α → β) (table : ByName α) (name : String) :
    (table.erase name).mapValues f = (table.mapValues f).erase name := by
  refine ext_find? fun other => ?_
  rw [find?_mapValues, find?_erase, find?_erase, find?_mapValues]
  split <;> rfl

end ByName

end StripChart
