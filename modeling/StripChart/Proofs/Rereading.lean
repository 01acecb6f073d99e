import Mathlib.Data.List.Forall2
import StripChart.Message.TabNews
import StripChart.Proofs.Records

/-!
# News that is written and read again

The news for a tab has three entries with a meaning, and others that are kept as they came. Each
of the three is read and written in a manner of its own: points are always written, a log line by
itself only if there is one, a list of log lines only if it is not empty. So what is written is
seldom what was read. But it gives the same news (`TabNews.IsGivenBy`), and the news is all that
is read from it.

That a list of entries gives certain news is a matter of look-ups alone, for the points of each
channel no less than for the entries (`TabNews.ofJson?_eq_some_iff`). What is found among the
entries that are written is found in one of four parts, of which the last, with all that was kept,
has none of the names of the others (`TabNews.find?_written`).
-/

namespace StripChart

/-! ### Lists and tables -/

section Rows

variable {α β : Type} {read : α → Option β}

/-- A row is read place by place. -/
theorem mapM_eq_some_iff {list : List α} {items : List β} :
    list.mapM read = some items
      ↔ List.Forall₂ (fun element item => read element = some item) list items := by
  induction list generalizing items with
  | nil =>
    rw [List.mapM_nil, List.forall₂_nil_left_iff]
    exact ⟨fun h => (Option.some.inj h).symm, fun h => congrArg some h.symm⟩
  | cons first rest ih =>
    rw [List.mapM_cons, List.forall₂_cons_left_iff]
    constructor
    · intro h
      obtain ⟨head, hhead, h⟩ := Option.bind_eq_some_iff.1 h
      obtain ⟨tail, htail, h⟩ := Option.bind_eq_some_iff.1 h
      exact ⟨head, tail, hhead, ih.1 htail, (Option.some.inj h).symm⟩
    · rintro ⟨head, tail, hhead, htail, rfl⟩
      rw [hhead, ih.2 htail]
      rfl

theorem exists_mapM_eq_some {list : List α}
    (h : ∀ element ∈ list, ∃ item, read element = some item) :
    ∃ items, list.mapM read = some items := by
  induction list with
  | nil => exact ⟨[], rfl⟩
  | cons first rest ih =>
    obtain ⟨⟨head, hhead⟩, hrest⟩ := List.forall_mem_cons.1 h
    obtain ⟨tail, htail⟩ := ih hrest
    exact ⟨head :: tail, mapM_eq_some_iff.2 (.cons hhead (mapM_eq_some_iff.1 htail))⟩

end Rows

/-- A table of entries that are in order has these entries. -/
theorem ByName.find?_ofList_of_sorted {β : Type} {entries : List (String × β)}
    (h : Entries.Sorted entries) (name : String) :
    (ofList entries).find? name = Entries.find? name entries :=
  congrArg (Entries.find? name) (Entries.ofList_of_sorted h)

namespace Json

variable {β : Type} {read : Json → Option β} {value : Json} {items : List β}
  {entries : List (String × Json)} {table : ByName β}

theorem list?_eq_some_iff : list? read value = some items ↔ ∃ elements, value = .array elements ∧
    List.Forall₂ (fun element item => read element = some item) elements items := by
  cases value with
  | array elements =>
    rw [list?, mapM_eq_some_iff]
    exact ⟨fun h => ⟨elements, rfl, h⟩, fun ⟨_, heq, h⟩ => Json.array.inj heq ▸ h⟩
  | _ => exact ⟨nofun, nofun⟩

/-- A list of texts. -/
theorem list?_string?_eq_some_iff {lines : List String} :
    list? string? value = some lines ↔ value = .array (lines.map .string) := by
  have hstring {elements : List Json} : List.Forall₂
      (fun element line => string? element = some line) elements lines
        ↔ elements = lines.map .string := by
    rw [← List.forall₂_eq_eq_eq, List.forall₂_map_right_iff]
    have hread (element : Json) (line : String) :
        string? element = some line ↔ element = .string line := by
      cases element <;> simp [string?]
    simp only [hread]
  simp [list?_eq_some_iff, hstring]

/-- What is read is unique. -/
theorem eq_of_rel {found : Option Json} {first second : Option β}
    (h : Option.Rel (fun value item => read value = some item) found first)
    (h' : Option.Rel (fun value item => read value = some item) found second) :
    first = second := by
  cases h with
  | none =>
    cases h'
    rfl
  | some hfirst =>
    obtain ⟨hsecond⟩ := h'
    exact hfirst.symm.trans hsecond

theorem exists_of_rel_some {item : Option β}
    (h : Option.Rel (fun value item => read value = some item) (some value) item) :
    ∃ found, read value = some found := by
  obtain ⟨hfound⟩ := h
  exact ⟨_, hfound⟩

section Table

variable {values : List (String × β)}
  (h : (entries.mapM fun entry => do return (entry.1, ← read entry.2)) = some values)

include h

/-- What is read from entries has their names, in their order. -/
theorem sorted_of_mapM (hsorted : Entries.Sorted entries) : Entries.Sorted values := by
  have hnames : entries.map Prod.fst = values.map Prod.fst := by
    rw [mapM_eq_some_iff] at h
    induction h with
    | nil => rfl
    | cons hvalue _ ih =>
      obtain ⟨item, -, heq⟩ := Option.bind_eq_some_iff.1 hvalue
      obtain rfl := Option.some.inj heq
      rw [List.map_cons, List.map_cons, ih (List.pairwise_cons.1 hsorted).2]
  have hpairwise : (entries.map Prod.fst).Pairwise (· < ·) := List.pairwise_map.2 hsorted
  rw [hnames] at hpairwise
  exact List.pairwise_map.1 hpairwise

theorem rel_find?_of_mapM (name : String) :
    Option.Rel (fun value item => read value = some item) (Entries.find? name entries)
      (Entries.find? name values) := by
  rw [mapM_eq_some_iff] at h
  induction h with
  | nil => exact .none
  | cons hvalue _ ih =>
    obtain ⟨item, hitem, heq⟩ := Option.bind_eq_some_iff.1 hvalue
    obtain rfl := Option.some.inj heq
    rw [Entries.find?, Entries.find?]
    split
    · exact .some hitem
    · exact ih

end Table

/-- **A table is read name by name.** -/
theorem table?_eq_some_iff (hsorted : Entries.Sorted entries) :
    table? read (.object entries) = some table ↔ ∀ name,
      Option.Rel (fun value item => read value = some item) (Entries.find? name entries)
        (table.find? name) := by
  have hread {other : ByName β} (h : table? read (.object entries) = some other) (name : String) :
      Option.Rel (fun value item => read value = some item) (Entries.find? name entries)
        (other.find? name) := by
    obtain ⟨values, hvalues, heq⟩ := Option.bind_eq_some_iff.1 h
    obtain rfl := Option.some.inj heq
    rw [ByName.find?_ofList_of_sorted (sorted_of_mapM hvalues hsorted)]
    exact rel_find?_of_mapM hvalues name
  refine ⟨hread, fun h => ?_⟩
  obtain ⟨values, hvalues⟩ : ∃ values,
      (entries.mapM fun entry => do return (entry.1, ← read entry.2)) = some values := by
    refine exists_mapM_eq_some fun entry hmem => ?_
    have hentry := h entry.1
    rw [(Entries.find?_eq_some_iff hsorted).2 hmem] at hentry
    obtain ⟨item, hitem⟩ := exists_of_rel_some hentry
    exact ⟨(entry.1, item), Option.bind_eq_some_iff.2 ⟨item, hitem, rfl⟩⟩
  have htable : table? read (.object entries) = some (ByName.ofList values) :=
    Option.bind_eq_some_iff.2 ⟨values, hvalues, rfl⟩
  rw [htable]
  refine congrArg some (ByName.ext_find? fun name => ?_)
  exact eq_of_rel (hread htable name) (h name)

theorem ordered_of_mem (h : OrderedEntries entries) {entry : String × Json}
    (hmem : entry ∈ entries) : entry.2.Ordered := by
  induction entries with
  | nil => cases hmem
  | cons first rest ih =>
    rcases List.mem_cons.1 hmem with rfl | hmem
    · exact h.1
    · exact ih h.2 hmem

/-- A field that may be left out or be `null`, and is a text otherwise. -/
theorem optional_string?_eq_some_iff {found : Option Json} {line : Option String} :
    optional string? found = some line ↔
      found = line.map .string ∨ found = some .null ∧ line = none := by
  cases found with
  | none => cases line <;> simp [optional]
  | some value => cases value <;> cases line <;> simp [optional, string?]

/-- A field that may be left out, and is a list of texts otherwise. -/
theorem defaulted_list?_eq_some_iff {found : Option Json} {lines : List String} :
    defaulted [] (list? string?) found = some lines ↔
      found = none ∧ lines = [] ∨ found = some (.array (lines.map .string)) := by
  cases found with
  | none => simp [defaulted, eq_comm]
  | some value => simp [defaulted, list?_string?_eq_some_iff]

end Json

/-! ### Points -/

namespace WirePoint

variable {element value : Json} {points : List WirePoint}

/-- **A point is given** by a pair of any value and a number, which is its time. -/
def IsGivenBy (element : Json) (point : WirePoint) : Prop :=
  ∃ number, element = .array [point.value, .number number] ∧ point.timestamp = number.toFloat

/-- Points are given by a list, in order. -/
def AreGivenBy (value : Json) (points : List WirePoint) : Prop :=
  ∃ elements, value = .array elements ∧ List.Forall₂ IsGivenBy elements points

theorem ofJson?_eq_some_iff {point : WirePoint} :
    ofJson? element = some point ↔ IsGivenBy element point := by
  constructor
  · intro h
    unfold ofJson? at h
    split at h
    · rename_i value timestamp
      obtain ⟨x, hx, hpoint⟩ := Option.bind_eq_some_iff.1 h
      obtain rfl := Option.some.inj hpoint
      cases timestamp with
      | number number => exact ⟨number, rfl, (Option.some.inj hx).symm⟩
      | _ => cases hx
    · cases h
  · rintro ⟨number, rfl, htimestamp⟩
    obtain ⟨value, timestamp⟩ := point
    obtain rfl := htimestamp
    rfl

theorem list?_ofJson?_eq_some_iff :
    Json.list? ofJson? value = some points ↔ AreGivenBy value points := by
  simp only [Json.list?_eq_some_iff, ofJson?_eq_some_iff, AreGivenBy]

/-- Points that are written give themselves. -/
theorem areGivenBy_toJson (points : List WirePoint) :
    AreGivenBy (.array (points.map toJson)) points := by
  refine ⟨_, rfl, List.forall₂_map_left_iff.2 (List.forall₂_same.2 fun point _ => ?_)⟩
  exact ⟨.double point.timestamp, rfl, rfl⟩

end WirePoint

namespace TabNews

variable {entries : List (String × Json)} {news : TabNews} {value : Json} {key : String}

/-- **Entries give the news** for a tab. -/
structure IsGivenBy (entries : List (String × Json)) (news : TabNews) : Prop where
  /-- The points stand in a table by channel, which may be left out. -/
  points : Entries.find? "points" entries = none ∧ news.points = .empty ∨
    ∃ channels, Entries.find? "points" entries = some (.object channels) ∧ ∀ channel,
      Option.Rel WirePoint.AreGivenBy (Entries.find? channel channels)
        (news.points.find? channel)
  /-- The line by itself may be left out or be `null`. -/
  logMessage : Entries.find? "log_message" entries = news.logMessage.map .string ∨
    Entries.find? "log_message" entries = some .null ∧ news.logMessage = none
  /-- The list of lines may be left out. -/
  logMessages : Entries.find? "log_messages" entries = none ∧ news.logMessages = [] ∨
    Entries.find? "log_messages" entries = some (.array (news.logMessages.map .string))
  /-- All other entries are kept, and these have none of the three names. -/
  extra (key : String) :
    news.extra.find? key = if key ∈ ownKeys then none else Entries.find? key entries

/-- The objects that are looked into have their keys in order. -/
structure IsInOrder (entries : List (String × Json)) : Prop where
  /-- The news itself. -/
  sorted : Entries.Sorted entries
  /-- The table of points. -/
  sorted_points {channels : List (String × Json)}
    (h : Entries.find? "points" entries = some (.object channels)) : Entries.Sorted channels

theorem defaulted_table?_eq_some_iff (horder : IsInOrder entries)
    {points : ByName (List WirePoint)} :
    Json.defaulted .empty (Json.table? (Json.list? WirePoint.ofJson?))
        (Entries.find? "points" entries) = some points ↔
      Entries.find? "points" entries = none ∧ points = .empty ∨
        ∃ channels, Entries.find? "points" entries = some (.object channels) ∧ ∀ channel,
          Option.Rel WirePoint.AreGivenBy (Entries.find? channel channels)
            (points.find? channel) := by
  rcases hfind : Entries.find? "points" entries with - | value
  · simp [Json.defaulted, eq_comm]
  · cases value with
    | object channels =>
      simp [Json.defaulted, Json.table?_eq_some_iff (horder.sorted_points hfind),
        WirePoint.list?_ofJson?_eq_some_iff]
    | _ => simp [Json.defaulted, Json.table?]

/-- All entries but those of the three names are kept. -/
theorem find?_kept (horder : IsInOrder entries) (key : String) :
    (ByName.ofList (entries.filter fun entry => entry.1 ∉ ownKeys)).find? key
      = if key ∈ ownKeys then none else Entries.find? key entries := by
  rw [ByName.find?_ofList_of_sorted (horder.sorted.filter _),
    Entries.find?_filter (fun name => name ∉ ownKeys)]
  simp

/-- What each part of the news is read from. -/
theorem ofJson?_object_eq_some_iff : ofJson? (.object entries) = some news ↔
    Json.defaulted .empty (Json.table? (Json.list? WirePoint.ofJson?))
      (Entries.find? "points" entries) = some news.points ∧
    Json.optional Json.string? (Entries.find? "log_message" entries) = some news.logMessage ∧
    Json.defaulted [] (Json.list? Json.string?) (Entries.find? "log_messages" entries)
      = some news.logMessages ∧
    ByName.ofList (entries.filter fun entry => entry.1 ∉ ownKeys) = news.extra := by
  constructor
  · intro h
    obtain ⟨points, hpoints, h⟩ := Option.bind_eq_some_iff.1 h
    obtain ⟨logMessage, hlogMessage, h⟩ := Option.bind_eq_some_iff.1 h
    obtain ⟨logMessages, hlogMessages, h⟩ := Option.bind_eq_some_iff.1 h
    obtain rfl := Option.some.inj h
    exact ⟨hpoints, hlogMessage, hlogMessages, rfl⟩
  · rintro ⟨hpoints, hlogMessage, hlogMessages, hextra⟩
    rw [ofJson?, hpoints, hlogMessage, hlogMessages, hextra]
    rfl

/-- **Reading news** is finding what the entries give. -/
theorem ofJson?_eq_some_iff (horder : IsInOrder entries) :
    ofJson? (.object entries) = some news ↔ news.IsGivenBy entries := by
  rw [ofJson?_object_eq_some_iff, defaulted_table?_eq_some_iff horder,
    Json.optional_string?_eq_some_iff, Json.defaulted_list?_eq_some_iff]
  constructor
  · rintro ⟨hpoints, hlogMessage, hlogMessages, hextra⟩
    exact ⟨hpoints, hlogMessage, hlogMessages, hextra ▸ find?_kept horder⟩
  · intro h
    refine ⟨h.points, h.logMessage, h.logMessages, ByName.ext_find? fun key => ?_⟩
    rw [find?_kept horder, h.extra]

/-! ### What is written -/

/-- What is written under a key: points always, log lines only if there are any, and all that was
kept as it was. -/
def writtenUnder (news : TabNews) (key : String) : Option Json :=
  if key = "points" then some (pointsJson news.points)
  else if key = "log_message" then news.logMessage.map .string
  else if key = "log_messages" then
    if news.logMessages = [] then none else some (.array (news.logMessages.map .string))
  else news.extra.find? key

/-- **What is written is found under its key**, if nothing that was kept has one of the three
names. -/
theorem find?_written (hextra : ∀ key ∈ ownKeys, news.extra.find? key = none) (key : String) :
    Entries.find? key (Entries.ofList news.fields) = news.writtenUnder key := by
  have hkept : Entries.find? key (Entries.ofList news.extra.entries) = news.extra.find? key :=
    ByName.find?_ofList_of_sorted news.extra.sorted key
  have hline : Entries.find? key (Entries.ofList
      (news.logMessage.toList.map fun line => ("log_message", Json.string line)))
      = if key = "log_message" then news.logMessage.map .string else none :=
    PlotRequest.find?_setField key "log_message" .string news.logMessage
  have hlines : Entries.find? key (Entries.ofList (if news.logMessages.isEmpty then []
      else [("log_messages", Json.array (news.logMessages.map Json.string))]))
      = if key = "log_messages" then if news.logMessages = [] then none
          else some (.array (news.logMessages.map .string)) else none := by
    cases news.logMessages with
    | nil => simp [Entries.ofList]
    | cons line rest => exact Entries.find?_insert "log_messages" key _ []
  rw [fields, Entries.find?_ofList_cons, Entries.find?_ofList_append, Entries.find?_ofList_append,
    hkept, hline, hlines, writtenUnder]
  by_cases hown : key ∈ ownKeys
  · rw [hextra key hown]
    rcases (by simpa [ownKeys] using hown :
      key = "points" ∨ key = "log_message" ∨ key = "log_messages") with rfl | rfl | rfl <;> simp
  · obtain ⟨hpoints, hline, hlines⟩ : key ≠ "points" ∧ key ≠ "log_message" ∧
        key ≠ "log_messages" := by simpa [ownKeys] using hown
    simp [hpoints, hline, hlines]

/-- **What is written gives the news.** -/
theorem isGivenBy_written (hextra : ∀ key ∈ ownKeys, news.extra.find? key = none) :
    news.IsGivenBy (Entries.ofList news.fields) where
  points := by
    refine .inr ⟨_, find?_written hextra "points", fun channel => ?_⟩
    rw [← ByName.find?, ByName.find?_mapValues]
    cases news.points.find? channel with
    | none => exact .none
    | some points => exact .some (WirePoint.areGivenBy_toJson points)
  logMessage := .inl (find?_written hextra "log_message")
  logMessages := by
    rw [find?_written hextra]
    cases hlines : news.logMessages with
    | nil => exact .inl ⟨by simp [writtenUnder, hlines], rfl⟩
    | cons line rest => exact .inr (by simp [writtenUnder, hlines])
  extra key := by
    split
    · rename_i hown
      exact hextra key hown
    · rename_i hown
      obtain ⟨hpoints, hline, hlines⟩ : key ≠ "points" ∧ key ≠ "log_message" ∧
          key ≠ "log_messages" := by simpa [ownKeys] using hown
      rw [find?_written hextra, writtenUnder, if_neg hpoints, if_neg hline, if_neg hlines]

theorem isInOrder_written (hextra : ∀ key ∈ ownKeys, news.extra.find? key = none) :
    IsInOrder (Entries.ofList news.fields) where
  sorted := Entries.sorted_ofList news.fields
  sorted_points h := by
    rw [find?_written hextra] at h
    obtain rfl := Json.object.inj (Option.some.inj h)
    exact ByName.sorted _

theorem ofJson?_toJson (hextra : ∀ key ∈ ownKeys, news.extra.find? key = none) :
    ofJson? news.toJson = some news :=
  (ofJson?_eq_some_iff (isInOrder_written hextra)).2 (isGivenBy_written hextra)

/-! ### What was read -/

/-- Nothing that was kept has one of the three names. -/
theorem find?_extra_of_ofJson? (h : ofJson? value = some news) :
    ∀ key ∈ ownKeys, news.extra.find? key = none := by
  intro key hown
  cases value with
  | object entries =>
    obtain ⟨-, -, -, hextra⟩ := ofJson?_object_eq_some_iff.1 h
    refine Option.eq_none_iff_forall_ne_some.2 fun kept hkept => ?_
    rw [← hextra] at hkept
    have hmem := Entries.mem_of_mem_ofList (ByName.find?_eq_some_iff.1 hkept)
    exact absurd hown (of_decide_eq_true (List.mem_filter.1 hmem).2)
  | _ => cases h

theorem isInOrder_of_ordered (h : (Json.object entries).Ordered) : IsInOrder entries where
  sorted := h.1
  sorted_points hfind := by
    have hpoints := Json.ordered_of_mem h.2 (Entries.mem_of_find?_eq_some hfind)
    exact hpoints.1

/-- **A value gives the news** for a tab. -/
def IsReadFrom (value : Json) (news : TabNews) : Prop :=
  ∃ entries, value = .object entries ∧ news.IsGivenBy entries

theorem ofJson?_eq_some_iff_isReadFrom (hordered : value.Ordered) :
    ofJson? value = some news ↔ IsReadFrom value news := by
  cases value with
  | object entries =>
    rw [ofJson?_eq_some_iff (isInOrder_of_ordered hordered)]
    exact ⟨fun h => ⟨entries, rfl, h⟩, fun ⟨_, heq, h⟩ => Json.object.inj heq ▸ h⟩
  | _ => exact ⟨nofun, nofun⟩

/-- **News survives writing and reading.**

* The news that is read from a value is what its entries give. When it is written, points and log
  lines stand under their own keys, all other entries are as they came, and what is read again is
  the same news.
* The same is true of a table of news, tab by tab. -/
theorem rewritten :
    (∀ value news, value.Ordered → ofJson? value = some news →
      ∃ entries written, value = .object entries ∧ news.IsGivenBy entries ∧
        news.toJson = .object written ∧
        (∀ key, Entries.find? key written = news.writtenUnder key) ∧
        (∀ key, key ∉ ownKeys → Entries.find? key written = Entries.find? key entries) ∧
        ofJson? news.toJson = some news) ∧
    ∀ value table, value.Ordered → tableOfJson? value = some table →
      ∃ tabs written, value = .object tabs ∧ tableJson table = .object written ∧
        (∀ tab, Option.Rel IsReadFrom (Entries.find? tab tabs) (table.find? tab)) ∧
        (∀ tab, Entries.find? tab written = (table.find? tab).map toJson) ∧
        tableOfJson? (tableJson table) = some table := by
  refine ⟨fun value news hordered hnews => ?_, fun value table hordered htable => ?_⟩
  · obtain ⟨entries, rfl, hgiven⟩ := (ofJson?_eq_some_iff_isReadFrom hordered).1 hnews
    have hextra := find?_extra_of_ofJson? hnews
    refine ⟨entries, _, rfl, hgiven, rfl, find?_written hextra, fun key hkey => ?_,
      ofJson?_toJson hextra⟩
    have hkept := (isGivenBy_written hextra).extra key
    rw [hgiven.extra key, if_neg hkey, if_neg hkey] at hkept
    exact hkept.symm
  · cases value with
    | object tabs =>
      have hread := (Json.table?_eq_some_iff hordered.1).1 htable
      refine ⟨tabs, _, rfl, rfl, fun tab => ?_, ByName.find?_mapValues toJson table, ?_⟩
      · have htab := hread tab
        have hmem {value : Json} (hfind : Entries.find? tab tabs = some value) : value.Ordered :=
          Json.ordered_of_mem hordered.2 (Entries.mem_of_find?_eq_some hfind)
        generalize Entries.find? tab tabs = found at htab hmem ⊢
        generalize table.find? tab = news at htab ⊢
        cases htab with
        | none => exact .none
        | some hnews => exact .some ((ofJson?_eq_some_iff_isReadFrom (hmem rfl)).1 hnews)
      · refine (Json.table?_eq_some_iff (ByName.sorted _)).2 fun tab => ?_
        rw [← ByName.find?, ByName.find?_mapValues]
        have htab := hread tab
        generalize Entries.find? tab tabs = found at htab
        generalize table.find? tab = news at htab ⊢
        cases htab with
        | none => exact .none
        | some hnews => exact .some (ofJson?_toJson (find?_extra_of_ofJson? hnews))
    | _ => cases htable

/-- News with a point that reads as no number, no line by itself, one line in a list, and two
entries more. -/
def heatNews : Json :=
  .object [("log_message", .null), ("log_messages", .array [.string "warm"]),
    ("points", .object [("in", .array [.array [.object [("x", .null)], .ofNat 3]]),
      ("out", .array [])]),
    ("status", .string "ok"), ("volts", .array [.null])]

theorem ordered_heatNews : heatNews.Ordered := by
  simp only [heatNews, Json.ofNat, Json.Ordered, Json.OrderedEntries, Json.OrderedElements,
    Entries.Sorted, and_true, true_and]
  decide

theorem rewritten_heatNews :
    ∃ news written table, ofJson? heatNews = some news ∧ news.toJson = .object written ∧
      Entries.find? "log_message" written = none ∧
      Entries.find? "log_messages" written = some (.array [.string "warm"]) ∧
      Entries.find? "status" written = some (.string "ok") ∧ ofJson? news.toJson = some news ∧
      tableOfJson? (.object [("heat", heatNews), ("power", .object [])]) = some table ∧
      table.find? "heat" = some news ∧ tableOfJson? (tableJson table) = some table := by
  obtain ⟨entries, written, hentries, -, hwritten, hunder, hothers, hagain⟩ :=
    rewritten.1 heatNews _ ordered_heatNews rfl
  obtain rfl := Json.object.inj hentries
  obtain ⟨tabs, -, -, -, -, -, htable⟩ :=
    rewritten.2 (.object [("heat", heatNews), ("power", .object [])]) _
      ⟨by rw [Entries.Sorted]; decide, ordered_heatNews,
        ⟨Entries.sorted_nil, trivial⟩, trivial⟩ rfl
  exact ⟨_, written, _, rfl, hwritten, hunder "log_message", hunder "log_messages",
    hothers "status" (by decide), hagain, rfl, rfl, htable⟩

end TabNews

end StripChart
