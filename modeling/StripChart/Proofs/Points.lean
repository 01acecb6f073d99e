import StripChart.Proofs.News
import StripChart.Proofs.Numerals

/-!
# Which points stand for samples

A point comes with a reading of any kind. What reads as a number is said here by itself
(`WirePoint.Reads`), and so is what becomes of a row of points (`WirePoint.Converts`): each point
is kept or dropped for what it is, with nothing to do with the others. The samples of a list of
points are just what the points are turned into (`WirePoint.samples_eq_iff_converts`).

A reading that is a number is taken as it is, and so is every time. Both are finite if the points
have come in a message (`Incoming.isFinite_of_pointsFor`), because all numbers in a message are.
So the points are followed here from the message, through its lists and tables, to the channel
that they are listed for.
-/

namespace StripChart

/-- Both numbers of the sample are finite. -/
structure Sample.IsFinite (sample : Sample Float) : Prop where
  /-- The reading is. -/
  value : sample.value.isFinite = true
  /-- The time is. -/
  timestamp : sample.timestamp.isFinite = true

/-! ### Points and the samples that they stand for -/

namespace WirePoint

/-- The numbers of the point are finite, as far as it has any. -/
structure IsFinite (point : WirePoint) : Prop where
  /-- Those in the reading are. -/
  value : point.value.AllFinite
  /-- The time is. -/
  timestamp : point.timestamp.isFinite = true

/-- **A value reads as a finite number.** -/
inductive Reads : Json → Float → Prop
  /-- It is a number. All those in a message are finite. -/
  | number (value : Json.Number) : Reads (.number value) value.toFloat
  /-- It says that something is so, which reads as one. -/
  | yes : Reads (.bool true) 1.0
  /-- It says that something is not so, which reads as zero. -/
  | no : Reads (.bool false) 0.0
  /-- It is a text that spells a finite number, white space around it left out of account. -/
  | text {text : String} {x : Float} (hspells : Decimal.Spells (Blank.trim text.toList) x)
    (hfinite : x.isFinite = true) : Reads (.string text) x

/-- **Points are turned into samples** one by one and in order. -/
inductive Converts : List WirePoint → List (Sample Float) → Prop
  /-- There is none. -/
  | nil : Converts [] []
  /-- The first reads as a finite number, and keeps its time. -/
  | keep {point : WirePoint} {points : List WirePoint} {samples : List (Sample Float)} {x : Float}
    (hvalue : Reads point.value x) (hrest : Converts points samples) :
    Converts (point :: points) (⟨x, point.timestamp⟩ :: samples)
  /-- The first reads as no finite number, and is dropped. -/
  | drop {point : WirePoint} {points : List WirePoint} {samples : List (Sample Float)}
    (hvalue : ∀ x, ¬Reads point.value x) (hrest : Converts points samples) :
    Converts (point :: points) samples

/-- What reads as a finite number is what is taken for a reading and is finite. -/
theorem reads_iff {value : Json} (hvalue : value.AllFinite) {x : Float} :
    Reads value x ↔ reading? value = some x ∧ x.isFinite = true := by
  constructor
  · intro h
    cases h with
    | number value =>
      cases hvalue with
      | number hfinite => exact ⟨rfl, hfinite⟩
    | yes => exact ⟨rfl, by decide +kernel⟩
    | no => exact ⟨rfl, by decide +kernel⟩
    | text hspells hfinite => exact ⟨(Decimal.parse?_eq_some_iff hfinite).2 hspells, hfinite⟩
  · rintro ⟨hreading, hfinite⟩
    cases value with
    | number value => exact Option.some.inj hreading ▸ .number value
    | bool value =>
      cases value with
      | true => exact Option.some.inj hreading ▸ .yes
      | false => exact Option.some.inj hreading ▸ .no
    | string text => exact .text ((Decimal.parse?_eq_some_iff hfinite).1 hreading) hfinite
    | _ => cases hreading

/-- A point stands for a sample just if it reads as a finite number, and the sample is of this
number and of the time of the point. -/
theorem sample?_eq_some_iff {point : WirePoint} (h : point.IsFinite) {sample : Sample Float} :
    point.sample? = some sample ↔
      Reads point.value sample.value ∧ sample.timestamp = point.timestamp := by
  rw [reads_iff h.value]
  constructor
  · intro hsample
    rw [sample?] at hsample
    split at hsample
    · rename_i x hreading
      split at hsample
      · rename_i hfinite
        obtain rfl := Option.some.inj hsample
        exact ⟨⟨hreading, hfinite⟩, rfl⟩
      · cases hsample
    · cases hsample
  · rintro ⟨⟨hreading, hfinite⟩, htimestamp⟩
    rw [sample?, hreading]
    dsimp only
    rw [if_pos hfinite, ← htimestamp]

section Cons

variable {point : WirePoint} {points : List WirePoint} (h : point.IsFinite)

include h

/-- A point that reads as a finite number gives the first of the samples. -/
theorem samples_cons_of_reads {x : Float} (hvalue : Reads point.value x) :
    samples (point :: points) = ⟨x, point.timestamp⟩ :: samples points := by
  have hsome : point.sample? = some ⟨x, point.timestamp⟩ :=
    (sample?_eq_some_iff h).2 ⟨hvalue, rfl⟩
  exact List.filterMap_cons_some hsome

/-- Any other point gives none, and what is behind it is as without it. -/
theorem samples_cons_of_not_reads (hvalue : ∀ x, ¬Reads point.value x) :
    samples (point :: points) = samples points := by
  refine List.filterMap_cons_none (Option.eq_none_iff_forall_ne_some.2 fun sample hsome => ?_)
  exact hvalue sample.value ((sample?_eq_some_iff h).1 hsome).1

end Cons

/-- **The samples of a list of points** are what the points are turned into. -/
theorem samples_eq_iff_converts {points : List WirePoint} (h : ∀ point ∈ points, point.IsFinite)
    {batch : List (Sample Float)} : samples points = batch ↔ Converts points batch := by
  constructor
  · rintro rfl
    induction points with
    | nil => exact .nil
    | cons point rest ih =>
      obtain ⟨hpoint, hrest⟩ := List.forall_mem_cons.1 h
      by_cases hvalue : ∃ x, Reads point.value x
      · obtain ⟨x, hvalue⟩ := hvalue
        rw [samples_cons_of_reads hpoint hvalue]
        exact .keep hvalue (ih hrest)
      · rw [samples_cons_of_not_reads hpoint (not_exists.1 hvalue)]
        exact .drop (not_exists.1 hvalue) (ih hrest)
  · intro hconverts
    induction hconverts with
    | nil => rfl
    | keep hvalue hrest ih =>
      obtain ⟨hpoint, hpoints⟩ := List.forall_mem_cons.1 h
      rw [samples_cons_of_reads hpoint hvalue, ih hpoints]
    | drop hvalue hrest ih =>
      obtain ⟨hpoint, hpoints⟩ := List.forall_mem_cons.1 h
      rw [samples_cons_of_not_reads hpoint hvalue, ih hpoints]

/-- **Finite points stand for finite samples.** -/
theorem forall_mem_samples_isFinite {points : List WirePoint}
    (h : ∀ point ∈ points, point.IsFinite) : ∀ sample ∈ samples points, sample.IsFinite := by
  intro sample hmem
  refine ⟨isFinite_of_mem_samples hmem, ?_⟩
  obtain ⟨point, hpoint, hsample⟩ := List.mem_filterMap.1 hmem
  rw [((sample?_eq_some_iff (h point hpoint)).1 hsample).2]
  exact (h point hpoint).timestamp

end WirePoint

/-! ### Points in messages -/

/-- What a row is read as comes of its elements. -/
theorem exists_of_mem_mapM {α β : Type} {read : α → Option β} {list : List α} {items : List β}
    (h : list.mapM read = some items) {item : β} (hmem : item ∈ items) :
    ∃ element ∈ list, read element = some item := by
  induction list generalizing items with
  | nil =>
    obtain rfl := Option.some.inj h
    cases hmem
  | cons first rest ih =>
    rw [List.mapM_cons] at h
    obtain ⟨head, hhead, h⟩ := Option.bind_eq_some_iff.1 h
    obtain ⟨tail, htail, h⟩ := Option.bind_eq_some_iff.1 h
    obtain rfl := Option.some.inj h
    rcases List.mem_cons.1 hmem with rfl | hmem
    · exact ⟨first, List.mem_cons_self, hhead⟩
    · obtain ⟨element, helement, hread⟩ := ih htail hmem
      exact ⟨element, List.mem_cons_of_mem _ helement, hread⟩

namespace Json

section Read

variable {β : Type} {read : Json → Option β} {p : β → Prop} {value : Json}
  (hread : ∀ element item, element.AllFinite → read element = some item → p item)
  (hvalue : value.AllFinite)

include hread hvalue

/-- **What a list is read as**, if the numbers in it are finite. -/
theorem forall_of_list? {items : List β} (h : list? read value = some items) :
    ∀ item ∈ items, p item := by
  intro item hmem
  cases hvalue with
  | array helements =>
    obtain ⟨element, helement, hitem⟩ := exists_of_mem_mapM h hmem
    exact hread element item (helements element helement) hitem
  | _ => cases h

/-- **What a table is read as**, if the numbers in it are finite. -/
theorem forall_of_table? {table : ByName β} (h : table? read value = some table) {name : String}
    {item : β} (hfind : table.find? name = some item) : p item := by
  cases hvalue with
  | object hentries =>
    obtain ⟨values, hvalues, htable⟩ := Option.bind_eq_some_iff.1 h
    obtain rfl := Option.some.inj htable
    -- of several values under one name the last is found, and it is one of those read
    have hmem := Entries.mem_of_mem_ofList (ByName.find?_eq_some_iff.1 hfind)
    obtain ⟨entry, hentry, hitem⟩ := exists_of_mem_mapM hvalues hmem
    obtain ⟨found, hfound, hpair⟩ := Option.bind_eq_some_iff.1 hitem
    obtain rfl := (Prod.mk.inj (Option.some.inj hpair)).2
    exact hread entry.2 found (hentries entry hentry) hfound
  | _ => cases h

end Read

end Json

theorem WirePoint.isFinite_of_ofJson? (value : Json) (point : WirePoint) (hvalue : value.AllFinite)
    (h : ofJson? value = some point) : point.IsFinite := by
  unfold ofJson? at h
  split at h
  · rename_i reading timestamp
    obtain ⟨x, hx, hpoint⟩ := Option.bind_eq_some_iff.1 h
    obtain rfl := Option.some.inj hpoint
    cases hvalue with
    | array helements =>
      refine ⟨helements reading List.mem_cons_self, ?_⟩
      cases helements timestamp (List.mem_cons_of_mem _ List.mem_cons_self) with
      | number hfinite =>
        obtain rfl := Option.some.inj hx
        exact hfinite
      | _ => cases hx
  · cases h

/-- All points in the news are finite. -/
def TabNews.IsFinite (news : TabNews) : Prop :=
  ∀ channel points, news.points.find? channel = some points → ∀ point ∈ points, point.IsFinite

theorem TabNews.isFinite_of_ofJson? (value : Json) (news : TabNews) (hvalue : value.AllFinite)
    (h : ofJson? value = some news) : news.IsFinite := by
  intro channel points hfind
  cases hvalue with
  | @object entries hentries =>
    obtain ⟨table, htable, h⟩ := Option.bind_eq_some_iff.1 h
    obtain ⟨logMessage, -, h⟩ := Option.bind_eq_some_iff.1 h
    obtain ⟨logMessages, -, h⟩ := Option.bind_eq_some_iff.1 h
    obtain rfl := Option.some.inj h
    cases hpoints : Entries.find? "points" entries with
    | none =>
      -- points that are left out are an empty table
      rw [hpoints] at htable
      obtain rfl := Option.some.inj htable
      cases hfind
    | some listed =>
      rw [hpoints] at htable
      have hlisted := hentries _ (Entries.mem_of_find?_eq_some hpoints)
      exact Json.forall_of_table? (p := fun points => ∀ point ∈ points, point.IsFinite)
        (fun element list helement hlist =>
          Json.forall_of_list? WirePoint.isFinite_of_ofJson? helement hlist)
        hlisted htable hfind
  | _ => cases h

/-- Points are listed for a channel where there is news for its tab. -/
theorem Incoming.find?_pointsFor_eq_some_iff {table : ByName TabNews} {tab channel : String}
    {points : List WirePoint} :
    (pointsFor table tab).find? channel = some points ↔
      ∃ item, table.find? tab = some item ∧ item.points.find? channel = some points := by
  rw [pointsFor]
  cases table.find? tab with
  | none =>
    constructor
    · intro h
      cases h
    · rintro ⟨item, hitem, -⟩
      cases hitem
  | some item =>
    constructor
    · exact fun h => ⟨item, rfl, h⟩
    · rintro ⟨other, hother, h⟩
      obtain rfl := Option.some.inj hother
      exact h

/-- **Points that are listed for a channel in a message are finite.** -/
theorem Incoming.isFinite_of_pointsFor {news : Json} (hnews : news.AllFinite)
    {table : ByName TabNews} (htable : TabNews.tableOfJson? news = some table)
    {tab channel : String} {points : List WirePoint}
    (hpoints : (pointsFor table tab).find? channel = some points) :
    ∀ point ∈ points, point.IsFinite := by
  obtain ⟨item, htab, hchannel⟩ := find?_pointsFor_eq_some_iff.1 hpoints
  have hitem : item.IsFinite :=
    Json.forall_of_table? TabNews.isFinite_of_ofJson? hnews htable htab
  exact hitem channel points hchannel

end StripChart
