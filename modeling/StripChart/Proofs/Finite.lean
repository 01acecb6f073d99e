import StripChart.Proofs.Accounts
import StripChart.Proofs.History
import StripChart.Proofs.Points

/-!
# Only finite samples get into rings

A single infinity would do harm for long: all channels of a tab are drawn over one window, and it
would stay in its ring until newer samples push it out. A server cannot bring one in, whatever
bytes it sends and whatever is done to the tabs in between (`Registry.isFinite_meetAll`).

All that is done to tabs comes to requests, and there is one kind of request that brings samples
(`Registry.Request.brings`). So whatever holds of all samples is kept by a row of requests if it
holds of those that are brought (`Registry.AllSamples.after`): selecting, clearing, another
capacity and whatever falls out of a ring cannot add to what is there. What remains is which
samples a unit brings (`Endpoint.record_mem_requestsOf`). They are those of points in its messages,
and these are finite.
-/

namespace StripChart

/-! ### Samples in rings -/

variable {p : Sample Float → Prop}

/-- **All samples of the channels** have a property. -/
def Channels.AllSamples (p : Sample Float → Prop) (set : Channels Float) : Prop :=
  ∀ channel ring, set.samples? channel = some ring → ∀ sample ∈ ring.toList, p sample

namespace Channels

variable {set : Channels Float}

theorem AllSamples.resize (h : set.AllSamples p) {capacity : Nat} (hpos : 0 < capacity) :
    (set.resize capacity hpos).AllSamples p := by
  intro channel ring hring sample hmem
  rw [samples?_resize] at hring
  obtain ⟨before, hbefore, rfl⟩ := Option.map_eq_some_iff.1 hring
  rw [Ring.toList_resize] at hmem
  exact h channel before hbefore sample (mem_of_mem_rtake hmem)

theorem AllSamples.record (h : set.AllSamples p) (channel : String) {batch : List (Sample Float)}
    (hbatch : ∀ sample ∈ batch, p sample) : (set.record channel batch).1.AllSamples p := by
  intro other ring hring sample hmem
  rw [samples?_record] at hring
  split at hring
  · obtain ⟨before, hbefore, rfl⟩ := Option.map_eq_some_iff.1 hring
    rw [Ring.toList_pushAll] at hmem
    rcases List.mem_append.1 (mem_of_mem_rtake hmem) with hold | hnew
    · exact h channel before hbefore sample hold
    · exact hbatch sample hnew
  · exact h other ring hring sample hmem

end Channels

section Tab

variable {tab : Tab} (h : tab.channels.AllSamples p) (request : PlotRequest) (palette : Palette)

include h

/-- Rings that are cleared hold nothing. -/
theorem Channels.AllSamples.applyClear : (tab.applyClear request).channels.AllSamples p := by
  intro channel ring hring sample hmem
  rw [Tab.samples?_applyClear] at hring
  split at hring
  · obtain ⟨before, -, rfl⟩ := Option.map_eq_some_iff.1 hring
    rw [Ring.toList_clear] at hmem
    cases hmem
  · exact h channel ring hring sample hmem

/-- A channel that gets selected has an empty ring, or the one that it had. -/
theorem Channels.AllSamples.applyChannel :
    (tab.applyChannel request palette).1.channels.AllSamples p := by
  intro other ring hring sample hmem
  rw [Tab.samples?_applyChannel] at hring
  split at hring
  · split at hring
    · obtain rfl := Option.some.inj hring
      cases hbefore : tab.channels.samples? other with
      | none =>
        -- the ring is new
        rw [hbefore, Option.getD_none, Ring.toList_new] at hmem
        cases hmem
      | some before =>
        rw [hbefore] at hmem
        exact h other before hbefore sample hmem
    · cases hring
    · exact h other ring hring sample hmem
  · exact h other ring hring sample hmem

/-- **What is asked for a tab brings no samples.** -/
theorem Channels.AllSamples.fulfil (rule : SlotRule) :
    (tab.fulfil rule request palette).1.channels.AllSamples p := by
  have hsize : (tab.applySize rule request).channels.AllSamples p := by
    rw [Tab.channels_applySize]
    exact h
  exact (hsize.applyClear request).applyChannel request palette

end Tab

namespace Registry

/-- The samples that a request brings. -/
def Request.brings : Request → List (Sample Float)
  | .record _ _ batch => batch
  | _ => []

/-- **All samples of a registry** have a property. -/
structure AllSamples (p : Sample Float → Prop) (registry : Registry) : Prop where
  /-- Those on a tab that is made. -/
  fresh : registry.fresh.AllSamples p
  /-- Those on the tabs. -/
  tabs {name : String} {tab : Tab} :
    registry.tabs.find? name = some tab → tab.channels.AllSamples p

namespace AllSamples

variable {registry : Registry} (h : registry.AllSamples p)

include h

theorem tabOrFresh (name : String) : (registry.tabOrFresh name).channels.AllSamples p := by
  rw [Registry.tabOrFresh]
  cases hfind : registry.tabs.find? name with
  | none => exact h.fresh
  | some tab => exact h.tabs hfind

/-- A tab may be put in. -/
theorem insert {after : Registry} {name : String} {tab : Tab} (htab : tab.channels.AllSamples p)
    (hfresh : after.fresh = registry.fresh) (htabs : after.tabs = registry.tabs.insert name tab) :
    after.AllSamples p := by
  refine ⟨hfresh ▸ h.fresh, fun {other} {found} hfind => ?_⟩
  rw [htabs, ByName.find?_insert] at hfind
  split at hfind
  · exact Option.some.inj hfind ▸ htab
  · exact h.tabs hfind

/-- **A request keeps the property** if the samples that it brings have it. -/
theorem serve {request : Request} (hbrings : ∀ sample ∈ request.brings, p sample) :
    (registry.serve request).1.AllSamples p := by
  cases request with
  | fulfil request =>
    exact h.insert ((h.tabOrFresh request.name).fulfil request registry.palette registry.slotRule)
      rfl rfl
  | record name channel batch =>
    rcases hfind : registry.tabs.find? name with - | tab
    · -- samples for a tab that is not there are lost
      simp only [Registry.serve, record_of_none hfind]
      exact h
    · simp only [Registry.serve, record_of_some hfind]
      exact h.insert ((h.tabs hfind).record channel hbrings) rfl rfl
  | resize name capacity =>
    simp only [Registry.serve, Registry.resize]
    split
    · rename_i channels hresize
      obtain ⟨hpos, rfl⟩ := Channels.resize?_eq_ok_iff.1 hresize
      exact h.insert ((h.tabOrFresh name).resize hpos) rfl rfl
    · exact h.insert (h.tabOrFresh name) rfl rfl
  | zoom name grow => exact h.insert ((h.tabOrFresh name).resize _) rfl rfl
  | touch name => exact h.insert (h.tabOrFresh name) rfl rfl
  | remove name =>
    refine ⟨h.fresh, fun {other} {tab} hfind => ?_⟩
    have hfind : (registry.tabs.erase name).find? other = some tab := hfind
    rw [ByName.find?_erase] at hfind
    split at hfind
    · cases hfind
    · exact h.tabs hfind
  | takePictures =>
    refine ⟨h.fresh, fun {other} {tab} hfind => ?_⟩
    obtain ⟨before, hbefore, rfl⟩ := Option.map_eq_some_iff.1
      ((ByName.find?_mapValues ..).symm.trans hfind)
    exact show before.channels.AllSamples p from h.tabs hbefore

/-- A row of requests does, too. -/
theorem after {requests : List Request}
    (hbrings : ∀ request ∈ requests, ∀ sample ∈ request.brings, p sample) :
    (registry.after requests).AllSamples p := by
  induction requests generalizing registry with
  | nil => exact h
  | cons request rest ih =>
    obtain ⟨hfirst, hrest⟩ := List.forall_mem_cons.1 hbrings
    exact ih (h.serve hfirst) hrest

/-- Another property that follows from it is one of all samples, too. -/
theorem mono {q : Sample Float → Prop} (hpq : ∀ sample, p sample → q sample) :
    registry.AllSamples q :=
  ⟨fun channel ring hring sample hmem => hpq sample (h.fresh channel ring hring sample hmem),
    fun hfind channel ring hring sample hmem =>
      hpq sample (h.tabs hfind channel ring hring sample hmem)⟩

/-- The samples in each ring have the property. -/
theorem of_ring? {name channel : String} {ring : Ring Float}
    (hring : registry.ring? name channel = some ring) : ∀ sample ∈ ring.toList, p sample := by
  obtain ⟨tab, htab, hring⟩ := Option.bind_eq_some_iff.1 hring
  exact h.tabs htab channel ring hring

end AllSamples

end Registry

/-! ### Units -/

/-- The frames that an endpoint takes when a unit comes in: those that the unit completes. There
are none if the unit has a framing fault, or the connection is not open. -/
def Endpoint.framesOf (endpoint : Endpoint) (unit : Bytes) : List Received :=
  if endpoint.connection.isOpen then
    match (endpoint.splitter.receive unit).1 with
    | .ok frames => frames
    | .error _ => []
  else []

/-- What a unit asks of the tabs. -/
def Endpoint.requestsOf (endpoint : Endpoint) (unit : Bytes) : List Registry.Request :=
  ((endpoint.framesOf unit).flatMap Received.entries).flatMap Incoming.requests

/-- **A unit does to the tabs what it asks of them**, in whatever state the engine is. -/
theorem Engine.registry_receive (engine : Engine) (unit : Bytes) :
    (engine.receive unit).1.registry = engine.registry.after (engine.endpoint.requestsOf unit) := by
  by_cases hopen : engine.endpoint.connection.isOpen = true
  · have hframes : engine.endpoint.framesOf unit = Visit.frames ⟨engine, unit, hopen⟩ := by
      rw [Endpoint.framesOf, if_pos hopen]
      rfl
    have hkeeps := (Visit.keeps ⟨engine, unit, hopen⟩).1
    rw [Visit.requests, Visit.meeting, Incoming.requests_applied, Visit.entries, ← hframes]
      at hkeeps
    exact hkeeps
  · obtain ⟨line, hreceive⟩ := receive_of_not_isOpen hopen unit
    rw [hreceive, Endpoint.requestsOf, Endpoint.framesOf, if_neg hopen]
    rfl

/-- **The messages in a unit have finite numbers only.** -/
theorem Endpoint.allFinite_of_mem_framesOf {endpoint : Endpoint} {unit : Bytes} {said : Message}
    (h : .message said ∈ endpoint.framesOf unit) : ∀ entry ∈ said.entries, entry.2.AllFinite := by
  rw [framesOf] at h
  split at h
  · rw [Splitter.receive] at h
    generalize endpoint.splitter.feed unit = fed at h
    obtain ⟨fault | payloads, left⟩ := fed
    · cases h
    · obtain ⟨payload, -, hpayload⟩ := List.mem_map.1 h
      exact Received.allFinite_of_ofPayload hpayload
  · cases h

/-- The samples that news brings are those of points that it lists. -/
theorem Incoming.record_mem_newsRequests {table : ByName TabNews} {tab channel : String}
    {batch : List (Sample Float)} :
    .record tab channel batch ∈ newsRequests table ↔
      ∃ points, (pointsFor table tab).find? channel = some points ∧
        WirePoint.samples points = batch := by
  rw [newsRequests, List.mem_flatMap]
  constructor
  · rintro ⟨item, hitem, hrequest⟩
    obtain ⟨points, hpoints, hrecord⟩ := List.mem_map.1 hrequest
    obtain ⟨rfl, rfl, rfl⟩ := Registry.Request.record.inj hrecord
    exact ⟨points.2, find?_pointsFor_eq_some_iff.2
      ⟨item.2, ByName.find?_eq_some_iff.2 hitem, ByName.find?_eq_some_iff.2 hpoints⟩, rfl⟩
  · rintro ⟨points, hpoints, rfl⟩
    obtain ⟨item, htab, hchannel⟩ := find?_pointsFor_eq_some_iff.1 hpoints
    exact ⟨(tab, item), ByName.find?_eq_some_iff.1 htab,
      List.mem_map.2 ⟨(channel, points), ByName.find?_eq_some_iff.1 hchannel, rfl⟩⟩

/-- Of the entries of a message only news brings samples. -/
theorem Incoming.record_mem_requests {entry : String × Json} {tab channel : String}
    {batch : List (Sample Float)} :
    .record tab channel batch ∈ requests entry ↔ entry.1 = newsKey ∧
      ∃ table, TabNews.tableOfJson? entry.2 = some table ∧
        .record tab channel batch ∈ newsRequests table := by
  obtain ⟨key, value⟩ := entry
  dsimp only
  constructor
  · intro h
    rw [requests] at h
    split at h
    · rename_i table hread
      have hkey : newsKey = key := key_of_read? hread
      subst hkey
      obtain ⟨other, hother, heq⟩ := Option.map_eq_some_iff.1 hread
      obtain rfl := Incoming.news.inj heq
      exact ⟨rfl, other, hother, h⟩
    · cases List.mem_singleton.1 h
    · cases h
  · rintro ⟨rfl, table, htable, h⟩
    rw [requests, show read? newsKey value = (TabNews.tableOfJson? value).map .news from rfl,
      htable]
    exact h

namespace Endpoint

variable {endpoint : Endpoint} {unit : Bytes} {said : Message} {news : Json}
  {table : ByName TabNews} {tab channel : String} {points : List WirePoint}

/-- The points that are listed in the messages of a unit are finite. -/
theorem isFinite_of_mem_framesOf (hsaid : .message said ∈ endpoint.framesOf unit)
    (hnews : said.find? Incoming.newsKey = some news)
    (htable : TabNews.tableOfJson? news = some table)
    (hpoints : (Incoming.pointsFor table tab).find? channel = some points) :
    ∀ point ∈ points, point.IsFinite :=
  Incoming.isFinite_of_pointsFor
    (allFinite_of_mem_framesOf hsaid _ (ByName.find?_eq_some_iff.1 hnews)) htable hpoints

/-- **The samples that a unit brings** are what the points in its messages are turned into. -/
theorem record_mem_requestsOf {batch : List (Sample Float)} :
    .record tab channel batch ∈ endpoint.requestsOf unit ↔
      ∃ said news table points, .message said ∈ endpoint.framesOf unit ∧
        said.find? Incoming.newsKey = some news ∧ TabNews.tableOfJson? news = some table ∧
        (Incoming.pointsFor table tab).find? channel = some points ∧
        WirePoint.Converts points batch := by
  rw [requestsOf, List.mem_flatMap]
  constructor
  · rintro ⟨⟨key, news⟩, hentry, hrequest⟩
    obtain ⟨rfl, table, htable, hrecord⟩ := Incoming.record_mem_requests.1 hrequest
    obtain ⟨points, hpoints, hbatch⟩ := Incoming.record_mem_newsRequests.1 hrecord
    obtain ⟨received, hreceived, hmem⟩ := List.mem_flatMap.1 hentry
    cases received with
    | message said =>
      have hnews := ByName.find?_eq_some_iff.2 hmem
      have hfinite := isFinite_of_mem_framesOf hreceived hnews htable hpoints
      exact ⟨said, news, table, points, hreceived, hnews, htable, hpoints,
        (WirePoint.samples_eq_iff_converts hfinite).1 hbatch⟩
    | malformed fault => cases hmem
  · rintro ⟨said, news, table, points, hsaid, hnews, htable, hpoints, hconverts⟩
    have hfinite := isFinite_of_mem_framesOf hsaid hnews htable hpoints
    have hbatch := (WirePoint.samples_eq_iff_converts hfinite).2 hconverts
    refine ⟨(Incoming.newsKey, news), ?_, ?_⟩
    · exact List.mem_flatMap.2 ⟨.message said, hsaid, ByName.find?_eq_some_iff.1 hnews⟩
    · exact Incoming.record_mem_requests.2
        ⟨rfl, table, htable, Incoming.record_mem_newsRequests.2 ⟨points, hpoints, hbatch⟩⟩

end Endpoint

/-! ### Runs -/

namespace Registry

/-- **What happens to tabs** while samples come in units only. -/
inductive Happening
  /-- An engine takes a unit. Its endpoint may be in any state. -/
  | unit (endpoint : Endpoint) (bytes : Bytes)
  /-- Something else is asked of the tabs. -/
  | request (other : Request) (h : other.brings = [])

/-- What is asked of the tabs by what happens. -/
def Happening.requests : Happening → List Request
  | .unit endpoint bytes => endpoint.requestsOf bytes
  | .request other _ => [other]

/-- The tabs after something has happened. -/
def meet (registry : Registry) : Happening → Registry
  | .unit endpoint bytes => ((Engine.mk endpoint registry).receive bytes).1.registry
  | .request other _ => (registry.serve other).1

/-- The tabs after a row of happenings. -/
def meetAll (registry : Registry) (happenings : List Happening) : Registry :=
  happenings.foldl meet registry

theorem meet_eq (registry : Registry) (happening : Happening) :
    registry.meet happening = registry.after happening.requests := by
  cases happening with
  | unit endpoint bytes => exact Engine.registry_receive ⟨endpoint, registry⟩ bytes
  | request request h => rfl

/-- **All samples that are brought by what happens are finite.** -/
theorem Happening.isFinite_of_mem_brings {happening : Happening} {request : Request}
    (h : request ∈ happening.requests) : ∀ sample ∈ request.brings, sample.IsFinite := by
  cases happening with
  | request other hother =>
    rw [List.mem_singleton.1 h, hother]
    exact List.forall_mem_nil _
  | unit endpoint bytes =>
    cases request with
    | record tab channel batch =>
      obtain ⟨said, news, table, points, hsaid, hnews, htable, hpoints, hconverts⟩ :=
        Endpoint.record_mem_requestsOf.1 h
      have hfinite := Endpoint.isFinite_of_mem_framesOf hsaid hnews htable hpoints
      rw [← (WirePoint.samples_eq_iff_converts hfinite).2 hconverts]
      exact WirePoint.forall_mem_samples_isFinite hfinite
    | _ =>
      -- a change to a tab brings none
      exact List.forall_mem_nil _

/-- **What happens leaves all samples finite.** -/
theorem AllSamples.meet {registry : Registry} (h : registry.AllSamples Sample.IsFinite)
    (happening : Happening) : (registry.meet happening).AllSamples Sample.IsFinite := by
  rw [meet_eq]
  exact h.after fun request hmem => happening.isFinite_of_mem_brings hmem

theorem AllSamples.meetAll {registry : Registry} (h : registry.AllSamples Sample.IsFinite)
    (happenings : List Happening) : (registry.meetAll happenings).AllSamples Sample.IsFinite := by
  induction happenings generalizing registry with
  | nil => exact h
  | cons happening rest ih => exact ih (h.meet happening)

/-- **A registry holds no samples.** -/
def HasNoSamples (registry : Registry) : Prop :=
  registry.AllSamples fun _ => False

/-- To begin with there are no samples. -/
theorem IsInitial.hasNoSamples {config : Config} {palette : Palette} {registry : Registry}
    (h : IsInitial config palette registry) : registry.HasNoSamples where
  fresh := by
    intro channel ring hring
    rw [h.isSetUp.samples?_fresh] at hring
    cases hring
  tabs := by
    intro name tab hfind channel ring hring
    rw [(h.isUntouched hfind channel ring hring).toList]
    exact List.forall_mem_nil _

variable {registry : Registry}

/-- **Only finite samples get into rings.** Let something happen to tabs that hold no samples,
again and again, and let samples come in units only, which may be any bytes.

* The two numbers of every sample in every ring are finite.
* A unit does to the tabs what is asked of them in it. To put samples into a ring is asked just
  for the lists of points in its messages, and these samples are what the points are turned into,
  in order, with their times and one by one: numbers, truth values and texts that spell a finite
  number are kept, and all others are dropped.
* Where this is asked, the ring holds these samples behind those that it held, or the newest of
  them all, as many as there is room for. -/
theorem isFinite_meetAll (h : registry.HasNoSamples) (happenings : List Happening) :
    (∀ name channel ring, (registry.meetAll happenings).ring? name channel = some ring →
      ∀ sample ∈ ring.toList,
        sample.value.isFinite = true ∧ sample.timestamp.isFinite = true) ∧
    (∀ earlier endpoint bytes later, happenings = earlier ++ .unit endpoint bytes :: later →
      registry.meetAll (earlier ++ [.unit endpoint bytes])
          = (registry.meetAll earlier).after (endpoint.requestsOf bytes) ∧
        ∀ tab channel batch, .record tab channel batch ∈ endpoint.requestsOf bytes ↔
          ∃ said news table points, .message said ∈ endpoint.framesOf bytes ∧
            said.find? Incoming.newsKey = some news ∧ TabNews.tableOfJson? news = some table ∧
            (Incoming.pointsFor table tab).find? channel = some points ∧
            WirePoint.Converts points batch) ∧
    ∀ (now : Registry) tab channel batch,
      ((now.serve (.record tab channel batch)).1.ring? tab channel).map (·.toList)
        = (now.ring? tab channel).map fun ring => (ring.toList ++ batch).rtake ring.capacity := by
  refine ⟨?_, ?_, ?_⟩
  · intro name channel ring hring sample hmem
    -- where there are no samples, all of them have any property
    have hstart : registry.AllSamples Sample.IsFinite := h.mono fun _ => False.elim
    have hfinite := (hstart.meetAll happenings).of_ring? hring sample hmem
    exact ⟨hfinite.value, hfinite.timestamp⟩
  · intro earlier endpoint bytes later _
    constructor
    · rw [meetAll, List.foldl_append]
      exact (registry.meetAll earlier).meet_eq (.unit endpoint bytes)
    · intro tab channel batch
      exact Endpoint.record_mem_requestsOf
  · intro now tab channel batch
    show ((now.record tab channel batch).1.ring? tab channel).map _ = _
    rw [ring?_record, if_pos ⟨rfl, rfl⟩, Option.map_map]
    exact congrArg (fun list => Option.map list _) (funext fun ring => ring.toList_pushAll batch)

/-- Points of all kinds for one channel, among them texts that name or spell what is not finite. -/
def mixedPoints : List Json :=
  [.array [.ofNat 3, .ofNat 1], .array [.bool true, .ofNat 2], .array [.string "nan", .ofNat 3],
    .array [.string " 2.5 ", .ofNat 4], .array [.null, .ofNat 5],
    .array [.string "1e999", .ofNat 6]]

/-- The channel is selected, and then the points come in. -/
def mixedHappenings : List Happening :=
  [.request (.fulfil { name := "power", channel := some "volts", state := some true }) rfl,
    .unit Engine.bare.endpoint (Frame.ofPayloads [(Json.object [("ui", .object [("power",
      .object [("points", .object [("volts", .array mixedPoints)])])])]).encode])]

/-- Three points are kept. -/
theorem isFinite_meetAll_mixedHappenings :
    Engine.bare.registry.HasNoSamples ∧
      ((Engine.bare.registry.meetAll mixedHappenings).ring? "power" "volts").map (·.toList)
        = some [⟨3.0, 1.0⟩, ⟨1.0, 2.0⟩, ⟨2.5, 4.0⟩] ∧
      ∀ name channel ring,
        (Engine.bare.registry.meetAll mixedHappenings).ring? name channel = some ring →
          ∀ sample ∈ ring.toList,
            sample.value.isFinite = true ∧ sample.timestamp.isFinite = true := by
  have hinitial : IsInitial
      { defaultCapacity := 4, defaultDrawSlots := 8, maxDrawSlots := 16, minCapacity := 1,
        capacityScale := 2.0 } ⟨0⟩ Engine.bare.registry :=
    .inl rfl
  have hbare := hinitial.hasNoSamples
  exact ⟨hbare, by decide +kernel, (isFinite_meetAll hbare mixedHappenings).1⟩

end Registry

end StripChart
