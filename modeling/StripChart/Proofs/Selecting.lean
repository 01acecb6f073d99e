import StripChart.Proofs.News
import StripChart.Proofs.RoundTrip

/-!
# Selecting comes before news

A server that has a channel plotted for the first time may send the change and the first points
in one message. It matters then that the change is made first, since there is no ring for points
of a channel that is not selected. It is made first wherever the two entries stand in the text
and whatever stands around them: such a message is as good as two, one with the change and
behind it one with the news (`Engine.receiveAll_selects`).

Nothing in the handling of a message sees to this. A message is walked in the order of its
keys, and the key of a change happens to be the lesser of the two. So what carries this file is
that of the entries of a message only two have anything for the tabs, and that they stand in
this order (`Message.filter_entries`); what becomes of the others, and which handlers are called
with them, is no matter of the tabs. That the order in the text is lost in reading is
`Received.ofPayload_encode_object`.
-/

namespace StripChart

/-! ### The two entries for the tabs -/

/-- An entry with another key than these two has nothing for the tabs. -/
theorem Incoming.nothing_of_ne {entry : String × Json} (hchange : entry.1 ≠ changeKey)
    (hnews : entry.1 ≠ newsKey) : requests entry = [] ∧ tabLines entry = [] := by
  have hread : read? entry.1 entry.2 = some (.echo entry.1 entry.2) ∨
      read? entry.1 entry.2 = some (.custom entry.1 entry.2) := by
    by_cases hecho : entry.1 ∈ echoKeys
    · exact Or.inl (if_pos hecho)
    · exact Or.inr (by rw [read?, if_neg hecho, if_neg hnews, if_neg hchange])
  rcases hread with hread | hread <;> rw [requests, tabLines, hread] <;> exact ⟨rfl, rfl⟩

namespace Message

variable {said : Message} {change news : Json}

/-- **The two entries for the tabs stand in this order**, the change before the news. -/
theorem filter_entries (hchange : said.find? Incoming.changeKey = some change)
    (hnews : said.find? Incoming.newsKey = some news) :
    (said.entries.filter fun entry =>
        decide (entry.1 = Incoming.changeKey ∨ entry.1 = Incoming.newsKey))
      = [(Incoming.changeKey, change), (Incoming.newsKey, news)] := by
  have hlt : Incoming.changeKey < Incoming.newsKey := by decide
  have hsorted : Entries.Sorted [(Incoming.changeKey, change), (Incoming.newsKey, news)] :=
    List.pairwise_pair.2 hlt
  -- lists in strict order are the same if every name finds the same in them
  refine Entries.eq_of_find?_eq (said.sorted.filter _) hsorted fun name => ?_
  rw [Entries.find?_filter fun key =>
    decide (key = Incoming.changeKey ∨ key = Incoming.newsKey)]
  by_cases hname : name = Incoming.changeKey
  · subst hname
    exact hchange
  · by_cases hname' : name = Incoming.newsKey
    · subst hname'
      exact hnews
    · rw [if_neg (by simp [hname, hname']), Entries.find?, if_neg hname, Entries.find?,
        if_neg hname', Entries.find?_nil]

/-- **What is in a message for the tabs** is what is in the change, and behind it what is in the
news. -/
theorem flatMap_entries {β : Type} {f : String × Json → List β}
    (hf : ∀ entry, entry.1 ≠ Incoming.changeKey → entry.1 ≠ Incoming.newsKey → f entry = [])
    (hchange : said.find? Incoming.changeKey = some change)
    (hnews : said.find? Incoming.newsKey = some news) :
    said.entries.flatMap f
      = f (Incoming.changeKey, change) ++ f (Incoming.newsKey, news) := by
  have hdropped : (said.entries.filter fun entry =>
      decide (entry.1 = Incoming.changeKey ∨ entry.1 = Incoming.newsKey)).flatMap f
        = said.entries.flatMap f := by
    refine flatMap_filter_of_eq_nil (fun entry h => ?_) said.entries
    obtain ⟨hne, hne'⟩ := not_or.1 (of_decide_eq_false h)
    exact hf entry hne hne'
  rw [← hdropped, filter_entries hchange hnews, List.flatMap_cons, List.flatMap_singleton]

/-- The message with a single entry. -/
def single (key : String) (value : Json) : Message :=
  ByName.empty.insert key value

/-- In a row of frames a message may be split into one with the change and one with the news,
as far as the tabs go. -/
theorem flatMap_split {β : Type} {f : String × Json → List β}
    (hf : ∀ entry, entry.1 ≠ Incoming.changeKey → entry.1 ≠ Incoming.newsKey → f entry = [])
    (hchange : said.find? Incoming.changeKey = some change)
    (hnews : said.find? Incoming.newsKey = some news) (before after : List Received) :
    ((before ++ .message said :: after).flatMap Received.entries).flatMap f
      = ((before ++ .message (single Incoming.changeKey change) ::
            .message (single Incoming.newsKey news) :: after).flatMap
          Received.entries).flatMap f := by
  have hsaid := flatMap_entries hf hchange hnews
  have hsingle : ∀ key value, (single key value).entries = [(key, value)] := fun _ _ => rfl
  simp only [List.flatMap_append, List.flatMap_cons, Received.entries, hsaid, hsingle,
    List.flatMap_nil, List.append_nil, List.append_assoc]

end Message

namespace Registry

/-- The ring of a channel on the tab that a request names. -/
theorem ring?_fulfil_self (registry : Registry) (request : PlotRequest) (channel : String) :
    (registry.fulfil request).1.ring? request.name channel
      = ((registry.tabOrFresh request.name).fulfil registry.slotRule request
          registry.palette).1.channels.samples? channel := by
  rw [ring?, fulfil]
  simp only [ByName.find?_insert_self, Option.bind_some]

/-- A channel that a request selects has a ring afterwards. -/
theorem exists_ring?_fulfil (registry : Registry) {request : PlotRequest} {channel : String}
    (hchannel : request.channel = some channel) (hstate : request.state = some true) :
    ∃ ring, (registry.fulfil request).1.ring? request.name channel = some ring := by
  rw [ring?_fulfil_self, Tab.samples?_fulfil]
  simp only [hchannel, hstate, if_true]
  exact ⟨_, rfl⟩

/-- A channel that a request deselects has none. -/
theorem ring?_fulfil_of_deselected (registry : Registry) {request : PlotRequest}
    {channel : String} (hchannel : request.channel = some channel)
    (hstate : request.state = some false) :
    (registry.fulfil request).1.ring? request.name channel = none := by
  rw [ring?_fulfil_self, Tab.samples?_fulfil]
  simp only [hchannel, hstate, if_true]

end Registry

/-! ### One message for two -/

namespace Engine

variable {engine : Engine} {said : Message} {change news : Json} {request : PlotRequest}
  {table : ByName TabNews}

/-- What a message with a change and with news asks of the tabs. -/
theorem flatMap_requests (hchange : said.find? Incoming.changeKey = some change)
    (hrequest : PlotRequest.ofJson? change = some request)
    (hnews : said.find? Incoming.newsKey = some news)
    (htable : TabNews.tableOfJson? news = some table) :
    said.entries.flatMap Incoming.requests = .fulfil request :: Incoming.newsRequests table := by
  have hfulfil : Incoming.requests (Incoming.changeKey, change) = [.fulfil request] := by
    rw [Incoming.requests, show Incoming.read? Incoming.changeKey change
      = (PlotRequest.ofJson? change).map .change from rfl, hrequest]
    rfl
  have htabs : Incoming.requests (Incoming.newsKey, news) = Incoming.newsRequests table := by
    rw [Incoming.requests, show Incoming.read? Incoming.newsKey news
      = (TabNews.tableOfJson? news).map .news from rfl, htable]
    rfl
  rw [Message.flatMap_entries (fun _ hne hne' => (Incoming.nothing_of_ne hne hne').1) hchange hnews,
    hfulfil, htabs, List.singleton_append]

/-- **A message with a change and with news is taken like two**, one with the change and then
one with the news: whatever frames come before and after, the registry and the log lines for
tabs are the same. -/
theorem takeFrames_split (hchange : said.find? Incoming.changeKey = some change)
    (hnews : said.find? Incoming.newsKey = some news) (before after : List Received) :
    let one := Machine.run takeFrame engine (before ++ .message said :: after)
    let other := Machine.run takeFrame engine (before ++
      .message (Message.single Incoming.changeKey change) ::
      .message (Message.single Incoming.newsKey news) :: after)
    one.1.registry = other.1.registry ∧
      (Upshot.ofEffects one.2).tabLines = (Upshot.ofEffects other.2).tabLines := by
  intro one other
  have hrequests := Message.flatMap_split
    (fun _ hne hne' => (Incoming.nothing_of_ne hne hne').1) hchange hnews before after
  have htabLines := Message.flatMap_split
    (fun _ hne hne' => (Incoming.nothing_of_ne hne hne').2) hchange hnews before after
  have hone := engine.handles_takeFrames (before ++ .message said :: after)
  have hother := engine.handles_takeFrames (before ++
    .message (Message.single Incoming.changeKey change) ::
    .message (Message.single Incoming.newsKey news) :: after)
  constructor
  · rw [show one.1 = _ from hone.engine_eq, show other.1 = _ from hother.engine_eq]
    exact congrArg engine.registry.after hrequests
  · rw [hone.upshot_eq, hother.upshot_eq]
    exact htabLines

/-- **A message selects before it brings news.** Let an open engine take units in which a
message has a change and news, both of the right shape, under their keys, among whatever other
entries; there may be handlers for those. Let it, for comparison, take units with the same frames
but two in the place of this one, the change by itself and then the news by itself.

* No unit fails, and the registry and the log lines for tabs are the same in the end.
* What the message does to a ring is told by the tabs as they are with the change made: it is
  given the samples of the points that the news lists for it.
* So the points of a channel that the change selects are taken in, and those of a channel that
  it deselects are dropped. -/
theorem receiveAll_selects (hopen : engine.endpoint.connection.isOpen = true)
    (hchange : said.find? Incoming.changeKey = some change)
    (hrequest : PlotRequest.ofJson? change = some request)
    (hnews : said.find? Incoming.newsKey = some news)
    (htable : TabNews.tableOfJson? news = some table)
    {together apart : List Bytes} {before after : List Received} {left left' : Splitter}
    (htogether : engine.endpoint.splitter.receiveAll together
      = ⟨before ++ .message said :: after, left, none⟩)
    (hapart : engine.endpoint.splitter.receiveAll apart
      = ⟨before ++ .message (Message.single Incoming.changeKey change) ::
          .message (Message.single Incoming.newsKey news) :: after, left', none⟩) :
    let one := engine.receiveAll together
    let other := engine.receiveAll apart
    let changed := (engine.registry.fulfil request).1
    let taken := (engine.takeFrame (.message said)).1.registry
    let batch := fun tab channel =>
      WirePoint.samples (WirePoint.listed (Incoming.pointsFor table tab) channel)
    (one.failure = none ∧ other.failure = none ∧
      one.engine.registry = other.engine.registry ∧ one.tabLines = other.tabLines) ∧
    (∀ tab channel, taken.ring? tab channel
      = (changed.ring? tab channel).map (Ring.pushAll · (batch tab channel))) ∧
    ∀ channel, request.channel = some channel →
      (request.state = some true → ∃ ring, changed.ring? request.name channel = some ring ∧
        taken.ring? request.name channel = some (ring.pushAll (batch request.name channel))) ∧
      (request.state = some false → taken.ring? request.name channel = none) := by
  intro one other changed taken batch
  have hrings : ∀ tab channel, taken.ring? tab channel
      = (changed.ring? tab channel).map (Ring.pushAll · (batch tab channel)) := by
    intro tab channel
    -- the frame asks for the change and then for the records, one after the other
    have htaken : taken = changed.after (Incoming.newsRequests table) := by
      have hframe := (engine.handles_takeFrame (.message said)).engine_eq
      have hentries : [Received.message said].flatMap Received.entries = said.entries :=
        List.append_nil _
      rw [hentries, flatMap_requests hchange hrequest hnews htable] at hframe
      show (engine.takeFrame (.message said)).1.registry = _
      rw [hframe]
      rfl
    rw [htaken]
    exact changed.ring?_after_newsRequests table tab channel
  refine ⟨?_, hrings, fun channel hchannel => ⟨fun hstate => ?_, fun hstate => ?_⟩⟩
  · obtain ⟨hfailure, hone⟩ := engine.receiveAll_eq hopen together
    obtain ⟨hfailure', hother⟩ := engine.receiveAll_eq hopen apart
    rw [htogether] at hfailure hone
    rw [hapart] at hfailure' hother
    obtain ⟨hengine, heffects⟩ := hone rfl
    obtain ⟨hengine', heffects'⟩ := hother rfl
    obtain ⟨hregistry, htabLines⟩ := engine.takeFrames_split hchange hnews before after
    refine ⟨hfailure, hfailure', ?_, ?_⟩
    · rw [show one.engine = _ from hengine, show other.engine = _ from hengine']
      exact hregistry
    · have htold := congrArg Upshot.tabLines one.upshot_flatten
      have htold' := congrArg Upshot.tabLines other.upshot_flatten
      rw [show one.effects.flatten = _ from heffects] at htold
      rw [show other.effects.flatten = _ from heffects'] at htold'
      exact htold.symm.trans (htabLines.trans htold')
  · obtain ⟨ring, hring⟩ := engine.registry.exists_ring?_fulfil hchannel hstate
    exact ⟨ring, hring, by rw [hrings, show changed.ring? _ _ = some ring from hring]; rfl⟩
  · have hnone := engine.registry.ring?_fulfil_of_deselected hchannel hstate
    rw [hrings, show changed.ring? _ _ = none from hnone]
    rfl

/-- A change that selects a channel. -/
def newVolts : Json :=
  .object [("channel", .string "volts"), ("name", .string "power"), ("state", .bool true)]

/-- News with two readings for it. -/
def voltsNews : Json :=
  .object [("power", .object [("points",
    .object [("volts", .array [.array [.ofNat 3, .ofNat 1], .array [.ofNat 5, .ofNat 2]])])])]

theorem ordered_newVolts : newVolts.Ordered := by
  refine ⟨?_, trivial, trivial, trivial, trivial⟩
  rw [Entries.Sorted]
  decide

theorem ordered_voltsNews : voltsNews.Ordered := by
  simp only [voltsNews, Json.ofNat, Json.Ordered, Json.OrderedEntries, Json.OrderedElements,
    Entries.Sorted, List.pairwise_singleton, and_self]

/-- The entries of a message as they stand in a text: the news before the change, and others
around them. -/
def newsFirst : List (String × Json) :=
  [("zone", .null), ("ui", voltsNews), ("plot", newVolts), ("loopback", .ofNat 7)]

/-- A message of whole numbers in a unit of its own is received as it is. -/
theorem receive_object {entries : List (String × Json)} (hordered : Json.OrderedEntries entries)
    (hdepth : (Json.object entries).depth ≤ Json.maxDepth)
    (hwhole : (Json.object entries).tokens.all Json.Token.isWhole = true)
    (hfits : Frame.Fits Frame.defaultLimit (Json.object entries).encode) :
    bare.endpoint.splitter.receive (Frame.ofPayloads [(Json.object entries).encode])
      = (.ok [.message (ByName.ofList entries)], bare.endpoint.splitter) := by
  have hreceived := Frame.receive_ofPayloads (List.forall_mem_singleton.2 hfits) true
  rwa [List.map_singleton,
    Received.ofPayload_encode_object hordered hdepth (Json.readsBack_of_isWhole hwhole)]
    at hreceived

/-- The channel is new, and has both readings in its ring, as if the change had come in a unit
of its own. -/
theorem receiveAll_selects_newsFirst :
    let together := [Frame.ofPayloads [(Json.object newsFirst).encode]]
    let apart := [Frame.ofPayloads [(Json.object [("plot", newVolts)]).encode],
      Frame.ofPayloads [(Json.object [("ui", voltsNews)]).encode]]
    (bare.receiveAll together).failure = none ∧
      (bare.receiveAll together).engine.registry = (bare.receiveAll apart).engine.registry ∧
      ((bare.receiveAll together).engine.registry.ring? "power" "volts").map (·.toList)
        = some [⟨3.0, 1.0⟩, ⟨5.0, 2.0⟩] := by
  intro together apart
  have htogether : bare.endpoint.splitter.receiveAll together
      = ⟨[] ++ .message (ByName.ofList newsFirst) :: [], bare.endpoint.splitter, none⟩ := by
    have hordered : Json.OrderedEntries newsFirst :=
      ⟨trivial, ordered_voltsNews, ordered_newVolts, trivial, trivial⟩
    rw [Splitter.receiveAll, receive_object hordered (by decide) rfl
      ⟨by decide +kernel, by decide +kernel⟩]
    rfl
  have hapart : bare.endpoint.splitter.receiveAll apart
      = ⟨[] ++ .message (Message.single Incoming.changeKey newVolts) ::
          .message (Message.single Incoming.newsKey voltsNews) :: [],
          bare.endpoint.splitter, none⟩ := by
    have hchange : Json.OrderedEntries [("plot", newVolts)] := ⟨ordered_newVolts, trivial⟩
    have hnews : Json.OrderedEntries [("ui", voltsNews)] := ⟨ordered_voltsNews, trivial⟩
    rw [Splitter.receiveAll, receive_object hchange (by decide) rfl
      ⟨by decide +kernel, by decide +kernel⟩]
    simp only [Splitter.receiveAll]
    rw [receive_object hnews (by decide) rfl ⟨by decide +kernel, by decide +kernel⟩]
    rfl
  obtain ⟨⟨hfailure, -, hregistry, -⟩, -⟩ :=
    receiveAll_selects (show bare.endpoint.connection.isOpen = true from rfl)
      (show (ByName.ofList newsFirst).find? Incoming.changeKey = some newVolts from rfl) rfl
      (show (ByName.ofList newsFirst).find? Incoming.newsKey = some voltsNews from rfl) rfl
      htogether hapart
  exact ⟨hfailure, hregistry, by decide +kernel⟩

end Engine

end StripChart
