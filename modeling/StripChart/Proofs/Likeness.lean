import StripChart.Engine

/-!
# Engines that are alike

Handling a frame is a long way, from the frame to its entries, from an entry to the tabs
it names, from a tab to its channels, with counters on every corner. But an engine is
touched in six ways only, and it is these that a statement about frames has to be true of.

A *likeness* of engines (`Engine.Likeness`) is a relation that all six respect: engines
that are alike show the same name and the same handlers, and stay alike when they count,
when a handler is put in its place, when samples are recorded and when a request is
fulfilled. From this it follows that alike engines give the same effects for a row of
frames, and are alike afterwards (`Engine.Likeness.takeFrames`).

A property of registries that the two changes of tabs keep is a likeness of an engine with
itself, so that it is kept by a row of frames as well
(`Engine.registry_takeFrames`).
-/

namespace StripChart

/-! ### Counting units apart from the rest -/

namespace Counters

/-- Counts units and bytes that came in. -/
def credit (units bytes : UInt64) (counters : Counters) : Counters :=
  { counters with
    unitsIn := counters.unitsIn + units
    bytesIn := counters.bytesIn + bytes }

/-- **Counting that has nothing to do with units**: it makes no difference whether these
are counted before or after. -/
def Steady (f : Counters → Counters) : Prop :=
  ∀ units bytes counters, f (credit units bytes counters) = credit units bytes (f counters)

theorem steady_addFrame : Steady addFrame :=
  fun _ _ _ => rfl

theorem steady_addSent (bytes : Nat) : Steady (addSent · bytes) :=
  fun _ _ _ => rfl

theorem steady_addUnusable : Steady addUnusable :=
  fun _ _ _ => rfl

theorem steady_addUnclaimed : Steady addUnclaimed :=
  fun _ _ _ => rfl

theorem steady_addReturned : Steady addReturned :=
  fun _ _ _ => rfl

theorem steady_addSamples (count : Nat) : Steady (addSamples · count) :=
  fun _ _ _ => rfl

end Counters

namespace Engine

/-- The engine with other tabs. -/
def withRegistry (engine : Engine) (registry : Registry) : Engine :=
  { engine with registry }

/-- The engine with a handler in its place. -/
def withHandler (engine : Engine) (key : String) (handler : Handler) : Engine :=
  { engine with endpoint := engine.endpoint.withHandler key handler }

/-- **A likeness of engines**: a relation that everything respects that is ever done to an
engine on the way through a frame. -/
structure Likeness (like : Engine → Engine → Prop) : Prop where
  /-- Engines that are alike have one name. -/
  name_eq {one other : Engine} : like one other → one.endpoint.name = other.endpoint.name
  /-- Engines that are alike have the same handlers, called as often. -/
  handlers_eq {one other : Engine} :
    like one other → one.endpoint.handlers = other.endpoint.handlers
  /-- They may count, as long as it is not units that they count. -/
  count {one other : Engine} {f : Counters → Counters} :
    like one other → Counters.Steady f → like (one.count f) (other.count f)
  /-- They may be given a handler. -/
  withHandler {one other : Engine} (key : String) (handler : Handler) :
    like one other → like (one.withHandler key handler) (other.withHandler key handler)
  /-- They may record samples, and do it for the same channels. -/
  record {one other : Engine} (tab channel : String) (batch : List (Sample Float)) :
    like one other →
      like (one.withRegistry (one.registry.record tab channel batch).1)
          (other.withRegistry (other.registry.record tab channel batch).1) ∧
        (one.registry.record tab channel batch).2 = (other.registry.record tab channel batch).2
  /-- They may fulfil a request, and have the same to say about it. -/
  fulfil {one other : Engine} (request : PlotRequest) :
    like one other →
      like (one.withRegistry (one.registry.fulfil request).1)
          (other.withRegistry (other.registry.fulfil request).1) ∧
        (one.registry.fulfil request).2 = (other.registry.fulfil request).2

namespace Likeness

variable {like : Engine → Engine → Prop} {one other : Engine}

/-! ### News and changes -/

theorem recordPoints (h : Likeness like) (tab : String) (hlike : like one other)
    (entry : String × List WirePoint) :
    like (Engine.recordPoints tab one entry) (Engine.recordPoints tab other entry) := by
  obtain ⟨hregistry, hrecorded⟩ := h.record tab entry.1 (WirePoint.samples entry.2) hlike
  -- samples are counted only if they were recorded, so both have to say the same of it
  have heq : ∀ engine : Engine, Engine.recordPoints tab engine entry
      = if (engine.registry.record tab entry.1 (WirePoint.samples entry.2)).2 then
          (engine.withRegistry
            (engine.registry.record tab entry.1 (WirePoint.samples entry.2)).1).count
              (·.addSamples (WirePoint.samples entry.2).length)
        else engine.withRegistry
            (engine.registry.record tab entry.1 (WirePoint.samples entry.2)).1 := fun _ => rfl
  rw [heq, heq, hrecorded]
  split
  · exact h.count hregistry (Counters.steady_addSamples _)
  · exact hregistry

theorem applyNews (h : Likeness like) (hlike : like one other) (entry : String × TabNews) :
    like (one.applyNews entry).1 (other.applyNews entry).1 ∧
      (one.applyNews entry).2 = (other.applyNews entry).2 := by
  refine ⟨?_, rfl⟩
  show like (entry.2.points.entries.foldl (Engine.recordPoints entry.1) one)
    (entry.2.points.entries.foldl (Engine.recordPoints entry.1) other)
  induction entry.2.points.entries generalizing one other with
  | nil => exact hlike
  | cons points rest ih => exact ih (h.recordPoints entry.1 hlike points)

theorem applyAllNews (h : Likeness like) (hlike : like one other) (news : ByName TabNews) :
    like (one.applyAllNews news).1 (other.applyAllNews news).1 ∧
      (one.applyAllNews news).2 = (other.applyAllNews news).2 :=
  Machine.run_related like (fun _ _ entry hstate => h.applyNews hstate entry) hlike news.entries

theorem fulfilEntry (h : Likeness like) (hlike : like one other) (request : PlotRequest) :
    like (one.fulfil request).1 (other.fulfil request).1 ∧
      (one.fulfil request).2 = (other.fulfil request).2 := by
  obtain ⟨hregistry, hlines⟩ := h.fulfil request hlike
  exact ⟨hregistry, congrArg (List.map Effect.log) hlines⟩

/-! ### Messages

A message is taken apart with its response at hand, so it is pairs that have to be alike:
their engines are, and their responses are the same. -/

/-- Engines that are alike, with the same response. -/
def WithResponse (like : Engine → Engine → Prop) (one other : Engine × Message) : Prop :=
  like one.1 other.1 ∧ one.2 = other.2

theorem handOver (h : Likeness like) (hlike : like one other) (response : Message)
    (key : String) (value : Json) :
    WithResponse like (one.handOver response key value).1 (other.handOver response key value).1 ∧
      (one.handOver response key value).2 = (other.handOver response key value).2 := by
  rw [Engine.handOver, Engine.handOver, h.handlers_eq hlike]
  cases other.endpoint.handlers.find? key with
  | none => exact ⟨⟨h.count hlike Counters.steady_addUnclaimed, rfl⟩, rfl⟩
  | some handler =>
    -- it is the same handler, with the same calls behind it
    exact ⟨⟨h.withHandler key (handler.call value response).1 hlike, rfl⟩, rfl⟩

theorem takeEntry (h : Likeness like) {one other : Engine × Message}
    (hstate : WithResponse like one other) (entry : String × Json) :
    WithResponse like (Engine.takeEntry one entry).1 (Engine.takeEntry other entry).1 ∧
      (Engine.takeEntry one entry).2 = (Engine.takeEntry other entry).2 := by
  obtain ⟨one, response⟩ := one
  obtain ⟨other, response'⟩ := other
  obtain ⟨hlike, rfl⟩ : like one other ∧ response = response' := hstate
  simp only [Engine.takeEntry]
  cases Incoming.read? entry.1 entry.2 with
  | none => exact ⟨⟨h.count hlike Counters.steady_addUnusable, rfl⟩, rfl⟩
  | some incoming =>
    cases incoming with
    | echo key value => exact ⟨⟨h.count hlike Counters.steady_addReturned, rfl⟩, rfl⟩
    | news news =>
      obtain ⟨hengine, heffects⟩ := h.applyAllNews hlike news
      exact ⟨⟨hengine, rfl⟩, heffects⟩
    | change request =>
      obtain ⟨hengine, heffects⟩ := h.fulfilEntry hlike request
      exact ⟨⟨hengine, rfl⟩, heffects⟩
    | custom key value => exact h.handOver hlike response key value

theorem takeApart (h : Likeness like) (hlike : like one other) (message : Message) :
    WithResponse like (one.takeApart message).1 (other.takeApart message).1 ∧
      (one.takeApart message).2 = (other.takeApart message).2 := by
  have hstate : WithResponse like (one, ByName.empty) (other, ByName.empty) := ⟨hlike, rfl⟩
  exact Machine.run_related (WithResponse like)
    (fun _ _ entry hstate => h.takeEntry hstate entry) hstate message.entries

theorem reply (h : Likeness like) (hlike : like one other) (response : Message) :
    like (one.reply response).1 (other.reply response).1 ∧
      (one.reply response).2 = (other.reply response).2 := by
  rw [Engine.reply, Engine.reply]
  split
  · exact ⟨hlike, rfl⟩
  · split
    · exact ⟨h.count hlike (Counters.steady_addSent _), rfl⟩
    · exact ⟨hlike, rfl⟩

/-! ### Frames -/

theorem takeFrame (h : Likeness like) (hlike : like one other) (received : Received) :
    like (one.takeFrame received).1 (other.takeFrame received).1 ∧
      (one.takeFrame received).2 = (other.takeFrame received).2 := by
  have hcount := h.count hlike Counters.steady_addFrame
  cases received with
  | message message =>
    obtain ⟨⟨hengine, hresponse⟩, heffects⟩ := h.takeApart hcount message
    obtain ⟨hreplied, hmore⟩ :=
      h.reply hengine (((one.count Counters.addFrame).takeApart message).1.2)
    simp only [Engine.takeFrame]
    rw [← hresponse, ← heffects]
    exact ⟨hreplied, by rw [hmore]⟩
  | malformed fault =>
    refine ⟨h.count hcount Counters.steady_addUnusable, ?_⟩
    -- the line that tells of the fault names the endpoint
    simp only [Engine.takeFrame]
    rw [h.name_eq hcount]

/-- **A row of frames** leaves engines alike that were, and has the same effects on
them. -/
theorem takeFrames (h : Likeness like) (hlike : like one other) (frames : List Received) :
    like (Machine.run Engine.takeFrame one frames).1 (Machine.run Engine.takeFrame other frames).1 ∧
      (Machine.run Engine.takeFrame one frames).2 = (Machine.run Engine.takeFrame other frames).2 :=
  Machine.run_related like (fun _ _ received hstate => h.takeFrame hstate received) hlike frames

end Likeness

/-! ### What a row of frames keeps -/

/-- A property of the registry that recording and fulfilling keep makes a likeness of an
engine with itself, and so does the stage of its connection. -/
theorem likeness_of_keeps (keeps : Registry → Prop) (connection : Connection)
    (hrecord : ∀ registry tab channel batch, keeps registry →
      keeps (Registry.record registry tab channel batch).1)
    (hfulfil : ∀ registry request, keeps registry → keeps (Registry.fulfil registry request).1) :
    Likeness fun one other =>
      one = other ∧ one.endpoint.connection = connection ∧ keeps one.registry where
  name_eq h := by rw [h.1]
  handlers_eq h := by rw [h.1]
  count h _ := ⟨by rw [h.1], h.2⟩
  withHandler key handler h := ⟨by rw [h.1], h.2⟩
  record tab channel batch h := by
    obtain ⟨rfl, hconnection, hkeeps⟩ := h
    exact ⟨⟨rfl, hconnection, hrecord _ tab channel batch hkeeps⟩, rfl⟩
  fulfil request h := by
    obtain ⟨rfl, hconnection, hkeeps⟩ := h
    exact ⟨⟨rfl, hconnection, hfulfil _ request hkeeps⟩, rfl⟩

/-- **What recording and fulfilling keep, a row of frames keeps.** -/
theorem registry_takeFrames (keeps : Registry → Prop)
    (hrecord : ∀ registry tab channel batch, keeps registry →
      keeps (Registry.record registry tab channel batch).1)
    (hfulfil : ∀ registry request, keeps registry → keeps (Registry.fulfil registry request).1)
    {engine : Engine} (h : keeps engine.registry) (frames : List Received) :
    keeps (Machine.run takeFrame engine frames).1.registry :=
  ((likeness_of_keeps keeps _ hrecord hfulfil).takeFrames ⟨rfl, rfl, h⟩ frames).1.2.2

/-- Frames do not change the stage of the connection. -/
theorem connection_takeFrames (engine : Engine) (frames : List Received) :
    (Machine.run takeFrame engine frames).1.endpoint.connection = engine.endpoint.connection := by
  have hlikeness := likeness_of_keeps (fun _ => True) engine.endpoint.connection
    (fun _ _ _ _ h => h) fun _ _ h => h
  exact (hlikeness.takeFrames ⟨rfl, rfl, trivial⟩ frames).1.2.1

end Engine

end StripChart
