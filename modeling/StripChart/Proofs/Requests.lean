import StripChart.Proofs.Publishing

/-!
# Requests to a registry

A registry is asked for seven things (`Registry.Request`), and gives an answer to each
(`Registry.serve`). All that is ever said about its tabs is about rows of such requests, from
one of the two registries that there are to begin with (`Registry.IsInitial`): one without
tabs, and the one that a config describes.

What an engine does to its tabs is a row of requests, too, and so is all that a session does
in its life (`Session.reaches_run`). A property that every single request keeps is therefore
one of every engine and every session (`Registry.Reaches.keeps`), and nobody has to follow a
frame down to the tabs again to see it.
-/

namespace StripChart

namespace Registry

/-- What a registry can be asked for. -/
inductive Request
  /-- To do what a request for one tab says. -/
  | fulfil (request : PlotRequest)
  /-- To put samples into the ring of a channel. -/
  | record (tab channel : String) (batch : List (Sample Float))
  /-- To change the capacity of a tab. -/
  | resize (tab : String) (capacity : Nat)
  /-- To change the capacity of a tab by one step. -/
  | zoom (tab : String) (grow : Bool)
  /-- To make sure that there is a tab. -/
  | touch (tab : String)
  /-- To take a tab away. -/
  | remove (tab : String)
  /-- To take the pictures of the tabs that have changed. -/
  | takePictures

/-- What a registry answers. -/
inductive Answer
  /-- It has done what it could, and there are these lines to be told. -/
  | fulfilled (lines : List LogLine)
  /-- Whether the channel is selected, so that the samples have been put in. -/
  | recorded (was : Bool)
  /-- Whether the capacity is allowed. -/
  | resized (result : Except InvalidCapacity Unit)
  /-- The capacity that the step has led to. -/
  | zoomed (capacity : Nat)
  /-- There is such a tab now. -/
  | touched
  /-- Whether there was such a tab. -/
  | removed (was : Bool)
  /-- The pictures that were taken. -/
  | pictured (pictures : List Picture)

/-- Serves a request and gives the answer to it. -/
def serve (registry : Registry) : Request → Registry × List Answer
  | .fulfil request =>
    ((registry.fulfil request).1, [.fulfilled (registry.fulfil request).2])
  | .record tab channel batch =>
    ((registry.record tab channel batch).1, [.recorded (registry.record tab channel batch).2])
  | .resize tab capacity =>
    ((registry.resize tab capacity).1, [.resized (registry.resize tab capacity).2])
  | .zoom tab grow => ((registry.zoom tab grow).1, [.zoomed (registry.zoom tab grow).2])
  | .touch tab => (registry.touch tab, [.touched])
  | .remove tab => ((registry.remove tab).1, [.removed (registry.remove tab).2])
  | .takePictures => (registry.takePictures.1, [.pictured registry.takePictures.2])

/-- The registry after a row of requests. -/
def after (registry : Registry) (requests : List Request) : Registry :=
  (Machine.run serve registry requests).1

/-- The answers to a row of requests, in order. -/
def answers (registry : Registry) (requests : List Request) : List Answer :=
  (Machine.run serve registry requests).2

@[simp] theorem after_nil (registry : Registry) : registry.after [] = registry :=
  rfl

@[simp] theorem after_cons (registry : Registry) (request : Request) (rest : List Request) :
    registry.after (request :: rest) = (registry.serve request).1.after rest :=
  rfl

theorem after_append (registry : Registry) (first second : List Request) :
    registry.after (first ++ second) = (registry.after first).after second := by
  simp only [after, Machine.run_append]

theorem after_concat (registry : Registry) (requests : List Request) (request : Request) :
    registry.after (requests ++ [request]) = ((registry.after requests).serve request).1 :=
  registry.after_append requests [request]

theorem answers_append (registry : Registry) (first second : List Request) :
    registry.answers (first ++ second)
      = registry.answers first ++ (registry.after first).answers second := by
  simp only [answers, after, Machine.run_append]

/-- **What every request keeps, a row of requests keeps.** -/
theorem keeps_after (keeps : Registry → Prop)
    (hserve : ∀ registry request, keeps registry → keeps (serve registry request).1)
    {registry : Registry} (h : keeps registry) (requests : List Request) :
    keeps (registry.after requests) :=
  Machine.run_invariant keeps hserve h requests

/-! ### Where rows of requests begin -/

/-- **A registry as it is to begin with**: one without tabs, or the one that a config
describes. -/
def IsInitial (config : Config) (palette : Palette) (registry : Registry) : Prop :=
  new? config palette = .ok registry ∨ ofConfig? config palette = .ok registry

/-- What holds of a registry without tabs, and is kept by the settings of every tab, holds
to begin with. -/
theorem IsInitial.keeps {config : Config} {palette : Palette} {registry : Registry}
    (h : IsInitial config palette registry) (keeps : Registry → Prop)
    (hnew : ∀ bare, new? config palette = .ok bare → keeps bare)
    (hsettings : ∀ before after entry, keeps before →
      applyTabSettings before entry = .ok after → keeps after) : keeps registry := by
  rcases h with hbare | hconfig
  · exact hnew registry hbare
  · exact keeps_ofConfig? keeps hnew hsettings hconfig

theorem IsInitial.allDirty {config : Config} {palette : Palette} {registry : Registry}
    (h : IsInitial config palette registry) : registry.AllDirty :=
  h.keeps AllDirty (fun _ => allDirty_new?) fun _ _ _ hdirty => hdirty.applyTabSettings

/-- A config with one tab, on which one channel is plotted. -/
def onePlot : Config where
  tabs := [⟨"power", ["volts"], some 2, true⟩]

/-! ### Registries that come of one another -/

/-- **A registry comes of another** by a row of requests. -/
def Reaches (registry later : Registry) : Prop :=
  ∃ requests, later = registry.after requests

namespace Reaches

variable {registry later last : Registry}

theorem refl (registry : Registry) : registry.Reaches registry :=
  ⟨[], rfl⟩

theorem serve (registry : Registry) (request : Request) :
    registry.Reaches (registry.serve request).1 :=
  ⟨[request], rfl⟩

theorem trans (h : registry.Reaches later) (h' : later.Reaches last) : registry.Reaches last := by
  obtain ⟨first, rfl⟩ := h
  obtain ⟨second, rfl⟩ := h'
  exact ⟨first ++ second, (registry.after_append first second).symm⟩

/-- **What every request keeps** goes over to all that comes of a registry. -/
theorem keeps (h : registry.Reaches later) (keeps : Registry → Prop)
    (hserve : ∀ registry request, keeps registry → keeps (Registry.serve registry request).1)
    (hregistry : keeps registry) : keeps later := by
  obtain ⟨requests, rfl⟩ := h
  exact keeps_after keeps hserve hregistry requests

end Reaches

end Registry

/-! ### What engines do to their tabs -/

namespace Engine

theorem reaches_takeFrames (engine : Engine) (frames : List Received) :
    engine.registry.Reaches (Machine.run takeFrame engine frames).1.registry :=
  registry_takeFrames engine.registry.Reaches
    (fun registry tab channel batch h => h.trans (.serve registry (.record tab channel batch)))
    (fun registry request h => h.trans (.serve registry (.fulfil request))) (.refl _) frames

/-- **A delivery unit** comes to a row of requests. -/
theorem reaches_receive (engine : Engine) (unit : Bytes) :
    engine.registry.Reaches (engine.receive unit).1.registry := by
  by_cases hopen : engine.endpoint.connection.isOpen = true
  · rcases hunit : engine.endpoint.splitter.receive unit with ⟨fault | frames, splitter⟩
    · rw [receive_of_error hopen hunit]
      exact .refl _
    · rw [receive_of_ok hopen hunit]
      exact engine.reaches_takeFrames frames
  · rw [receive, if_neg hopen]
    exact .refl _

end Engine

/-! ### What sessions do to their tabs -/

namespace Session

variable (session : Session)

theorem reaches_publish : session.registry.Reaches session.publish.1.registry := by
  rw [registry_publish]
  exact .serve session.registry .takePictures

theorem reaches_conclude (outcome : Except Failure Ending) :
    session.registry.Reaches (session.conclude outcome).1.registry :=
  session.reaches_publish

theorem reaches_deliver (sendFault : Option String) (unit : Bytes) :
    session.registry.Reaches (session.deliver sendFault unit).1.registry := by
  cases sendFault with
  | none => exact .refl _
  | some reason => exact session.reaches_conclude _

theorem reaches_receive (sendFault : Option String) (unit : Bytes) :
    session.registry.Reaches (session.receive sendFault unit).1.registry := by
  have hunit := session.engine.reaches_receive unit
  rw [receive_fst]
  split
  · exact hunit.trans (reaches_conclude _ _)
  · split
    · exact hunit
    · exact hunit.trans (reaches_deliver _ sendFault _)

theorem reaches_execute (sendFault : Option String) (command : Command) :
    session.registry.Reaches (session.execute sendFault command).1.registry := by
  cases command with
  | change request => exact .serve session.registry (.fulfil request)
  | resize tab capacity => exact .serve session.registry (.resize tab capacity)
  | zoom tab grow => exact .serve session.registry (.zoom tab grow)
  | discard tab =>
    simp only [execute]
    split <;> exact .serve session.registry (.remove tab)
  | send message =>
    simp only [execute]
    split
    · exact reaches_deliver _ sendFault _
    · exact .refl _
  | stop => exact session.reaches_conclude _

theorem reaches_finish : session.registry.Reaches session.finish.1.registry := by
  simp only [finish]
  split <;> exact reaches_conclude (session.withEndpoint _) _

/-- **Whatever happens to a session** comes to a row of requests to its registry. -/
theorem reaches_step (sendFault : Option String) (event : Event) :
    session.registry.Reaches (session.step sendFault event).1.registry := by
  unfold step
  split
  · cases event with
    | unit bytes => exact session.reaches_receive sendFault bytes
    | failed reason => exact session.reaches_conclude _
    | ended => exact session.reaches_finish
    | command command => exact session.reaches_execute sendFault command
    | abandoned => exact session.reaches_execute sendFault .stop
    | tick => exact session.reaches_publish
  · exact .refl _

theorem reaches_run (events : List (Event × Option String)) :
    session.registry.Reaches (session.run events).1.registry :=
  Machine.run_invariant (fun now : Session => session.registry.Reaches now.registry)
    (fun now entry h => h.trans (now.reaches_step entry.2 entry.1)) (.refl _) events

end Session

end StripChart
