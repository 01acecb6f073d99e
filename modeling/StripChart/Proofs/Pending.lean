import StripChart.Proofs.Faults

/-!
# What a splitter keeps waiting

Whatever bytes come in and however they are cut into units, the bytes that wait in a splitter
are the start of a single frame: part of a header, or a header under the limit with part of its
payload behind it. So what a splitter keeps is bounded by the limit alone
(`Splitter.pending_of_run`), and whoever sends the units cannot make it keep more.

The invariant is `Splitter.IsWaiting`. One fact about cutting carries it: the rest that a unit
leaves is unfinished unless the stream breaks in it (`Splitter.receive_cases`). After a fault,
and after the end of the stream, the splitter is a new one (`Splitter.serve_of_resets`), so that
nothing that came before is seen in what it answers from then on.
-/

namespace StripChart

open StripChart.Frame

/-- There is less of an unfinished frame than a header and the greatest payload would make. -/
theorem Frame.Unfinished.length_lt {limit : Nat} {bytes : Bytes} (h : Unfinished limit bytes) :
    bytes.length < headerLength + limit := by
  cases h with
  | header hshort => omega
  | payload hlimit _ hpart =>
    rw [List.length_append, length_header]
    omega

/-- An unfinished frame is short of its header, or of the payload that its header declares. -/
theorem Frame.Unfinished.cases_header {limit : Nat} {bytes : Bytes} (h : Unfinished limit bytes) :
    bytes.length < headerLength ∨
      ∃ declared rest, declared ≤ limit ∧ declared ≤ greatestLength ∧
        bytes = Frame.header declared ++ rest ∧ bytes.length < headerLength + declared := by
  cases h with
  | header hshort => exact Or.inl hshort
  | @payload declared rest hlimit hgreatest hpart =>
    refine Or.inr ⟨declared, rest, hlimit, hgreatest, rfl, ?_⟩
    rw [List.length_append, length_header]
    omega

namespace Splitter

/-! ### Requests to a splitter -/

/-- What a splitter is asked for. -/
inductive Request
  /-- To take a unit. -/
  | receive (unit : Bytes)
  /-- To end the stream. -/
  | finish

/-- What a splitter answers. -/
inductive Answer
  /-- What the frames hold that the unit completes, or a fault. -/
  | received (result : Except FrameError (List Received))
  /-- Whether the stream may end here. -/
  | finished (result : Except FrameError Unit)

/-- Serves a request and gives the answer to it. A splitter is used on after a fault. -/
def serve (splitter : Splitter) : Request → Splitter × List Answer
  | .receive unit => ((splitter.receive unit).2, [.received (splitter.receive unit).1])
  | .finish => (splitter.finish.2, [.finished splitter.finish.1])

/-- **The request lets go of all that waits**: it ends the stream, or a fault comes of it. -/
def Resets (splitter : Splitter) : Request → Prop
  | .receive unit => ∃ fault, (splitter.receive unit).1 = .error fault
  | .finish => True

/-- **After a fault, and after the end of the stream, a splitter is as good as new.** -/
theorem serve_of_resets {splitter : Splitter} {request : Request} (h : splitter.Resets request) :
    (splitter.serve request).1 = new splitter.limit splitter.reassemble := by
  cases request with
  | receive unit =>
    obtain ⟨fault, hfault⟩ := h
    rw [serve, (receive_error hfault).2]
  | finish =>
    rw [serve, finish]
    split <;> rfl

/-! ### The start of a frame -/

/-- **A splitter waits for the rest of a frame**, or for a frame to begin; and it never does the
first if it is strict. -/
structure IsWaiting (limit : Nat) (reassemble : Bool) (splitter : Splitter) : Prop where
  /-- The limit is the one that was set. -/
  limit_eq : splitter.limit = limit
  /-- The mode is the one that was set. -/
  reassemble_eq : splitter.reassemble = reassemble
  /-- What waits is the start of a frame under the limit. -/
  unfinished : Unfinished limit splitter.pending
  /-- Nothing waits in a strict splitter. -/
  pending_of_strict : reassemble = false → splitter.pending = []

variable {limit : Nat} {reassemble : Bool} {splitter : Splitter}

theorem isWaiting_new (limit : Nat) (reassemble : Bool) :
    (new limit reassemble).IsWaiting limit reassemble :=
  ⟨rfl, rfl, .nil limit, fun _ => rfl⟩

/-- A unit that is taken leaves the rest behind its frames, and the stream does not break
there. -/
theorem IsWaiting.receive (h : splitter.IsWaiting limit reassemble) (unit : Bytes) :
    (splitter.receive unit).2.IsWaiting limit reassemble := by
  obtain ⟨rfl, rfl, -, -⟩ := h
  obtain ⟨payloads, rest, hcut, hrest⟩ := exists_cutting splitter.limit (splitter.pending ++ unit)
  rcases receive_cases hcut hrest with ⟨-, fault, -, hunit⟩ | ⟨hbreaks, hunit⟩
  · rw [hunit]
    exact isWaiting_new _ _
  · rw [hunit]
    refine ⟨rfl, rfl, ?_, ?_⟩
    · exact hrest.resolve_right fun hover => hbreaks (Or.inl hover)
    · intro hstrict
      exact Decidable.not_not.1 fun hne => hbreaks (Or.inr ⟨hstrict, hne⟩)

/-- **Every request leaves the splitter waiting** as it has to. -/
theorem IsWaiting.serve (h : splitter.IsWaiting limit reassemble) (request : Request) :
    (splitter.serve request).1.IsWaiting limit reassemble := by
  cases request with
  | receive unit => exact h.receive unit
  | finish =>
    have hnew : (splitter.serve .finish).1 = new splitter.limit splitter.reassemble :=
      serve_of_resets trivial
    rw [hnew, h.limit_eq, h.reassemble_eq]
    exact isWaiting_new limit reassemble

/-- **What waits is one unfinished frame.** Let a new splitter serve any requests, and go on
after faults. Then:

* nothing waits in a strict splitter;
* what waits in any splitter is short of a header, or begins with a header that is under the
  limit and is short of the payload that it declares. So it is shorter than a header and the
  longest payload together, whatever units have come in;
* after a fault, and after the end of the stream, nothing waits, and whatever the splitter is
  asked for then, it answers as a new one does. -/
theorem pending_of_run (limit : Nat) (reassemble : Bool) (requests : List Request) :
    let now := (Machine.run serve (new limit reassemble) requests).1
    (reassemble = false → now.pending = []) ∧
    (now.pending.length < headerLength ∨
      ∃ declared rest, declared ≤ limit ∧ declared ≤ greatestLength ∧
        now.pending = header declared ++ rest ∧
        now.pending.length < headerLength + declared) ∧
    now.pending.length < headerLength + limit ∧
    ∀ request, now.Resets request →
      (now.serve request).1.pending = [] ∧
        ∀ later, Machine.run serve (now.serve request).1 later
          = Machine.run serve (new limit reassemble) later := by
  intro now
  have hnow : now.IsWaiting limit reassemble :=
    Machine.run_invariant (IsWaiting limit reassemble)
      (fun _ request hwaiting => hwaiting.serve request) (isWaiting_new limit reassemble) requests
  refine ⟨hnow.pending_of_strict, hnow.unfinished.cases_header, hnow.unfinished.length_lt, ?_⟩
  intro request hresets
  have hnew : (now.serve request).1 = new limit reassemble := by
    rw [serve_of_resets hresets, hnow.limit_eq, hnow.reassemble_eq]
  rw [hnew]
  exact ⟨rfl, fun _ => rfl⟩

/-- A header comes in two parts and a byte of its payload is missing; the header behind that byte
is one of a frame that is too long. -/
theorem pending_of_run_twoParts :
    let now := (Machine.run serve (new 2 true) [.receive [0, 0], .receive [0, 2, 7]]).1
    now.pending = [0, 0, 0, 2, 7] ∧ now.pending.length < headerLength + 2 ∧
      (now.receive [7, 0, 0, 1, 0]).1 = .error (.tooLarge 256 2) ∧
      (now.serve (.receive [7, 0, 0, 1, 0])).1.pending = [] := by
  intro now
  have hpending : now = ⟨2, true, [0, 0, 0, 2, 7]⟩ := by decide +kernel
  have hfault : (now.receive [7, 0, 0, 1, 0]).1 = .error (.tooLarge 256 2) := by
    have hfits : Fits 2 [7, 7] := ⟨by decide, by decide⟩
    have hcut : Cutting 2 ([0, 0, 0, 2, 7] ++ [7, 0, 0, 1, 0]) [[7, 7]] [0, 0, 1, 0] :=
      .cons hfits _
    have hover : Oversized 2 256 [0, 0, 1, 0] := ⟨by decide, by decide, by decide⟩
    have hunit : Splitter.receive ⟨2, true, [0, 0, 0, 2, 7]⟩ [7, 0, 0, 1, 0]
        = (.error (.tooLarge 256 2), ⟨2, true, []⟩) :=
      receive_of_oversized hcut hover
    rw [hpending, hunit]
  obtain ⟨-, -, hlength, hresets⟩ :=
    pending_of_run 2 true [.receive [0, 0], .receive [0, 2, 7]]
  exact ⟨by rw [hpending], hlength, hfault, (hresets (.receive _) ⟨_, hfault⟩).1⟩

end Splitter

end StripChart
