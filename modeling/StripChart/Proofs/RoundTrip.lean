import StripChart.Proofs.Framing
import StripChart.Proofs.Text

/-!
# Frames that are written and read again

What is appended to a buffer as frames comes out of a splitter as it went in. This file says
so for rows of values of any kind, in both modes of a splitter and for every limit that the
payloads keep to (`Frame.receive_written`): the messages among the values are received as
messages, and each of the others is told to be no message, in its place in the row.

Nothing is asked of the text of a value but that it reads back (`Json.ReadsBack`). What
carries the proof is that a payload is cut off the front of the bytes at exactly the length
that its header declares (`Frame.cut_ofPayload`), so that writing a row of values and cutting
a row of frames are the same row of payloads.
-/

namespace StripChart

/-! ### What is read -/

namespace Received

/-- What is received for a value: an object is a message, and of any other value it is told
what it is. -/
def ofValue : Json → Received
  | .object entries => .message (ByName.ofList entries)
  | other => .malformed (.notAnObject other.kind)

theorem ofValue_ofTable (message : Message) : ofValue (Json.ofTable message) = .message message :=
  congrArg Received.message (ByName.ofList_entries message)

theorem ofValue_of_ne_object {value : Json} (h : ∀ entries, value ≠ .object entries) :
    ofValue value = .malformed (.notAnObject value.kind) := by
  cases value with
  | object entries => exact absurd rfl (h entries)
  | _ => rfl

theorem ofPayload_encode {value : Json} (h : value.ReadsBack) :
    ofPayload value.encode = ofValue value := by
  rw [ofPayload, show Json.decode? value.encode = some value from h]
  cases value <;> rfl

/-- **A message is received however its entries stand in the payload.** -/
theorem ofPayload_encode_object {entries : List (String × Json)} (h : Json.OrderedEntries entries)
    (hdepth : (Json.object entries).depth ≤ Json.maxDepth)
    (hnumbers : ∀ number, .number number ∈ (Json.object entries).tokens → number.ReadsBack) :
    ofPayload (Json.object entries).encode = .message (ByName.ofList entries) := by
  rw [ofPayload, Json.decode?_encode_object h hdepth hnumbers]
  exact congrArg Received.message (ByName.ofList_entries (ByName.ofList entries))

end Received

namespace Frame

/-! ### Writing in place -/

/-- Writes a value as one frame at the end of a buffer, step by step: the length of the
payload is looked at before anything is written. -/
def write (value : Json) : ExceptT FrameError (StateM Bytes) Unit := do
  let payload := value.encode
  if greatestLength < payload.length then
    throw (.tooLarge payload.length greatestLength)
  modify (· ++ header payload.length)
  modify (· ++ payload)

/-- **Writing in place is appending**, and what is refused leaves the buffer as it was. -/
theorem run_write (value : Json) (out : Bytes) :
    (write value).run.run out
      = match append? out value with
        | .ok longer => (.ok (), longer)
        | .error fault => (.error fault, out) := by
  rw [append?]
  rcases Nat.lt_or_ge greatestLength value.encode.length with hlong | hshort
  · rw [if_neg (Nat.not_le.2 hlong), write, if_pos hlong]
    rfl
  · rw [if_pos hshort, write, if_neg (Nat.not_lt.2 hshort)]
    show (Except.ok (), out ++ header value.encode.length ++ value.encode) = _
    rw [List.append_assoc]
    rfl

/-- A value whose payload a header can declare is written behind what there is. -/
theorem run_write_of_le {value : Json} (h : value.encode.length ≤ greatestLength) (out : Bytes) :
    (write value).run.run out = (.ok (), out ++ ofPayload value.encode) := by
  rw [run_write, append?, if_pos h]

/-- Values are written one after the other. -/
theorem run_forM_write {values : List Json}
    (h : ∀ value ∈ values, value.encode.length ≤ greatestLength) (out : Bytes) :
    (values.forM write).run.run out = (.ok (), out ++ ofPayloads (values.map Json.encode)) := by
  induction values generalizing out with
  | nil =>
    rw [List.map_nil, ofPayloads_nil, List.append_nil]
    rfl
  | cons value rest ih =>
    have hvalue := run_write_of_le (h value List.mem_cons_self) out
    have hrest := ih (fun other hmem => h other (List.mem_cons_of_mem _ hmem))
      (out ++ ofPayload value.encode)
    show (write value >>= fun _ => rest.forM write).run.run out = _
    rw [ExceptT.run_bind, StateT.run_bind, hvalue]
    show (rest.forM write).run.run (out ++ ofPayload value.encode) = _
    rw [hrest, List.map_cons, ofPayloads_cons, List.append_assoc]

/-! ### Reading what was written -/

/-- A row of frames that fit is cut into its payloads, and nothing waits. -/
theorem receive_ofPayloads {limit : Nat} {payloads : List Bytes}
    (h : ∀ payload ∈ payloads, Fits limit payload) (reassemble : Bool) :
    (Splitter.new limit reassemble).receive (ofPayloads payloads)
      = (.ok (payloads.map Received.ofPayload), Splitter.new limit reassemble) := by
  have hwhole := cut_ofPayloads h reassemble
  have hatHand : (Splitter.new limit reassemble).atHand (ofPayloads payloads)
      = ofPayloads payloads :=
    Splitter.atHand_eq_append _ _
  have hfeed : (Splitter.new limit reassemble).feed (ofPayloads payloads)
      = (.ok payloads, Splitter.new limit reassemble) := by
    rw [Splitter.feed, hatHand]
    simp only [Splitter.new, hwhole]
  rw [Splitter.receive, hfeed]
  rfl

/-- The values of a row are received in their places, each as what it is. -/
theorem map_ofPayload_encode {values : List Json} (h : ∀ value ∈ values, value.ReadsBack) :
    (values.map Json.encode).map Received.ofPayload = values.map Received.ofValue := by
  rw [List.map_map]
  exact List.map_congr_left fun value hmem => Received.ofPayload_encode (h value hmem)

/-- Appending a row of values whose payloads fit adds the frame of each and leaves what was
there before in its place. -/
theorem foldlM_append? {limit : Nat} {values : List Json}
    (h : ∀ value ∈ values, Fits limit value.encode) (out : Bytes) :
    values.foldlM append? out = .ok (out ++ ofPayloads (values.map Json.encode)) := by
  induction values generalizing out with
  | nil =>
    rw [List.map_nil, ofPayloads_nil, List.append_nil]
    rfl
  | cons value rest ih =>
    have hvalue : append? out value = .ok (out ++ ofPayload value.encode) := by
      rw [append?, if_pos (h value List.mem_cons_self).2]
    rw [List.foldlM_cons, hvalue]
    show rest.foldlM append? (out ++ ofPayload value.encode) = _
    rw [ih (fun other hmem => h other (List.mem_cons_of_mem _ hmem)), List.map_cons,
      ofPayloads_cons, List.append_assoc]

/-- **A row of values that is written as frames is read as it was written.** Let the payload
of every value fit under the limit, and let the text of every value read back. Then, whatever
a buffer holds and in both modes of a splitter:

* each value is written as exactly one frame, behind what the buffer held before, and it makes
  no difference whether the buffer is written in place;
* a new splitter takes the frames as one unit, gives what the values are, and waits for
  nothing, so the stream may end there;
* values that are messages are received as these messages, in their order;
* a value that is no object is told to be none, with what it is, and its neighbours are
  received as if it were not there.

Of any value at all, it is written whole or refused, by the length of its payload alone; and
if it is refused then the buffer is as it was. -/
theorem receive_written {limit : Nat} {values : List Json}
    (hfits : ∀ value ∈ values, Fits limit value.encode)
    (hreads : ∀ value ∈ values, value.ReadsBack) (out : Bytes) (reassemble : Bool) :
    (∃ frames received,
      frames = (values.map fun value => header value.encode.length ++ value.encode).flatten ∧
      values.foldlM append? out = .ok (out ++ frames) ∧
      (values.forM write).run.run out = (.ok (), out ++ frames) ∧
      (Splitter.new limit reassemble).receive frames
        = (.ok received, Splitter.new limit reassemble) ∧
      (Splitter.new limit reassemble).finish.1 = .ok () ∧
      received.length = values.length ∧
      (∀ messages : List Message, values = messages.map Json.ofTable →
        received = messages.map .message) ∧
      ∀ before value after, values = before ++ value :: after →
        (∀ entries, value ≠ .object entries) →
        received = before.map Received.ofValue ++ .malformed (.notAnObject value.kind) ::
          after.map Received.ofValue) ∧
    (∀ value : Json, value.encode.length ≤ greatestLength →
      (write value).run.run out
        = (.ok (), out ++ (header value.encode.length ++ value.encode))) ∧
    ∀ value : Json, greatestLength < value.encode.length →
      (write value).run.run out
        = (.error (.tooLarge value.encode.length greatestLength), out) := by
  refine ⟨⟨ofPayloads (values.map Json.encode), values.map Received.ofValue, ?_,
    foldlM_append? hfits out, run_forM_write (fun value hmem => (hfits value hmem).2) out, ?_,
    rfl, List.length_map .., ?_, ?_⟩, fun value h => run_write_of_le h out, fun value h => ?_⟩
  · rw [ofPayloads, List.map_map]
    rfl
  · have hpayloads : ∀ payload ∈ values.map Json.encode, Fits limit payload := by
      intro payload hmem
      obtain ⟨value, hvalue, rfl⟩ := List.mem_map.1 hmem
      exact hfits value hvalue
    rw [receive_ofPayloads hpayloads, map_ofPayload_encode hreads]
  · rintro messages rfl
    rw [List.map_map]
    exact List.map_congr_left fun message _ => Received.ofValue_ofTable message
  · rintro before value after rfl hvalue
    rw [List.map_append, List.map_cons, Received.ofValue_of_ne_object hvalue]
  · rw [run_write, append?, if_neg (Nat.not_le.2 h)]

/-- A row that is written behind a byte: a message, a value that is none, and one more
message. -/
def mixedRow : List Json :=
  [.object [("a", .ofNat 1)], .array [.null], .object []]

theorem receive_written_mixedRow :
    (∀ value ∈ mixedRow, Fits 16 value.encode) ∧ (∀ value ∈ mixedRow, value.ReadsBack) ∧
    ∃ frames received,
      mixedRow.foldlM append? [7] = .ok (7 :: frames) ∧
      (Splitter.new 16 false).receive frames = (.ok received, Splitter.new 16 false) ∧
      received = [Received.ofValue (.object [("a", .ofNat 1)]),
        .malformed (.notAnObject "array"), Received.ofValue (.object [])] := by
  have hfits : ∀ value ∈ mixedRow, Fits 16 value.encode := by
    simp only [mixedRow, List.forall_mem_cons, Fits]
    decide +kernel
  have hreads : ∀ value ∈ mixedRow, value.ReadsBack := by
    have hone : (Json.Number.integer 1).ReadsBack :=
      Json.Number.readsBack_integer (by decide) (by decide)
    simp only [mixedRow, List.forall_mem_cons]
    refine ⟨?_, ?_, ?_, fun value hmem => absurd hmem List.not_mem_nil⟩
    · refine Json.readsBack_of_ordered ?_ (by decide) fun number hnumber => ?_
      · simp [Json.Ordered, Json.OrderedEntries, Entries.Sorted, Json.ofNat]
      · obtain rfl : number = .integer 1 := by
          simpa [Json.tokens, Json.entryTokens, Json.moreEntryTokens, Json.ofNat] using hnumber
        exact hone
    · refine Json.readsBack_of_ordered ?_ (by decide) fun number hnumber => ?_
      · simp [Json.Ordered, Json.OrderedElements]
      · simp [Json.tokens, Json.elementTokens, Json.moreElementTokens] at hnumber
    · refine Json.readsBack_of_ordered ?_ (by decide) fun number hnumber => ?_
      · simp [Json.Ordered, Json.OrderedEntries, Entries.Sorted]
      · simp [Json.tokens, Json.entryTokens] at hnumber
  refine ⟨hfits, hreads, ?_⟩
  obtain ⟨⟨frames, received, -, hfold, -, hreceive, -, -, -, hother⟩, -⟩ :=
    receive_written hfits hreads [7] false
  refine ⟨frames, received, hfold, hreceive, ?_⟩
  exact hother [.object [("a", .ofNat 1)]] (.array [.null]) [.object []] rfl
    fun _ => Json.noConfusion

end Frame

end StripChart
