import StripChart.Json.Writer

/-!
# Frames

A frame is a header of four bytes, the length of the payload with the highest byte
first, followed by the payload. This file holds the header in both directions, what can
be wrong with a frame, and the writing of a JSON value as a frame.

What can be wrong is of two sorts. A *framing* fault leaves no way to tell where the
next frame starts, and ends the connection; a *payload* fault costs the one frame whose
payload could not be used (`FrameError.breaksStream`).
-/

namespace StripChart

/-- A row of bytes. -/
abbrev Bytes :=
  List UInt8

/-- What can be wrong with a frame. -/
inductive FrameError
  /-- A unit ends inside a header. -/
  | shortHeader (remaining : Nat)
  /-- A header declares more bytes than follow it. -/
  | overrun (declared remaining : Nat)
  /-- A header declares more bytes than a frame may have. -/
  | tooLarge (declared limit : Nat)
  /-- The stream ends inside a frame. -/
  | incomplete (pending : Nat)
  /-- A payload is no JSON text. -/
  | malformed
  /-- A payload is a JSON value other than an object; `found` says which sort. -/
  | notAnObject (found : String)
  deriving DecidableEq, Repr

namespace FrameError

/-- What is said about the fault. -/
def message : FrameError → String
  | .shortHeader remaining =>
    s!"truncated frame header: {remaining} byte(s) left in delivery unit"
  | .overrun declared remaining =>
    s!"frame declares {declared} byte(s) but only {remaining} remain"
  | .tooLarge declared limit => s!"frame declares {declared} byte(s), limit is {limit}"
  | .incomplete pending => s!"stream ended with {pending} byte(s) of an incomplete frame"
  | .malformed => "malformed payload: not a JSON text"
  | .notAnObject found => s!"payload is not a mapping (found {found})"

/-- Whether the stream can no longer be cut into frames. -/
def breaksStream : FrameError → Bool
  | .malformed => false
  | .notAnObject _ => false
  | _ => true

end FrameError

namespace Frame

/-- The number of bytes of a header. -/
def headerLength : Nat :=
  4

/-- The frame limit that holds unless another is set: sixteen mebibytes. -/
def defaultLimit : Nat :=
  16 * 1024 * 1024

/-- The greatest length that a header can declare. -/
def greatestLength : Nat :=
  4294967295

/-! ### Headers -/

/-- The header that declares `length` bytes, the highest byte first. -/
def header (length : Nat) : Bytes :=
  [UInt8.ofNat (length / 16777216), UInt8.ofNat (length / 65536), UInt8.ofNat (length / 256),
    UInt8.ofNat length]

/-- The length that the four bytes of a header declare. -/
def declaredLength (a b c d : UInt8) : Nat :=
  ((a.toNat * 256 + b.toNat) * 256 + c.toNat) * 256 + d.toNat

@[simp] theorem length_header (length : Nat) : (header length).length = headerLength :=
  rfl

/-- A header declares the length it was written for, as far as four bytes can. -/
theorem declaredLength_header {length : Nat} (h : length ≤ greatestLength) :
    declaredLength (UInt8.ofNat (length / 16777216)) (UInt8.ofNat (length / 65536))
      (UInt8.ofNat (length / 256)) (UInt8.ofNat length) = length := by
  simp only [declaredLength, UInt8.toNat_ofNat', greatestLength] at *
  omega

/-! ### Writing -/

/-- A payload as a frame, whatever its length. -/
def ofPayload (payload : Bytes) : Bytes :=
  header payload.length ++ payload

/-- Appends a value as one frame; a payload too long for a header is refused, and then
nothing is appended. -/
def append? (out : Bytes) (value : Json) : Except FrameError Bytes :=
  let payload := value.encode
  if payload.length ≤ greatestLength then .ok (out ++ ofPayload payload)
  else .error (.tooLarge payload.length greatestLength)

/-- A value as one frame. -/
def encode? (value : Json) : Except FrameError Bytes :=
  append? [] value

end Frame

end StripChart
