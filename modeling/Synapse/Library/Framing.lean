import Mathlib.Data.List.Basic
import Mathlib.Data.List.TakeDrop

/-!
# Length-prefixed framing

A length-prefixed format cuts a byte stream into frames by reading a header of
fixed size which announces the length of the payload behind it. The format is
given by the header size and the announced length; no other property of the
header is used. A `Frame` carries the proof that it occupies the length it
announces, so a stream of frames can be read back in only one way.
-/

universe u

/-- A length-prefixed format: the header size and the payload length a header announces. -/
structure Framing (Byte : Type u) where
  headerSize : ℕ
  headerSize_pos : 0 < headerSize
  payloadLength : List Byte → ℕ

namespace Framing

variable {Byte : Type u}

/-- One frame: a whole header and a payload of the announced length. -/
@[ext]
structure Frame (framing : Framing Byte) where
  header : List Byte
  payload : List Byte
  header_length : header.length = framing.headerSize
  payload_length : payload.length = framing.payloadLength header

variable {framing : Framing Byte}

def Frame.bytes (frame : framing.Frame) : List Byte :=
  frame.header ++ frame.payload

theorem Frame.bytes_injective {first second : framing.Frame}
    (sameBytes : first.bytes = second.bytes) : first = second := by
  have sameLength : first.header.length = second.header.length := by
    rw [first.header_length, second.header_length]
  rcases List.append_inj sameBytes sameLength with ⟨sameHeader, samePayload⟩
  exact Frame.ext sameHeader samePayload

theorem Frame.length_bytes (frame : framing.Frame) :
    frame.bytes.length = framing.headerSize + framing.payloadLength frame.header := by
  simp [Frame.bytes, frame.header_length, frame.payload_length]

variable (framing)

/-- The stream starts with a whole frame. -/
def Complete (stream : List Byte) : Prop :=
  framing.headerSize + framing.payloadLength (stream.take framing.headerSize) ≤ stream.length

instance (stream : List Byte) : Decidable (framing.Complete stream) :=
  inferInstanceAs (Decidable (_ ≤ _))

/-- The frame at the start of a stream which starts with a whole frame. -/
def firstFrame (stream : List Byte) (complete : framing.Complete stream) : framing.Frame where
  header := stream.take framing.headerSize
  payload := (stream.drop framing.headerSize).take
    (framing.payloadLength (stream.take framing.headerSize))
  header_length := by
    simp only [Complete] at complete
    simp only [List.length_take]
    omega
  payload_length := by
    simp only [Complete] at complete
    simp only [List.length_take, List.length_drop]
    omega

/-- Read frames as long as the stream starts with a whole one. -/
def parse (stream : List Byte) : List framing.Frame × List Byte :=
  if complete : framing.Complete stream then
    let frame := framing.firstFrame stream complete
    let later := parse (stream.drop frame.bytes.length)
    (frame :: later.1, later.2)
  else ([], stream)
termination_by stream.length
decreasing_by
  have headerPos := framing.headerSize_pos
  simp only [Frame.length_bytes, firstFrame]
  simp only [Complete] at complete
  simp only [List.length_drop]
  omega

variable {framing}

theorem complete_bytes_append (frame : framing.Frame) (rest : List Byte) :
    framing.Complete (frame.bytes ++ rest) := by
  have takeHeader : (frame.bytes ++ rest).take framing.headerSize = frame.header := by
    simp [Frame.bytes, ← frame.header_length]
  simp only [Complete, takeHeader, List.length_append, frame.length_bytes]
  omega

theorem firstFrame_bytes_append (frame : framing.Frame) (rest : List Byte) :
    framing.firstFrame (frame.bytes ++ rest) (complete_bytes_append frame rest) = frame := by
  have takeHeader : (frame.bytes ++ rest).take framing.headerSize = frame.header := by
    simp [Frame.bytes, ← frame.header_length]
  have dropHeader : (frame.bytes ++ rest).drop framing.headerSize = frame.payload ++ rest := by
    simp [Frame.bytes, ← frame.header_length]
  apply Frame.ext
  · exact takeHeader
  · simp only [firstFrame, takeHeader, dropHeader, ← frame.payload_length]
    simp

theorem bytes_firstFrame_append (stream : List Byte) (complete : framing.Complete stream) :
    (framing.firstFrame stream complete).bytes ++
      stream.drop (framing.firstFrame stream complete).bytes.length = stream := by
  have bytesEq : (framing.firstFrame stream complete).bytes =
      stream.take (framing.firstFrame stream complete).bytes.length := by
    rw [Frame.length_bytes, List.take_add]
    rfl
  conv_lhs =>
    enter [1]
    rw [bytesEq]
  exact List.take_append_drop _ _

/-- A stream starts with a whole frame exactly when it is a frame and something behind it. -/
theorem complete_iff_exists_frame (stream : List Byte) :
    framing.Complete stream ↔ ∃ (frame : framing.Frame) (rest : List Byte),
      stream = frame.bytes ++ rest := by
  constructor
  · intro complete
    exact ⟨framing.firstFrame stream complete, _, (bytes_firstFrame_append stream complete).symm⟩
  · rintro ⟨frame, rest, rfl⟩
    exact complete_bytes_append frame rest

/-- What is left of a frame while some of its bytes are missing starts with no whole frame. -/
theorem not_complete_of_torn {frame : framing.Frame} {torn missing : List Byte}
    (split : frame.bytes = torn ++ missing) (missingSome : missing ≠ []) :
    ¬framing.Complete torn := by
  intro complete
  rcases (complete_iff_exists_frame torn).mp complete with ⟨inner, rest, rfl⟩
  rw [List.append_assoc] at split
  have outer := firstFrame_bytes_append frame []
  have same : frame.bytes ++ [] = inner.bytes ++ (rest ++ missing) := by simpa using split
  have innerFirst := firstFrame_bytes_append inner (rest ++ missing)
  have frameEq : frame = inner := by
    rw [← outer, ← innerFirst]
    congr 1
  subst frameEq
  have lengths := congrArg List.length split
  have missingPos := List.length_pos_iff.mpr missingSome
  simp only [List.length_append] at lengths
  omega

theorem parse_of_not_complete {stream : List Byte} (incomplete : ¬framing.Complete stream) :
    framing.parse stream = ([], stream) := by
  rw [parse, dif_neg incomplete]

theorem parse_bytes_append (frame : framing.Frame) (rest : List Byte) :
    framing.parse (frame.bytes ++ rest) =
      (frame :: (framing.parse rest).1, (framing.parse rest).2) := by
  rw [parse, dif_pos (complete_bytes_append frame rest)]
  simp only [firstFrame_bytes_append, List.drop_left]

/-- Reading back whole frames with an incomplete tail recovers exactly these frames. -/
theorem parse_flatMap_append (frames : List framing.Frame) {tail : List Byte}
    (incomplete : ¬framing.Complete tail) :
    framing.parse (frames.flatMap Frame.bytes ++ tail) = (frames, tail) := by
  induction frames with
  | nil => simpa using parse_of_not_complete incomplete
  | cons frame frames ih =>
      rw [List.flatMap_cons, List.append_assoc, parse_bytes_append, ih]

/-- The frames of a stream and the tail behind them are the stream. -/
theorem flatMap_bytes_parse (stream : List Byte) :
    (framing.parse stream).1.flatMap Frame.bytes ++ (framing.parse stream).2 = stream := by
  fun_induction framing.parse stream with
  | case1 stream complete frame later ih =>
      rw [List.flatMap_cons, List.append_assoc, ih]
      exact bytes_firstFrame_append stream complete
  | case2 stream incomplete => rfl

end Framing
