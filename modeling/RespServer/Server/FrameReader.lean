import RespServer.Failure.Basic
import RespServer.Frame.Stream

/-!
Contract: the receiving half of a connection, from octets to frames.

Owns:
- the buffer with its limit, and the end of the peer's stream;
- one reading at a time; the first failed reading is the last;
- octets that are left at the end of the stream and are no frame.

Does not own: what is done with the frames (`Handler`).
-/

namespace RespServer

/-- The receiving half of a connection. -/
structure FrameReader where
  /-- How much is buffered without a whole frame. -/
  limit : Nat
  buffer : Bytes
  /-- Whether the peer sends nothing more. -/
  ended : Bool
  failed : Bool
deriving DecidableEq

inductive Reading where
  | waiting
  | frame (frame : Frame)
  | failed (cause : Failure)
  | finished
deriving DecidableEq

namespace FrameReader

/-- A receiving half that has received nothing. -/
def new (limit : Nat) : FrameReader :=
  ⟨limit, [], false, false⟩

def append (reader : FrameReader) (chunk : Bytes) : FrameReader :=
  { reader with buffer := reader.buffer ++ chunk }

/-- The peer sends nothing more. -/
def finish (reader : FrameReader) : FrameReader :=
  { reader with ended := true }

/-- Octets are left that are no frame, and no more will come. -/
def bytesRemaining : Failure :=
  .io "bytes remaining on stream"

/-- One reading. After a failed reading nothing more is read. -/
def next (reader : FrameReader) : Reading × FrameReader :=
  if reader.failed then (.finished, reader)
  else match Frame.next? reader.limit reader.buffer with
    | .ok (some (frame, unread)) => (.frame frame, { reader with buffer := unread })
    | .error cause => (.failed (.protocol cause), { reader with failed := true })
    | .ok none =>
        if !reader.ended then (.waiting, reader)
        else if reader.buffer = [] then (.finished, reader)
        else (.failed bytesRemaining, { reader with failed := true })

theorem next_of_failed {reader : FrameReader} (failed : reader.failed = true) :
    reader.next = (.finished, reader) :=
  if_pos failed

/-- How many readings can still yield something. -/
def measure (reader : FrameReader) : Nat :=
  reader.buffer.length + (!reader.failed).toNat

/-- Every reading that yields a frame or a failure uses something up. -/
theorem measure_next {reader : FrameReader}
    (yields : reader.next.1 ≠ .waiting ∧ reader.next.1 ≠ .finished) :
    reader.next.2.measure < reader.measure := by
  obtain ⟨limit, buffer, ended, failed⟩ := reader
  cases failed with
  | true => simp [next] at yields
  | false =>
      cases read : Frame.next? limit buffer with
      | error cause => simp [next, read, measure]
      | ok found =>
          cases found with
          | some pair =>
              have shorter := Frame.length_of_next? read
              simp only [next, read, measure, Bool.false_eq_true, if_false]
              omega
          | none =>
              by_cases atEnd : ended = true ∧ buffer ≠ []
              · simp [next, read, measure, atEnd]
              · cases ended with
                | false => simp [next, read] at yields
                | true =>
                    have isEmpty : buffer = [] := by simpa using atEnd
                    subst isEmpty
                    simp [next, read] at yields

/-- All readings until more octets are needed or nothing more will come. -/
def readAll (reader : FrameReader) : List Reading × FrameReader :=
  if yields : reader.next.1 ≠ .waiting ∧ reader.next.1 ≠ .finished then
    have := measure_next yields
    let (later, reader') := readAll reader.next.2
    (reader.next.1 :: later, reader')
  else ([], reader)
termination_by reader.measure

end FrameReader

end RespServer
