import RespServer.Frame.Decoding

/-!
Contract: frames out of a stream that arrives in chunks.

Owns:
- the limit on what is buffered without a whole frame;
- `Frame.next?`, one reading from the buffer;
- `Frame.harvest`, all readings that a buffer allows, and `Frame.receive`, which appends a chunk
  first.

Does not own: what happens after a failed reading; the buffer stays as it was.
-/

namespace RespServer.Frame

/-- The octets that are buffered for one request unless another limit is set: 512 MiB. -/
def defaultLimit : Nat :=
  512 * 1024 * 1024

/-- A buffer beyond the limit holds no whole frame. -/
def overLimit : DecodingError :=
  .malformed "frame size exceeds limit"

/-- Reads the next frame of a buffer: the frame and the remaining buffer, or nothing if the
buffer must grow first. A buffer that must grow is refused once it is longer than the limit. -/
def next? (limit : Nat) (buffer : Bytes) : Except DecodingError (Option (Frame × Bytes)) :=
  if buffer = [] then .ok none
  else match decode? buffer with
    | .ok (frame, unread) => .ok (some (frame, unread))
    | .error .incomplete => if limit < buffer.length then .error overLimit else .ok none
    | .error failure => .error failure

theorem length_of_next? {limit : Nat} {buffer unread : Bytes} {frame : Frame}
    (read : next? limit buffer = .ok (some (frame, unread))) : unread.length < buffer.length := by
  unfold next? at read
  split at read
  · cases read
  · split at read
    · rename_i decoded
      cases read
      exact length_of_decode? decoded
    · split at read <;> cases read
    · cases read

/-- What reading a buffer to its end yields. -/
structure Harvest where
  frames : List Frame
  /-- The failure that ended the reading, if any. -/
  failure : Option DecodingError
  buffer : Bytes
deriving DecidableEq

/-- Reads a buffer until nothing more comes out of it or a reading fails. -/
def harvest (limit : Nat) (buffer : Bytes) : Harvest :=
  match read : next? limit buffer with
  | .error failure => ⟨[], some failure, buffer⟩
  | .ok none => ⟨[], none, buffer⟩
  | .ok (some (frame, unread)) =>
      have := length_of_next? read
      let later := harvest limit unread
      { later with frames := frame :: later.frames }
termination_by buffer.length

/-- Appends a chunk to the buffer and reads it. -/
def receive (limit : Nat) (buffer chunk : Bytes) : Harvest :=
  harvest limit (buffer ++ chunk)

/-- Receives several chunks, each after what the one before it left. -/
def receiveEach (limit : Nat) : (buffer : Bytes) → (chunks : List Bytes) → List Harvest
  | _, [] => []
  | buffer, chunk :: rest =>
      let received := receive limit buffer chunk
      received :: receiveEach limit received.buffer rest

end RespServer.Frame
