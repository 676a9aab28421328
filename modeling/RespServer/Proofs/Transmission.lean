import RespServer.Proofs.RoundTrip
import RespServer.Server.Transport

/-!
Contract: frames from one end of a connection to the other.

Owns:
- `readAll` in terms of the harvest of the buffer, and the failure that ends it;
- that frames are sent in the order of their writing, by the one sending half;
- what a peer reads of the frames that are sent.

Does not own: what a harvest holds (`Proofs.Chunking`), and what is done with the frames
(`Proofs.ReadingLoop`).
-/

namespace RespServer

namespace FrameReader

/-! ## All readings -/

/-- The failure behind the frames: one of the octets, or that some are left at the end. -/
def lastFailure? (ended : Bool) (harvest : Frame.Harvest) : Option Failure :=
  match harvest.failure with
  | some cause => some (.protocol cause)
  | none => if ended && harvest.buffer ≠ [] then some bytesRemaining else none

/-- The readings that a harvest is, and the reader behind them. -/
def readingsOf (reader : FrameReader) (harvest : Frame.Harvest) : List Reading × FrameReader :=
  (harvest.frames.map .frame ++ (lastFailure? reader.ended harvest).toList.map .failed,
    { reader with
      buffer := harvest.buffer
      failed := (lastFailure? reader.ended harvest).isSome })

/-- The readings are those of the first, and then those of what it leaves. -/
theorem readAll_cons {reader next : FrameReader} {reading : Reading}
    (read : reader.next = (reading, next)) (yields : reading ≠ .waiting ∧ reading ≠ .finished) :
    reader.readAll = (reading :: next.readAll.1, next.readAll.2) := by
  have progress : reader.next.1 ≠ .waiting ∧ reader.next.1 ≠ .finished := by
    rw [read]
    exact yields
  rw [readAll, dif_pos progress]
  dsimp only
  rw [read]

theorem readAll_nil {reader next : FrameReader} {reading : Reading}
    (read : reader.next = (reading, next)) (rests : reading = .waiting ∨ reading = .finished) :
    reader.readAll = ([], reader) := by
  have idle : ¬(reader.next.1 ≠ .waiting ∧ reader.next.1 ≠ .finished) := by
    rw [read]
    rintro ⟨notWaiting, notFinished⟩
    exact rests.elim notWaiting notFinished
  rw [readAll, dif_neg idle]

/-- A failure is the last reading. -/
theorem readAll_of_failure {reader : FrameReader} {cause : Failure}
    (read : reader.next = (.failed cause, { reader with failed := true })) :
    reader.readAll = ([.failed cause], { reader with failed := true }) := by
  have last : ({ reader with failed := true } : FrameReader).readAll =
      ([], { reader with failed := true }) := readAll_nil (next_of_failed rfl) (Or.inr rfl)
  rw [readAll_cons read ⟨nofun, nofun⟩, last]

theorem next_of_frame {reader : FrameReader} (unfailed : reader.failed = false) {frame : Frame}
    {unread : Bytes}
    (read : Frame.next? reader.limit reader.buffer = .ok (some (frame, unread))) :
    reader.next = (.frame frame, { reader with buffer := unread }) := by
  rw [next, unfailed, if_neg Bool.false_ne_true, read]

theorem next_of_error {reader : FrameReader} (unfailed : reader.failed = false)
    {cause : DecodingError} (read : Frame.next? reader.limit reader.buffer = .error cause) :
    reader.next = (.failed (.protocol cause), { reader with failed := true }) := by
  rw [next, unfailed, if_neg Bool.false_ne_true, read]

/-- No frame comes out of the buffer: more octets are needed, or none will come. -/
theorem readAll_of_none {reader : FrameReader} (unfailed : reader.failed = false)
    (read : Frame.next? reader.limit reader.buffer = .ok none) :
    reader.readAll = reader.readingsOf ⟨[], none, reader.buffer⟩ := by
  obtain ⟨limit, buffer, ended, failed⟩ := reader
  cases unfailed
  have step : next ⟨limit, buffer, ended, false⟩ =
      if !ended then (.waiting, ⟨limit, buffer, ended, false⟩)
      else if buffer = [] then (.finished, ⟨limit, buffer, ended, false⟩)
      else (.failed bytesRemaining, ⟨limit, buffer, ended, true⟩) := by
    rw [next, if_neg Bool.false_ne_true, read]
  cases ended with
  | false => exact readAll_nil step (Or.inl rfl)
  | true =>
      by_cases empty : buffer = []
      · subst empty
        exact readAll_nil step (Or.inr rfl)
      · rw [Bool.not_true, if_neg Bool.false_ne_true, if_neg empty] at step
        rw [readAll_of_failure step, readingsOf, lastFailure?]
        simp [empty]

/-- All readings are the frames of the buffer, and behind them at most one failure. -/
theorem readAll_eq {reader : FrameReader} (unfailed : reader.failed = false) :
    reader.readAll = reader.readingsOf (Frame.harvest reader.limit reader.buffer) := by
  induction length : reader.buffer.length using Nat.strongRecOn generalizing reader with
  | _ count inductionHypothesis =>
      subst length
      rw [Frame.harvest_eq]
      rcases read : Frame.next? reader.limit reader.buffer with cause | _ | ⟨frame, unread⟩
      · exact readAll_of_failure (next_of_error unfailed read)
      · exact readAll_of_none unfailed read
      · have later := @inductionHypothesis unread.length (Frame.length_of_next? read)
          { reader with buffer := unread } unfailed rfl
        rw [readAll_cons (next_of_frame unfailed read) ⟨nofun, nofun⟩, later]
        rfl

/-- At the end of the stream there is no failure only if all octets were read as frames. -/
theorem lastFailure?_ended_iff {harvest : Frame.Harvest} :
    lastFailure? true harvest = none ↔ harvest.failure = none ∧ harvest.buffer = [] := by
  unfold lastFailure?
  cases harvest.failure <;> simp

/-- The readings are frames alone if no failure ends them. -/
theorem readingsOf_eq_frames_iff {reader : FrameReader} {harvest : Frame.Harvest}
    {frames : List Frame} :
    (reader.readingsOf harvest).1 = frames.map .frame ↔
      harvest.frames = frames ∧ lastFailure? reader.ended harvest = none := by
  unfold readingsOf
  cases last : lastFailure? reader.ended harvest with
  | none =>
      have injective : ∀ first second, Reading.frame first = .frame second → first = second :=
        fun _ _ => Reading.frame.inj
      simp [List.map_inj_right injective]
  | some cause =>
      refine ⟨fun same => ?_, fun both => nomatch both.2⟩
      have found : Reading.failed cause ∈ frames.map .frame := by
        rw [← same]
        simp
      obtain ⟨frame, -, wrong⟩ := List.mem_map.mp found
      cases wrong

end FrameReader

namespace Transport

/-! ## Sending -/

/-- The sending half is handed out once, and the receiving half stays as it is. -/
theorem startWriter?_eq_some_iff {transport started : Transport} :
    transport.startWriter? = some started ↔
      transport.writing = false ∧ started = { transport with writing := true } := by
  unfold startWriter?
  cases transport.writing with
  | true => exact ⟨nofun, fun handed => nomatch handed.1⟩
  | false => exact (Option.some.injEq _ _).to_iff.trans (eq_comm.trans (and_iff_right rfl).symm)

/-- Frames that are written one after the other are sent in this order. -/
theorem writeFrames_writeFrames (transport : Transport) (first second : List Frame) :
    (transport.writeFrames first).writeFrames second = transport.writeFrames (first ++ second) := by
  rw [writeFrames, writeFrames, writeFrames, Frame.encodeEach_append, List.append_assoc]

/-- The peer of a connection over which frames were written, and nothing more will be. -/
def peer (limit : Nat) (transport : Transport) : FrameReader :=
  ((FrameReader.new limit).append transport.sent).finish

/-- A peer reads exactly the frames that were written, without a failure, if none of their lines
holds a line end, and only then. -/
theorem readAll_peer_iff (limit : Nat) (frames : List Frame) :
    (peer limit ((new limit).writeFrames frames)).readAll.1 = frames.map .frame ↔
      ∀ frame ∈ frames, frame.Recoverable := by
  have received : (peer limit ((new limit).writeFrames frames)).readAll =
      (peer limit ((new limit).writeFrames frames)).readingsOf
        (Frame.harvest limit (Frame.encodeEach frames)) := FrameReader.readAll_eq rfl
  have whole (harvest : Frame.Harvest) : harvest = ⟨frames, none, []⟩ ↔
      harvest.frames = frames ∧ harvest.failure = none ∧ harvest.buffer = [] := by
    cases harvest
    simp
  rw [received, FrameReader.readingsOf_eq_frames_iff, ← Frame.harvest_encodeEach_iff limit, whole]
  exact and_congr_right fun _ => FrameReader.lastFailure?_ended_iff

end Transport

end RespServer
