import RespServer.Frame.Stream
import RespServer.Proofs.Steady

/-!
Contract: where a stream is cut does not matter.

Owns:
- what a harvest becomes when more octets follow;
- the outcome of a stream received in chunks, up to its first failure;
- that the outcome is that of the whole stream, however it was cut.

Does not own: the steadiness of a single reading (`Proofs.Steady`).

A buffer is read from its front again with every chunk. That this is sound rests on two facts: a
reading that was complete stays the same, and one that was not takes nothing out of the buffer.
-/

namespace RespServer.Frame

variable {limit : Nat} {buffer unread : Bytes} {frame : Frame} {failure : DecodingError}

/-! ## One reading -/

theorem decode?_append (decoded : decode? buffer = .ok (frame, unread)) (more : Bytes) :
    decode? (buffer ++ more) = .ok (frame, unread ++ more) := by
  have complete : decode? buffer ≠ .error .incomplete := by simp [decoded]
  rw [(FrontReader.steadyAt_decode? buffer).persists complete, decoded]
  rfl

theorem decode?_append_of_failed (failed : decode? buffer = .error failure)
    (final : failure ≠ .incomplete) (more : Bytes) : decode? (buffer ++ more) = .error failure := by
  have complete : decode? buffer ≠ .error .incomplete := by simpa [failed] using final
  rw [(FrontReader.steadyAt_decode? buffer).persists complete, failed]
  rfl

/-- Part of a frame is not read as something else. -/
theorem decode?_of_cut {front back : Bytes}
    (decoded : decode? (front ++ back ++ unread) = .ok (frame, unread)) (cut : back ≠ []) :
    decode? front = .error .incomplete := by
  cases readFront : decode? front with
  | error failure =>
      by_cases final : failure = .incomplete
      · rw [final]
      · have failed := decode?_append_of_failed readFront final (back ++ unread)
        rw [← List.append_assoc, decoded] at failed
        cases failed
  | ok pair =>
      -- A frame read from the front alone would leave the back unread as well.
      obtain ⟨other, left⟩ := pair
      have extended := decode?_append readFront (back ++ unread)
      rw [← List.append_assoc, decoded] at extended
      have lengths := congrArg (List.length ∘ Prod.snd) (Except.ok.inj extended)
      have positive := List.length_pos_iff.mpr cut
      simp only [Function.comp_apply, List.length_append] at lengths
      omega

/-! ## The next frame of a buffer -/

theorem next?_of_decode? (decoded : decode? buffer = .ok (frame, unread)) :
    next? limit buffer = .ok (some (frame, unread)) := by
  have notEmpty : buffer ≠ [] := by
    rintro rfl
    rw [FrontReader.decode?_nil] at decoded
    cases decoded
  rw [next?, if_neg notEmpty, decoded]

theorem next?_of_failed (failed : decode? buffer = .error failure) (final : failure ≠ .incomplete) :
    next? limit buffer = .error failure := by
  have notEmpty : buffer ≠ [] := by
    rintro rfl
    rw [FrontReader.decode?_nil] at failed
    cases failed
    exact final rfl
  rw [next?, if_neg notEmpty, failed]
  cases failure with
  | incomplete => exact absurd rfl final
  | unknownType | unsupportedType | malformed => rfl

theorem next?_of_incomplete (lacking : decode? buffer = .error .incomplete)
    (within : buffer.length ≤ limit) : next? limit buffer = .ok none := by
  rw [next?, lacking]
  split
  · rfl
  · exact if_neg (Nat.not_lt.mpr within)

theorem next?_of_overLimit (lacking : decode? buffer = .error .incomplete)
    (beyond : limit < buffer.length) : next? limit buffer = .error overLimit := by
  have notEmpty : buffer ≠ [] := List.length_pos_iff.mp (Nat.zero_lt_of_lt beyond)
  rw [next?, if_neg notEmpty, lacking]
  exact if_pos beyond

theorem decode?_of_next? (read : next? limit buffer = .ok (some (frame, unread))) :
    decode? buffer = .ok (frame, unread) := by
  unfold next? at read
  split at read
  · cases read
  · split at read
    · rename_i decoded
      cases read
      exact decoded
    · split at read <;> cases read
    · cases read

/-- A frame that was read is read as well if more octets wait behind it. -/
theorem next?_append (read : next? limit buffer = .ok (some (frame, unread))) (more : Bytes) :
    next? limit (buffer ++ more) = .ok (some (frame, unread ++ more)) :=
  next?_of_decode? (decode?_append (decode?_of_next? read) more)

/-! ## All frames of a buffer -/

/-- A harvest is one reading and the harvest of what it leaves. -/
theorem harvest_eq (limit : Nat) (buffer : Bytes) :
    harvest limit buffer =
      match next? limit buffer with
      | .error failure => ⟨[], some failure, buffer⟩
      | .ok none => ⟨[], none, buffer⟩
      | .ok (some (frame, unread)) =>
          { harvest limit unread with frames := frame :: (harvest limit unread).frames } := by
  rw [harvest]
  split
  all_goals
    rename_i read
    simp only [read]

theorem harvest_of_decode? (decoded : decode? buffer = .ok (frame, unread)) :
    harvest limit buffer =
      { harvest limit unread with frames := frame :: (harvest limit unread).frames } := by
  rw [harvest_eq, next?_of_decode? decoded]

theorem harvest_of_failed (failed : decode? buffer = .error failure)
    (final : failure ≠ .incomplete) : harvest limit buffer = ⟨[], some failure, buffer⟩ := by
  rw [harvest_eq, next?_of_failed failed final]

theorem harvest_of_incomplete (lacking : decode? buffer = .error .incomplete)
    (within : buffer.length ≤ limit) : harvest limit buffer = ⟨[], none, buffer⟩ := by
  rw [harvest_eq, next?_of_incomplete lacking within]

theorem harvest_of_overLimit (lacking : decode? buffer = .error .incomplete)
    (beyond : limit < buffer.length) : harvest limit buffer = ⟨[], some overLimit, buffer⟩ := by
  rw [harvest_eq, next?_of_overLimit lacking beyond]

/-- The ways in which the reading of a buffer within the limit begins. Proofs about a harvest go
by this induction: the frame first, what is behind it by the induction hypothesis. -/
theorem harvest_induction {motive : Bytes → Prop}
    (frame : ∀ {buffer unread : Bytes} {frame : Frame},
      decode? buffer = .ok (frame, unread) → motive unread → motive buffer)
    (failed : ∀ {buffer : Bytes} {failure : DecodingError},
      decode? buffer = .error failure → failure ≠ .incomplete → motive buffer)
    (incomplete : ∀ {buffer : Bytes}, decode? buffer = .error .incomplete → motive buffer)
    (buffer : Bytes) : motive buffer := by
  induction bound : buffer.length using Nat.strongRecOn generalizing buffer with
  | ind length inductionHypothesis =>
      cases decoded : decode? buffer with
      | error failure =>
          by_cases lacking : failure = .incomplete
          · exact incomplete (lacking ▸ decoded)
          · exact failed decoded lacking
      | ok pair =>
          obtain ⟨first, unread⟩ := pair
          have shorter := length_of_decode? decoded
          exact frame decoded (inductionHypothesis unread.length (bound ▸ shorter) unread rfl)

theorem length_of_harvest (within : buffer.length ≤ limit) :
    (harvest limit buffer).buffer.length ≤ buffer.length := by
  induction buffer using harvest_induction with
  | frame decoded inductionHypothesis =>
      have shorter := length_of_decode? decoded
      rw [harvest_of_decode? decoded]
      have later := inductionHypothesis (by omega)
      dsimp only
      omega
  | failed failed final => exact Nat.le_of_eq (by rw [harvest_of_failed failed final])
  | incomplete lacking => exact Nat.le_of_eq (by rw [harvest_of_incomplete lacking within])

/-- What is left without a failure holds no frame. -/
theorem harvest_buffer (within : buffer.length ≤ limit)
    (unfailed : (harvest limit buffer).failure = none) :
    harvest limit (harvest limit buffer).buffer = ⟨[], none, (harvest limit buffer).buffer⟩ := by
  induction buffer using harvest_induction with
  | frame decoded inductionHypothesis =>
      have shorter := length_of_decode? decoded
      rw [harvest_of_decode? decoded] at unfailed ⊢
      exact inductionHypothesis (by omega) unfailed
  | failed failed final =>
      rw [harvest_of_failed failed final] at unfailed
      cases unfailed
  | incomplete lacking =>
      rw [harvest_of_incomplete lacking within, harvest_of_incomplete lacking within]

/-- After a failure, more octets change nothing. -/
theorem harvest_append_of_failed {more : Bytes} (within : (buffer ++ more).length ≤ limit)
    (failed : (harvest limit buffer).failure = some failure) :
    (harvest limit (buffer ++ more)).frames = (harvest limit buffer).frames ∧
      (harvest limit (buffer ++ more)).failure = some failure := by
  rw [List.length_append] at within
  induction buffer using harvest_induction with
  | frame decoded inductionHypothesis =>
      have shorter := length_of_decode? decoded
      rw [harvest_of_decode? decoded] at failed
      obtain ⟨sameFrames, sameFailure⟩ := inductionHypothesis (by omega) failed
      rw [harvest_of_decode? decoded, harvest_of_decode? (decode?_append decoded more)]
      exact ⟨congrArg (List.cons _) sameFrames, sameFailure⟩
  | failed decodedFailed final =>
      rw [harvest_of_failed decodedFailed final] at failed ⊢
      rw [harvest_of_failed (decode?_append_of_failed decodedFailed final more) final]
      exact ⟨rfl, failed⟩
  | incomplete lacking =>
      rw [harvest_of_incomplete lacking (by omega)] at failed
      cases failed

/-- Without a failure, reading goes on from what is left. -/
theorem harvest_append {more : Bytes} (within : (buffer ++ more).length ≤ limit)
    (unfailed : (harvest limit buffer).failure = none) :
    harvest limit (buffer ++ more) =
      { harvest limit ((harvest limit buffer).buffer ++ more) with
        frames := (harvest limit buffer).frames ++
          (harvest limit ((harvest limit buffer).buffer ++ more)).frames } := by
  rw [List.length_append] at within
  induction buffer using harvest_induction with
  | frame decoded inductionHypothesis =>
      have shorter := length_of_decode? decoded
      rw [harvest_of_decode? decoded] at unfailed ⊢
      rw [harvest_of_decode? (decode?_append decoded more),
        inductionHypothesis (by omega) unfailed]
      rfl
  | failed decodedFailed final =>
      rw [harvest_of_failed decodedFailed final] at unfailed
      cases unfailed
  | incomplete lacking =>
      rw [harvest_of_incomplete lacking (by omega)]
      rfl

/-! ## Streams -/

/-- What a harvest yields: its frames, and behind them the failure or the octets that are left. -/
def Harvest.outcome (harvest : Harvest) : List Frame × Except DecodingError Bytes :=
  (harvest.frames, harvest.failure.elim (.ok harvest.buffer) .error)

/-- What the harvests of a stream yield one after the other, up to the first failure; `buffer` is
what was left before the first of them. -/
def outcomeOf (buffer : Bytes) : List Harvest → List Frame × Except DecodingError Bytes
  | [] => ([], .ok buffer)
  | first :: later =>
      match first.failure with
      | some failure => (first.frames, .error failure)
      | none =>
          let behind := outcomeOf first.buffer later
          (first.frames ++ behind.1, behind.2)

theorem outcomeOf_receiveEach {chunks : List Bytes}
    (within : (buffer ++ chunks.flatten).length ≤ limit)
    (idle : harvest limit buffer = ⟨[], none, buffer⟩) :
    outcomeOf buffer (receiveEach limit buffer chunks) =
      (harvest limit (buffer ++ chunks.flatten)).outcome := by
  induction chunks generalizing buffer with
  | nil =>
      rw [List.flatten_nil, List.append_nil, idle]
      rfl
  | cons chunk rest inductionHypothesis =>
      rw [List.flatten_cons, ← List.append_assoc] at within ⊢
      have withinChunk : (buffer ++ chunk).length ≤ limit := by
        rw [List.length_append] at within
        omega
      rw [receiveEach, outcomeOf]
      cases failed : (receive limit buffer chunk).failure with
      | some failure =>
          obtain ⟨sameFrames, sameFailure⟩ := harvest_append_of_failed within failed
          rw [Harvest.outcome, sameFrames, sameFailure]
          rfl
      | none =>
          have left := length_of_harvest withinChunk
          have withinLeft :
              ((harvest limit (buffer ++ chunk)).buffer ++ rest.flatten).length ≤ limit := by
            rw [List.length_append] at within ⊢
            omega
          have behind := inductionHypothesis withinLeft (harvest_buffer withinChunk failed)
          rw [harvest_append within failed]
          dsimp only [receive]
          rw [behind]
          rfl

/-- A frame takes at least three octets and is read from exactly those, whatever follows; no part
of them is read as anything; and a failure that is not a lack of octets is final. So two cuttings
of a stream into chunks yield the same frames, then the same failure or the same octets left. -/
theorem decoding_independent_of_chunks :
    (∀ (data unread : Bytes) (frame : Frame), decode? data = .ok (frame, unread) →
      ∃ used, data = used ++ unread ∧ 3 ≤ used.length ∧ used.length ≤ data.length ∧
        (∀ more, decode? (data ++ more) = .ok (frame, unread ++ more)) ∧
        ∀ front, front <+: used → front ≠ used → decode? front = .error .incomplete) ∧
    (∀ (data : Bytes) (failure : DecodingError), decode? data = .error failure →
      failure ≠ .incomplete → ∀ more, decode? (data ++ more) = .error failure) ∧
    (∀ (limit : Nat) (first second : List Bytes), first.flatten = second.flatten →
      first.flatten.length ≤ limit →
      outcomeOf [] (receiveEach limit [] first) = outcomeOf [] (receiveEach limit [] second)) := by
  refine ⟨?_, ?_, ?_⟩
  · intro data unread frame decoded
    obtain ⟨used, split, atLeast⟩ := (FrontReader.steadyAt_decode? data).leaves decoded
    refine ⟨used, split, atLeast, ?_, decode?_append decoded, ?_⟩
    · rw [split, List.length_append]
      exact Nat.le_add_right _ _
    · rintro front ⟨back, rfl⟩ proper
      have whole : decode? (front ++ back ++ unread) = .ok (frame, unread) := split ▸ decoded
      apply decode?_of_cut whole
      rintro rfl
      exact proper (List.append_nil front).symm
  · intro data failure failed final more
    exact decode?_append_of_failed failed final more
  · intro limit first second sameStream within
    have idle : harvest limit [] = ⟨[], none, []⟩ :=
      harvest_of_incomplete FrontReader.decode?_nil (Nat.zero_le limit)
    have received : ∀ chunks : List Bytes, chunks.flatten.length ≤ limit →
        outcomeOf [] (receiveEach limit [] chunks) = (harvest limit chunks.flatten).outcome :=
      fun _ short => outcomeOf_receiveEach short idle
    rw [received first within, received second (sameStream ▸ within), sameStream]

/-- An array that was cut inside its first and its last line end, and behind it an octet that
marks no type. -/
theorem array_cut_inside_line_ends :
    decode? [42, 49, 13, 10, 58, 53, 13, 10, 63] = .ok (.array [.integer 5], [63]) ∧
      decode? [42, 49, 13, 10, 58, 53, 13] = .error .incomplete ∧
      decode? [63] = .error (.unknownType 63) ∧ decode? [63, 43] = .error (.unknownType 63) ∧
      outcomeOf [] (receiveEach 9 [] [[42, 49, 13], [10, 58, 53, 13], [10, 63]]) =
        outcomeOf [] (receiveEach 9 [] [[42, 49, 13, 10, 58, 53, 13, 10, 63]]) := by
  obtain ⟨reading, failing, cutting⟩ := decoding_independent_of_chunks
  have whole : decode? [42, 49, 13, 10, 58, 53, 13, 10, 63] = .ok (.array [.integer 5], [63]) := by
    cbv
  have refused : decode? [63] = .error (.unknownType 63) := by cbv
  refine ⟨whole, ?_, refused, failing [63] _ refused (by decide) [43],
    cutting 9 _ _ rfl (by decide)⟩
  obtain ⟨used, split, -, -, -, cut⟩ := reading _ _ _ whole
  have usedAll : [42, 49, 13, 10, 58, 53, 13, 10] = used :=
    (List.append_left_inj [63]).mp split
  subst usedAll
  exact cut _ (by decide) (by decide)

end RespServer.Frame
