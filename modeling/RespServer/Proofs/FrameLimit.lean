import RespServer.Proofs.Chunking

/-!
Contract: what the limit on buffered octets refuses.

Owns:
- the frames of a stream with the octets that they are read from, `Wire`;
- `Overrun`, that more of a frame than the limit was buffered before it was whole;
- that a stream in chunks yields the frames before the first that is overrun, and is refused there.

Does not own: streams within the limit, whose cutting does not matter (`Proofs.Chunking`).

The limit is looked at only while a frame is not yet whole, and against what is buffered of it. A
frame that is much longer than the limit is read where its last chunk is long, and a frame that is
one octet longer is never refused.
-/

namespace RespServer.Frame

/-! ## Frames with their octets -/

/-- A frame and the octets that it is read from. -/
structure Wire where
  frame : Frame
  octets : Bytes
  reads : decode? octets = .ok (frame, [])

def Wire.length (wire : Wire) : Nat :=
  wire.octets.length

/-- The octets of frames that follow each other. -/
def octetsOf (wires : List Wire) : Bytes :=
  (wires.map Wire.octets).flatten

theorem octetsOf_cons (wire : Wire) (rest : List Wire) :
    octetsOf (wire :: rest) = wire.octets ++ octetsOf rest :=
  rfl

theorem Wire.decode?_append (wire : Wire) (more : Bytes) :
    decode? (wire.octets ++ more) = .ok (wire.frame, more) :=
  Frame.decode?_append wire.reads more

/-- Part of a frame is nothing yet. -/
theorem Wire.decode?_part (wire : Wire) {part : Bytes} (begins : part <+: wire.octets)
    (shorter : part.length < wire.length) : decode? part = .error .incomplete := by
  obtain ⟨missing, filled⟩ := begins
  have whole : decode? (part ++ missing ++ []) = .ok (wire.frame, []) := by
    rw [List.append_nil, filled]
    exact wire.reads
  refine decode?_of_cut whole ?_
  rintro rfl
  rw [List.append_nil] at filled
  rw [filled] at shorter
  exact Nat.lt_irrefl _ shorter

/-- A frame is read from the octets that it takes, whatever follows them. -/
theorem exists_wire {octets unread : Bytes} {frame : Frame}
    (decoded : decode? octets = .ok (frame, unread)) :
    ∃ wire : Wire, wire.frame = frame ∧ octets = wire.octets ++ unread := by
  obtain ⟨used, split, alone⟩ := (FrontReader.steadyAt_decode? octets).alone decoded
  exact ⟨⟨frame, used, List.append_nil used ▸ alone []⟩, rfl, split⟩

/-- Every stream consists of frames and a rest that begins with none. -/
theorem exists_wires (octets : Bytes) :
    ∃ wires rest failure, octets = octetsOf wires ++ rest ∧ decode? rest = .error failure := by
  induction octets using harvest_induction with
  | frame decoded inductionHypothesis =>
      obtain ⟨wire, -, split⟩ := exists_wire decoded
      obtain ⟨wires, rest, failure, behind, ends⟩ := inductionHypothesis
      refine ⟨wire :: wires, rest, failure, ?_, ends⟩
      rw [octetsOf_cons, List.append_assoc, ← behind]
      exact split
  | failed failed _ => exact ⟨[], _, _, rfl, failed⟩
  | incomplete lacking => exact ⟨[], _, _, rfl, lacking⟩

/-! ## What has arrived -/

/-- How many octets have arrived after each chunk, where some had arrived before. -/
def arrivals (before : Nat) : List Bytes → List Nat
  | [] => []
  | chunk :: rest => (before + chunk.length) :: arrivals (before + chunk.length) rest

theorem arrivals_add (shift before : Nat) (chunks : List Bytes) :
    arrivals (shift + before) chunks = (arrivals before chunks).map (shift + ·) := by
  induction chunks generalizing before with
  | nil => rfl
  | cons chunk rest inductionHypothesis =>
      rw [arrivals, arrivals, Nat.add_assoc, inductionHypothesis]
      rfl

/-- Of a frame that begins behind `start` octets, more than the limit had arrived at some time, but
not all of it. -/
def Overrun (limit : Nat) (arrived : List Nat) (start length : Nat) : Prop :=
  ∃ count ∈ arrived, start + limit < count ∧ count < start + length

instance (limit : Nat) (arrived : List Nat) (start length : Nat) :
    Decidable (Overrun limit arrived start length) :=
  inferInstanceAs (Decidable (∃ count ∈ arrived, start + limit < count ∧ count < start + length))

theorem not_overrun_of_length {limit length : Nat} (short : length ≤ limit + 1)
    (arrived : List Nat) (start : Nat) : ¬Overrun limit arrived start length := by
  rintro ⟨count, -, beyond, lacking⟩
  omega

/-- The octets of frames that are done need not be counted. -/
theorem overrun_add_iff {limit shift start length : Nat} {arrived : List Nat} :
    Overrun limit (arrived.map (shift + ·)) (shift + start) length ↔
      Overrun limit arrived start length := by
  constructor
  · rintro ⟨count, listed, beyond, lacking⟩
    obtain ⟨other, member, rfl⟩ := List.mem_map.mp listed
    exact ⟨other, member, by omega, by omega⟩
  · rintro ⟨count, member, beyond, lacking⟩
    exact ⟨shift + count, List.mem_map_of_mem member, by omega, by omega⟩

/-- Octets within the limit overrun no frame that begins then or later. -/
theorem overrun_cons_iff {limit start length count : Nat} {arrived : List Nat}
    (within : count ≤ start + limit) :
    Overrun limit (count :: arrived) start length ↔ Overrun limit arrived start length := by
  constructor
  · rintro ⟨other, listed, beyond, lacking⟩
    rcases List.mem_cons.mp listed with rfl | later
    · omega
    · exact ⟨other, later, beyond, lacking⟩
  · rintro ⟨other, later, beyond, lacking⟩
    exact ⟨other, List.mem_cons_of_mem _ later, beyond, lacking⟩

theorem le_of_mem_arrivals {before count : Nat} {chunks : List Bytes}
    (listed : count ∈ arrivals before chunks) : before ≤ count := by
  induction chunks generalizing before with
  | nil => cases listed
  | cons chunk rest inductionHypothesis =>
      rcases List.mem_cons.mp listed with rfl | later
      · exact Nat.le_add_right _ _
      · exact Nat.le_trans (Nat.le_add_right _ _) (inductionHypothesis later)

/-! ## One chunk -/

/-- What a stream yields that arrives in chunks: its frames, and behind them the failure or the
octets that are left. -/
def received (limit : Nat) (chunks : List Bytes) : List Frame × Except DecodingError Bytes :=
  outcomeOf [] (receiveEach limit [] chunks)

section Chunk

variable {limit : Nat} {buffer chunk : Bytes} {rest : List Bytes}

theorem outcomeOf_of_beyond (lacking : decode? (buffer ++ chunk) = .error .incomplete)
    (beyond : limit < (buffer ++ chunk).length) :
    outcomeOf buffer (receiveEach limit buffer (chunk :: rest)) = ([], .error overLimit) := by
  rw [receiveEach, receive, harvest_of_overLimit lacking beyond, outcomeOf]

theorem outcomeOf_of_within (lacking : decode? (buffer ++ chunk) = .error .incomplete)
    (within : (buffer ++ chunk).length ≤ limit) :
    outcomeOf buffer (receiveEach limit buffer (chunk :: rest)) =
      outcomeOf (buffer ++ chunk) (receiveEach limit (buffer ++ chunk) rest) := by
  rw [receiveEach, receive, harvest_of_incomplete lacking within, outcomeOf]
  rfl

/-- Where a frame is whole, what follows it is received as if it had come alone. -/
theorem outcomeOf_of_whole {frame : Frame} {unread : Bytes}
    (decoded : decode? (buffer ++ chunk) = .ok (frame, unread)) :
    outcomeOf buffer (receiveEach limit buffer (chunk :: rest)) =
      (frame :: (received limit (unread :: rest)).1, (received limit (unread :: rest)).2) := by
  rw [received, receiveEach, receiveEach, receive, receive, harvest_of_decode? decoded,
    List.nil_append, outcomeOf, outcomeOf]
  dsimp only
  cases (harvest limit unread).failure <;> rfl

end Chunk

/-! ## One frame -/

/-- A frame that is overrun is refused. Any other comes out, and what follows it is then received
as a stream of its own, whose frames are overrun as they were before. -/
theorem outcomeOf_first {limit : Nat} (wire : Wire) {buffer tail : Bytes} {chunks : List Bytes}
    (split : buffer ++ chunks.flatten = wire.octets ++ tail) (part : buffer.length < wire.length) :
    (Overrun limit (arrivals buffer.length chunks) 0 wire.length →
        outcomeOf buffer (receiveEach limit buffer chunks) = ([], .error overLimit))
      ∧ (¬Overrun limit (arrivals buffer.length chunks) 0 wire.length →
        ∃ later : List Bytes, later.flatten = tail
          ∧ outcomeOf buffer (receiveEach limit buffer chunks) =
              (wire.frame :: (received limit later).1, (received limit later).2)
          ∧ ∀ start length,
              Overrun limit (arrivals buffer.length chunks) (wire.length + start) length ↔
                Overrun limit (arrivals 0 later) start length) := by
  -- Up to the chunk that completes the frame, the buffer is a part of it, and only grows.
  induction chunks generalizing buffer with
  | nil =>
      have lengths := congrArg List.length split
      simp only [List.flatten_nil, List.append_nil, List.length_append] at lengths
      rw [Wire.length] at part
      omega
  | cons chunk rest inductionHypothesis =>
      rw [List.flatten_cons, ← List.append_assoc] at split
      have counted : (buffer ++ chunk).length = buffer.length + chunk.length := List.length_append
      rw [arrivals, ← counted]
      by_cases whole : wire.length ≤ (buffer ++ chunk).length
      · obtain ⟨unread, filled⟩ : wire.octets <+: buffer ++ chunk :=
          List.prefix_of_prefix_length_le ⟨tail, rfl⟩ ⟨rest.flatten, split⟩ whole
        have behind : unread ++ rest.flatten = tail := by
          rw [← filled, List.append_assoc] at split
          exact List.append_cancel_left split
        have decoded := wire.decode?_append unread
        rw [filled] at decoded
        have sameArrivals : (buffer ++ chunk).length :: arrivals (buffer ++ chunk).length rest =
            (arrivals 0 (unread :: rest)).map (wire.length + ·) := by
          rw [← arrivals_add, arrivals, ← filled, List.length_append]
          rfl
        refine ⟨?_, fun _ => ⟨unread :: rest, behind, outcomeOf_of_whole decoded, ?_⟩⟩
        · rintro ⟨count, listed, -, lacking⟩
          rcases List.mem_cons.mp listed with rfl | later
          · omega
          · have arrivedThen := le_of_mem_arrivals later
            omega
        · intro start length
          rw [sameArrivals, overrun_add_iff]
      · have shorter : (buffer ++ chunk).length < wire.length := Nat.lt_of_not_le whole
        have begins : buffer ++ chunk <+: wire.octets :=
          List.prefix_of_prefix_length_le ⟨rest.flatten, split⟩ ⟨tail, rfl⟩ (Nat.le_of_lt shorter)
        have lacking := wire.decode?_part begins shorter
        by_cases beyond : limit < (buffer ++ chunk).length
        · refine ⟨fun _ => outcomeOf_of_beyond lacking beyond, fun unharmed => ?_⟩
          refine absurd ⟨(buffer ++ chunk).length, List.mem_cons_self, ?_, ?_⟩ unharmed <;> omega
        · have within := Nat.le_of_not_lt beyond
          obtain ⟨refused, passed⟩ := inductionHypothesis split shorter
          rw [overrun_cons_iff (Nat.le_add_left_of_le within), outcomeOf_of_within lacking within]
          refine ⟨refused, fun unharmed => ?_⟩
          obtain ⟨later, cut, outcome, shifted⟩ := passed unharmed
          refine ⟨later, cut, outcome, fun start length => ?_⟩
          rw [overrun_cons_iff (Nat.le_add_left_of_le within)]
          exact shifted start length

/-! ## Streams -/

theorem Wire.length_pos (wire : Wire) : 0 < wire.length := by
  refine List.length_pos_iff.mpr fun nothing => ?_
  have reads := wire.reads
  rw [nothing, FrontReader.decode?_nil] at reads
  cases reads

/-- The frames before the first that is overrun. -/
def accepted (limit : Nat) (arrived : List Nat) (start : Nat) : List Wire → List Wire
  | [] => []
  | wire :: rest =>
      if Overrun limit arrived start wire.length then []
      else wire :: accepted limit arrived (start + wire.length) rest

theorem accepted_congr {limit shift : Nat} {arrived later : List Nat}
    (same : ∀ start length,
      Overrun limit arrived (shift + start) length ↔ Overrun limit later start length)
    (start : Nat) (wires : List Wire) :
    accepted limit arrived (shift + start) wires = accepted limit later start wires := by
  induction wires generalizing start with
  | nil => rfl
  | cons wire rest inductionHypothesis =>
      rw [accepted, accepted, Nat.add_assoc, inductionHypothesis]
      simp only [same]

theorem accepted_of_length {limit : Nat} {wires : List Wire}
    (short : ∀ wire ∈ wires, wire.length ≤ limit + 1) (arrived : List Nat) (start : Nat) :
    accepted limit arrived start wires = wires := by
  induction wires generalizing start with
  | nil => rfl
  | cons wire rest inductionHypothesis =>
      obtain ⟨first, others⟩ := List.forall_mem_cons.mp short
      rw [accepted, if_neg (not_overrun_of_length first arrived start),
        inductionHypothesis others]

/-- A stream yields its frames up to the first that is overrun, and is refused there. If none is,
what follows the frames is received as a stream of its own. -/
theorem received_accepted {limit : Nat} {wires : List Wire} {tail : Bytes} {chunks : List Bytes}
    (split : chunks.flatten = octetsOf wires ++ tail) :
    let kept := accepted limit (arrivals 0 chunks) 0 wires
    (kept ≠ wires → received limit chunks = (kept.map Wire.frame, .error overLimit))
      ∧ (kept = wires → ∃ later : List Bytes, later.flatten = tail
          ∧ received limit chunks =
              (wires.map Wire.frame ++ (received limit later).1, (received limit later).2)) := by
  intro kept
  induction wires generalizing chunks with
  | nil => exact ⟨fun other => absurd rfl other, fun _ => ⟨chunks, split, rfl⟩⟩
  | cons wire rest inductionHypothesis =>
      rw [octetsOf_cons, List.append_assoc] at split
      obtain ⟨refused, passed⟩ := @outcomeOf_first limit wire [] _ chunks split wire.length_pos
      by_cases overrun : Overrun limit (arrivals 0 chunks) 0 wire.length
      · have nothing : kept = [] := if_pos overrun
        rw [nothing]
        exact ⟨fun _ => refused overrun, nofun⟩
      · obtain ⟨later, cut, outcome, shifted⟩ := passed overrun
        have first : kept = wire :: accepted limit (arrivals 0 later) 0 rest := by
          rw [← accepted_congr shifted, Nat.add_comm]
          exact if_neg overrun
        obtain ⟨stopped, through⟩ := inductionHypothesis cut
        rw [first]
        refine ⟨fun other => ?_, fun all => ?_⟩
        · have behind := stopped fun same => other (congrArg _ same)
          rw [behind] at outcome
          exact outcome
        · obtain ⟨last, ends, behind⟩ := through (List.cons.inj all).2
          rw [behind] at outcome
          exact ⟨last, ends, outcome⟩

/-- A stream that begins with no frame yields none. -/
theorem frames_outcomeOf_of_failed {limit : Nat} {buffer : Bytes} {chunks : List Bytes}
    {failure : DecodingError} (failed : decode? (buffer ++ chunks.flatten) = .error failure) :
    (outcomeOf buffer (receiveEach limit buffer chunks)).1 = [] := by
  induction chunks generalizing buffer with
  | nil => rfl
  | cons chunk rest inductionHypothesis =>
      rw [List.flatten_cons, ← List.append_assoc] at failed
      cases decoded : decode? (buffer ++ chunk) with
      | ok pair =>
          have extended := decode?_append decoded rest.flatten
          rw [failed] at extended
          cases extended
      | error cause =>
          by_cases final : cause = .incomplete
          · subst final
            by_cases beyond : limit < (buffer ++ chunk).length
            · rw [outcomeOf_of_beyond decoded beyond]
            · rw [outcomeOf_of_within decoded (Nat.le_of_not_lt beyond)]
              exact inductionHypothesis failed
          · rw [receiveEach, receive, harvest_of_failed decoded final, outcomeOf]

theorem received_of_incomplete {limit : Nat} {chunks : List Bytes}
    (lacking : decode? chunks.flatten = .error .incomplete)
    (within : chunks.flatten.length ≤ limit) :
    received limit chunks = ([], .ok chunks.flatten) := by
  have idle : harvest limit [] = ⟨[], none, []⟩ :=
    harvest_of_incomplete FrontReader.decode?_nil (Nat.zero_le limit)
  rw [received, outcomeOf_receiveEach within idle, List.nil_append,
    harvest_of_incomplete lacking within]
  rfl

/-- No frame is too long to be read from one chunk. -/
theorem received_whole (limit : Nat) (wire : Wire) :
    received limit [wire.octets] = ([wire.frame], .ok []) := by
  have reads : decode? ([] ++ wire.octets) = .ok (wire.frame, []) := wire.reads
  have nothing : received limit [[]] = ([], .ok []) :=
    received_of_incomplete FrontReader.decode?_nil (Nat.zero_le limit)
  rw [received, outcomeOf_of_whole reads, nothing]

/-- A frame that is longer than the limit by two octets or more is refused where it is cut behind
one octet more than the limit. -/
theorem received_cut {limit : Nat} (wire : Wire) (long : limit + 1 < wire.length) :
    received limit [wire.octets.take (limit + 1), wire.octets.drop (limit + 1)] =
      ([], .error overLimit) := by
  have taken : (wire.octets.take (limit + 1)).length = limit + 1 :=
    List.length_take_of_le (Nat.le_of_lt long)
  have split : [] ++ [wire.octets.take (limit + 1), wire.octets.drop (limit + 1)].flatten =
      wire.octets ++ [] := by simp
  refine (outcomeOf_first wire split wire.length_pos).1 ⟨limit + 1, ?_, ?_, ?_⟩
  · rw [arrivals, taken]
    exact List.mem_cons.mpr (.inl (Nat.zero_add _).symm)
  · omega
  · omega

/-- Every stream consists of frames and a rest that begins with none. However it is cut, the frames
before the first that is overrun come out, and the stream is refused there. No frame is overrun
that is longer than the limit by one octet at most, so a stream of such frames is not refused. A
longer frame is accepted or refused as it is cut. -/
theorem yields_frames_before_overrun (limit : Nat) :
    (∀ octets, ∃ wires rest failure,
        octets = octetsOf wires ++ rest ∧ decode? rest = .error failure)
      ∧ (∀ (chunks : List Bytes) (wires : List Wire) (rest : Bytes) (failure : DecodingError),
          chunks.flatten = octetsOf wires ++ rest → decode? rest = .error failure →
          let kept := accepted limit (arrivals 0 chunks) 0 wires
          (received limit chunks).1 = kept.map Wire.frame
            ∧ (kept ≠ wires → (received limit chunks).2 = .error overLimit)
            ∧ ((∀ wire ∈ wires, wire.length ≤ limit + 1) → kept = wires
                ∧ (failure = .incomplete → rest.length ≤ limit →
                    (received limit chunks).2 = .ok rest)))
      ∧ ∀ wire : Wire, limit + 1 < wire.length →
          received limit [wire.octets] = ([wire.frame], .ok [])
            ∧ received limit [wire.octets.take (limit + 1), wire.octets.drop (limit + 1)] =
                ([], .error overLimit) := by
  refine ⟨exists_wires, ?_, fun wire long => ⟨received_whole limit wire, received_cut wire long⟩⟩
  intro chunks wires rest failure split ends kept
  obtain ⟨stopped, through⟩ := @received_accepted limit wires rest chunks split
  refine ⟨?_, fun other => congrArg Prod.snd (stopped other), fun short => ?_⟩
  · by_cases all : kept = wires
    · obtain ⟨later, cut, outcome⟩ := through all
      have fails : decode? ([] ++ later.flatten) = .error failure := by
        rw [List.nil_append, cut, ends]
      have noMore : (received limit later).1 = [] := frames_outcomeOf_of_failed fails
      rw [outcome, all, noMore, List.append_nil]
    · exact congrArg Prod.fst (stopped all)
  · have all : kept = wires := accepted_of_length short _ 0
    refine ⟨all, ?_⟩
    rintro rfl within
    obtain ⟨later, rfl, outcome⟩ := through all
    rw [outcome, received_of_incomplete ends within]

def fiveWire : Wire :=
  ⟨.integer 5, [58, 53, 13, 10], by cbv⟩

/-- A line of ten digits; thirteen octets with its mark and its end. -/
def digitsWire : Wire :=
  ⟨.simple "0123456789", [43, 48, 49, 50, 51, 52, 53, 54, 55, 56, 57, 13, 10], by cbv⟩

theorem digits_behind_five :
    let early : List Bytes :=
      [[58, 53, 13, 10, 43, 48, 49], [50, 51, 52, 53, 54, 55, 56], [57, 13, 10]]
    let late : List Bytes :=
      [[58, 53, 13, 10, 43, 48, 49, 50, 51], [52, 53, 54, 55, 56, 57, 13, 10]]
    early.flatten = octetsOf [fiveWire, digitsWire] ++ []
      ∧ late.flatten = octetsOf [fiveWire, digitsWire] ++ []
      ∧ decode? [] = .error .incomplete
      ∧ (received 8 early).1 = [.integer 5]
      ∧ (received 8 early).2 = .error overLimit
      ∧ (received 8 late).1 = [.integer 5, .simple "0123456789"]
      ∧ (received 12 early).2 = .ok []
      ∧ 8 + 1 < digitsWire.length
      ∧ received 8 [digitsWire.octets] = ([.simple "0123456789"], .ok []) := by
  have ends : decode? [] = .error .incomplete := FrontReader.decode?_nil
  intro early late
  obtain ⟨earlyFrames, earlyStops, -⟩ :=
    (yields_frames_before_overrun 8).2.1 early [fiveWire, digitsWire] [] .incomplete rfl ends
  obtain ⟨lateFrames, -, -⟩ :=
    (yields_frames_before_overrun 8).2.1 late [fiveWire, digitsWire] [] .incomplete rfl ends
  obtain ⟨-, -, whole⟩ :=
    (yields_frames_before_overrun 12).2.1 early [fiveWire, digitsWire] [] .incomplete rfl ends
  have keptEarly : accepted 8 (arrivals 0 early) 0 [fiveWire, digitsWire] = [fiveWire] := by rfl
  have keptLate : accepted 8 (arrivals 0 late) 0 [fiveWire, digitsWire] =
      [fiveWire, digitsWire] := by rfl
  have short : ∀ wire ∈ [fiveWire, digitsWire], wire.length ≤ 12 + 1 := by decide
  have long : 8 + 1 < digitsWire.length := by decide
  refine ⟨rfl, rfl, ends, ?_, earlyStops ?_, ?_, (whole short).2 rfl (by decide), long,
    ((yields_frames_before_overrun 8).2.2 digitsWire long).1⟩
  · rw [earlyFrames, keptEarly]
    rfl
  · rw [keptEarly]
    exact fun same => absurd (congrArg List.length same) (by decide)
  · rw [lateFrames, keptLate]
    rfl

/-- Under a limit of eight, a line of thirteen octets comes out of one chunk, and is refused where
it is cut behind the ninth. -/
theorem long_line_read_in_one_chunk :
    let line : Bytes := [43, 48, 49, 50, 51, 52, 53, 54, 55, 56, 57, 13, 10]
    line.length = 13
      ∧ decode? line = .ok (.simple "0123456789", [])
      ∧ received 8 [line] = ([.simple "0123456789"], .ok [])
      ∧ received 8 [line.take 9, line.drop 9] = ([], .error overLimit) :=
  ⟨rfl, digitsWire.reads, received_whole 8 digitsWire, received_cut digitsWire (by decide)⟩

end RespServer.Frame
