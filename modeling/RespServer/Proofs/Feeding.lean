import RespServer.Proofs.ReadingLoop

/-!
Contract: what octets that a connection receives come to.

Owns:
- that no arrival looks at the octets that wait behind it;
- `acceptEach`, the arrival of several frames, and `Feeds`, all that feeding octets can come to;
- that octets may come in several chunks;
- that feeding octets is a run of events.

Does not own: which frames octets hold (`Proofs.Chunking`), and reading in turns of a loop
(`Proofs.ReadingLoop`).

The buffer is a field of the connection, and no command looks at it. So what is said of arrivals is
said without it, and it is put back at the end.
-/

namespace RespServer

namespace Session

/-! ## The buffer -/

/-- What a step led to, with other octets in the buffer. -/
def refill (progress : Progress) (buffer : Bytes) : Progress :=
  (progress.1.withBuffer buffer, progress.2)

section Buffers

variable (session : Session) (buffer : Bytes)

theorem write_withBuffer (frame : Frame) :
    (session.withBuffer buffer).write frame = (session.write frame).withBuffer buffer := by
  change (if session.connection.isOpen && session.connection.listening then _ else _) = _
  unfold write
  split <;> rfl

theorem close_withBuffer : (session.withBuffer buffer).close = session.close.withBuffer buffer := by
  change (if session.connection.isOpen then _ else _) = _
  unfold close
  split <;> rfl

theorem fail_withBuffer (cause : Failure) :
    (session.withBuffer buffer).fail cause = (session.fail cause).withBuffer buffer := by
  unfold fail
  split
  · exact session.close_withBuffer buffer
  · exact session.write_withBuffer buffer cause.reply

theorem perform_withBuffer (command : Command) :
    (session.withBuffer buffer).perform command =
      ((session.perform command).1, (session.perform command).2.withBuffer buffer) :=
  rfl

theorem conclude_withBuffer (kind : CommandKind) (outcome : Outcome) :
    (session.withBuffer buffer).conclude kind outcome =
      refill (session.conclude kind outcome) buffer := by
  cases outcome with
  | reply frame =>
      dsimp only [conclude, refill]
      rw [write_withBuffer]
      split
      · rw [close_withBuffer]
      · rfl
  | deferred work => rfl
  | failed cause =>
      dsimp only [conclude, refill]
      rw [fail_withBuffer]
  | aborted reason => rfl

theorem answer_withBuffer (command : Command) :
    (session.withBuffer buffer).answer command = refill (session.answer command) buffer := by
  have gates : (session.withBuffer buffer).gate? command.kind = session.gate? command.kind := rfl
  have starts : (session.withBuffer buffer).startCommand command.kind =
      (session.startCommand command.kind).withBuffer buffer := rfl
  rw [answer_eq, answer_eq, gates, starts, perform_withBuffer]
  generalize (session.startCommand command.kind).perform command = performed
  cases session.gate? command.kind with
  | some rejection =>
      dsimp only
      rw [write_withBuffer]
      rfl
  | none => exact (performed.2.endCommand command.kind).conclude_withBuffer buffer _ _

/-- Deferred work that was begun, with other octets in the buffer. -/
def Begun.refill (begun : Begun) (buffer : Bytes) : Begun :=
  match begun with
  | .inFlight next => .inFlight (next.withBuffer buffer)
  | .answered next => .answered (next.withBuffer buffer)
  | .aborted next reason => .aborted (next.withBuffer buffer) reason

theorem begin_withBuffer (command : Command) (rest : List Waiting) :
    (session.withBuffer buffer).begin command rest =
      (session.begin command rest).refill buffer := by
  have gates : (session.withBuffer buffer).gate? command.kind = session.gate? command.kind := rfl
  have starts (queue : List Waiting) :
      ((session.withBuffer buffer).startCommand command.kind).withQueue queue =
        ((session.startCommand command.kind).withQueue queue).withBuffer buffer := rfl
  have queued (next : Session) :
      (next.withBuffer buffer).withQueue rest = (next.withQueue rest).withBuffer buffer := rfl
  unfold begin
  rw [gates]
  cases session.gate? command.kind with
  | some rejection =>
      dsimp only [Begun.refill]
      rw [queued, write_withBuffer]
  | none =>
      dsimp only
      rw [starts, perform_withBuffer]
      generalize ((session.startCommand command.kind).withQueue _).perform command = performed
      obtain ⟨outcome, next⟩ := performed
      cases outcome with
      | reply frame =>
          dsimp only [Begun.refill]
          rw [queued, write_withBuffer]
          rfl
      | failed cause =>
          dsimp only [Begun.refill]
          rw [queued, fail_withBuffer]
          rfl
      | deferred | aborted => rfl

/-- A command that arrives does not look at the buffer. -/
theorem receive_withBuffer (command : Command) :
    (session.withBuffer buffer).receive command = refill (session.receive command) buffer := by
  have counts : (session.withBuffer buffer).countCommand = session.countCommand.withBuffer buffer :=
    rfl
  have numbers : (session.withBuffer buffer).numbered command = session.numbered command := rfl
  have isOpen : (session.withBuffer buffer).connection.isOpen = session.connection.isOpen := rfl
  have queue : (session.withBuffer buffer).connection.queue = session.connection.queue := rfl
  rw [receive_eq, receive_eq, counts, numbers, isOpen, queue, begin_withBuffer, answer_withBuffer]
  split
  · rfl
  split
  · rfl
  split
  · cases session.countCommand.begin (session.numbered command) [] <;> rfl
  · rfl

theorem report_withBuffer (cause : Failure) :
    (session.withBuffer buffer).report cause = (session.report cause).withBuffer buffer := by
  have same : (session.withBuffer buffer).connection.queue = session.connection.queue := rfl
  unfold report
  rw [same]
  split
  · exact session.close_withBuffer buffer
  · split
    · exact session.write_withBuffer buffer cause.reply
    · rfl

theorem accept_withBuffer (frame : Frame) :
    (session.withBuffer buffer).accept frame = refill (session.accept frame) buffer := by
  unfold accept
  split
  · exact session.receive_withBuffer buffer _
  · rw [report_withBuffer]
    rfl

end Buffers

/-! ## Several frames -/

/-- Frames arrive one after the other, until one breaks off. -/
def acceptEach (session : Session) : List Frame → Progress
  | [] => (session, none)
  | frame :: rest =>
      match session.accept frame with
      | (next, none) => next.acceptEach rest
      | (next, some reason) => (next, some reason)

/-- A reading of a buffer, what it leads to, and the reading of what is left. -/
theorem consume_eq (session : Session) (buffer : Bytes) :
    session.consume buffer =
      match Frame.next? Frame.defaultLimit buffer with
      | .error cause => (⟨0, .failed⟩, (session.withBuffer []).report (.protocol cause))
      | .ok none => (⟨0, .waiting buffer.length⟩, session.withBuffer buffer)
      | .ok (some (frame, unread)) =>
          match (session.withBuffer unread).accept frame with
          | (next, some reason) => (⟨1, .aborted reason⟩, next)
          | (next, none) =>
              ({ (next.consume unread).1 with frames := (next.consume unread).1.frames + 1 },
                (next.consume unread).2) := by
  rw [consume]
  split
  next read => simp only [read]
  next read => simp only [read]
  next frame unread read =>
    rcases accepted : (session.withBuffer unread).accept frame with ⟨next, _ | reason⟩
    · simp only [read, accepted]
    · simp only [read, accepted]

/-- What was in the buffer before is of no account. -/
theorem consume_withBuffer (session : Session) (before buffer : Bytes) :
    (session.withBuffer before).consume buffer = session.consume buffer := by
  rw [consume_eq, consume_eq session]
  rfl

/-- All that reading a buffer can come to: how many frames arrived, why no more did, and the session
behind them. -/
inductive Feeds (session : Session) (harvest : Frame.Harvest) : Fed × Session → Prop where
  | waits {reached : Session} (unfailed : harvest.failure = none)
      (accepted : session.acceptEach harvest.frames = (reached, none)) :
      Feeds session harvest
        (⟨harvest.frames.length, .waiting harvest.buffer.length⟩, reached.withBuffer harvest.buffer)
  | fails {reached : Session} {cause : DecodingError}
      (failed : harvest.failure = some cause)
      (accepted : session.acceptEach harvest.frames = (reached, none)) :
      Feeds session harvest
        (⟨harvest.frames.length, .failed⟩, (reached.report (.protocol cause)).withBuffer [])
  | breaksOff {earlier later : List Frame} {frame : Frame} {begun reached : Session}
      {reason : Abort} (unread : Bytes) (frames : harvest.frames = earlier ++ frame :: later)
      (accepted : session.acceptEach earlier = (begun, none))
      (broke : begun.accept frame = (reached, some reason)) :
      Feeds session harvest (⟨earlier.length + 1, .aborted reason⟩, reached.withBuffer unread)

theorem acceptEach_cons {session next : Session} {frame : Frame}
    (first : session.accept frame = (next, none)) (rest : List Frame) :
    session.acceptEach (frame :: rest) = next.acceptEach rest := by
  rw [acceptEach, first]

/-- One more frame in front. -/
theorem Feeds.cons {session next : Session} {frame : Frame} {harvest : Frame.Harvest}
    {result : Fed × Session} (first : session.accept frame = (next, none))
    (feeds : next.Feeds harvest result) :
    session.Feeds { harvest with frames := frame :: harvest.frames }
      ({ result.1 with frames := result.1.frames + 1 }, result.2) := by
  cases feeds with
  | waits unfailed accepted =>
      exact .waits unfailed ((acceptEach_cons first harvest.frames).trans accepted)
  | fails failed accepted =>
      exact .fails failed ((acceptEach_cons first harvest.frames).trans accepted)
  | @breaksOff earlier later broken begun reached reason unread frames accepted broke =>
      have split : frame :: harvest.frames = (frame :: earlier) ++ broken :: later := by
        rw [frames]
        rfl
      exact .breaksOff unread split ((acceptEach_cons first earlier).trans accepted) broke

/-- Reading a buffer is the arrival of the frames that it holds. -/
theorem feeds_consume (session : Session) (buffer : Bytes) :
    session.Feeds (Frame.harvest Frame.defaultLimit buffer) (session.consume buffer) := by
  induction length : buffer.length using Nat.strongRecOn generalizing session buffer with
  | _ count inductionHypothesis =>
      subst length
      rw [consume_eq, Frame.harvest_eq]
      rcases read : Frame.next? Frame.defaultLimit buffer with cause | _ | ⟨frame, unread⟩
      · dsimp only
        rw [report_withBuffer]
        exact .fails rfl rfl
      · exact .waits rfl rfl
      · dsimp only
        rw [accept_withBuffer]
        rcases first : session.accept frame with ⟨next, _ | reason⟩
        · have later := inductionHypothesis _ (Frame.length_of_next? read) next unread rfl
          dsimp only [refill]
          rw [consume_withBuffer]
          exact later.cons first
        · exact @Feeds.breaksOff _ _ [] _ _ _ _ _ unread rfl rfl first

/-- Octets that are fed are read behind those that wait. -/
theorem feeds_feed (session : Session) (chunk : Bytes) :
    session.Feeds (Frame.receive Frame.defaultLimit session.connection.buffer chunk)
      (session.feed chunk) :=
  session.feeds_consume _

/-! ## Chunks -/

/-- A reading, and the reading of what arrives behind it. -/
def feedBehind (earlier : Fed × Session) (chunk : Bytes) : Fed × Session :=
  ({ (earlier.2.feed chunk).1 with
      frames := earlier.1.frames + (earlier.2.feed chunk).1.frames },
    (earlier.2.feed chunk).2)

/-- If reading a buffer ends with octets that wait, reading a longer one goes on with these. -/
theorem consume_append {session : Session} {buffer : Bytes} {left : Nat}
    (waits : (session.consume buffer).1.ending = .waiting left) (more : Bytes) :
    session.consume (buffer ++ more) = feedBehind (session.consume buffer) more := by
  induction length : buffer.length using Nat.strongRecOn generalizing session buffer with
  | _ count inductionHypothesis =>
      subst length
      rw [consume_eq session buffer] at waits ⊢
      rcases read : Frame.next? Frame.defaultLimit buffer with cause | _ | ⟨frame, unread⟩
      · rw [read] at waits
        cases waits
      · have same : (session.withBuffer buffer).feed more = session.consume (buffer ++ more) :=
          session.consume_withBuffer buffer (buffer ++ more)
        dsimp only [feedBehind]
        rw [same, Nat.zero_add]
      · rw [read] at waits
        dsimp only at waits
        rw [accept_withBuffer] at waits
        rw [consume_eq, Frame.next?_append read]
        dsimp only
        rw [accept_withBuffer, accept_withBuffer]
        rcases first : session.accept frame with ⟨next, _ | reason⟩
        · rw [first] at waits
          dsimp only [refill] at waits ⊢
          rw [consume_withBuffer] at waits
          rw [consume_withBuffer, consume_withBuffer,
            inductionHypothesis _ (Frame.length_of_next? read) waits rfl]
          dsimp only [feedBehind]
          rw [Nat.add_right_comm]
        · rw [first] at waits
          cases waits

/-- Octets may come in two chunks, as long as the first is read to its end. -/
theorem feed_append {session : Session} {first : Bytes} {left : Nat}
    (waits : (session.feed first).1.ending = .waiting left) (second : Bytes) :
    session.feed (first ++ second) = feedBehind (session.feed first) second := by
  have longer := consume_append waits second
  rw [List.append_assoc] at longer
  exact longer

end Session

namespace World

/-! ## A run of events -/

/-- The events that feeding octets is: the frames that arrive, and behind them the failure. -/
def fedEvents (index : Nat) (harvest : Frame.Harvest) (fed : Session.Fed) : List Event :=
  (harvest.frames.take fed.frames).map (.accept index)
    ++ if fed.ending = .failed then
        harvest.failure.toList.map fun cause => .report index (.protocol cause)
      else []

theorem fedEvents_of_unfailed {index : Nat} {harvest : Frame.Harvest} {fed : Session.Fed}
    (unfailed : fed.ending ≠ .failed) :
    fedEvents index harvest fed = (harvest.frames.take fed.frames).map (.accept index) := by
  rw [fedEvents, if_neg unfailed, List.append_nil]

theorem session?_withSession {world : World} {index : Nat} {session : Session}
    (present : world.session? index = some session) (next : Session) :
    (world.withSession index next).session? index = some next := by
  obtain ⟨inside, -⟩ := List.getElem?_eq_some_iff.mp (session?_eq_some.mp present).1
  exact session?_eq_some.mpr ⟨List.getElem?_set_self inside, rfl⟩

theorem withSession_same {world : World} {index : Nat} {session : Session}
    (present : world.session? index = some session) : world.withSession index session = world := by
  obtain ⟨here, services⟩ := session?_eq_some.mp present
  obtain ⟨inside, same⟩ := List.getElem?_eq_some_iff.mp here
  rw [withSession, ← same, List.set_getElem_self, services]

theorem withSession_withSession (world : World) (index : Nat) (first second : Session) :
    (world.withSession index first).withSession index second = world.withSession index second := by
  rw [withSession, withSession, withSession, List.set_set]

theorem step_accept {world : World} (current : world.services.store.Current) {index : Nat}
    {session : Session} (present : world.session? index = some session) (frame : Frame) :
    (world.step (.accept index frame)).1 = world.withSession index (session.accept frame).1 := by
  rw [step, sweep_of_current current, apply, atConnection, present]

/-- Frames that arrive one after the other are events one after the other. -/
theorem after_accepts {world : World} (swept : world.Swept) {index : Nat} {frames : List Frame}
    {session reached : Session} (present : world.session? index = some session)
    (accepted : session.acceptEach frames = (reached, none)) :
    world.after (frames.map (.accept index)) = world.withSession index reached := by
  induction frames generalizing world session with
  | nil =>
      cases accepted
      exact (withSession_same present).symm
  | cons frame rest inductionHypothesis =>
      rw [Session.acceptEach] at accepted
      rcases first : session.accept frame with ⟨next, _ | reason⟩
      · rw [first] at accepted
        have stepped := step_accept swept.current present frame
        rw [first] at stepped
        have behind : (world.withSession index next).Swept := by
          rw [← stepped]
          exact swept.after [.accept index frame]
        have later := inductionHypothesis behind (session?_withSession present next) accepted
        rw [withSession_withSession, ← stepped] at later
        exact later
      · rw [first] at accepted
        cases accepted

/-- One more event behind frames that arrived. -/
theorem after_accepts_concat {world : World} (swept : world.Swept) {index : Nat}
    {frames : List Frame} {session begun : Session} (present : world.session? index = some session)
    (accepted : session.acceptEach frames = (begun, none)) (event : Event) :
    (world.withSession index begun).Swept
      ∧ world.after (frames.map (.accept index) ++ [event]) =
        ((world.withSession index begun).step event).1 := by
  have arrived := after_accepts swept present accepted
  rw [after, List.foldl_append, ← arrived]
  exact ⟨swept.after _, rfl⟩

/-- Everything that reading a buffer can come to is a run of events, the buffer aside. -/
theorem after_fedEvents {world : World} (swept : world.Swept) {index : Nat} {session : Session}
    (present : world.session? index = some session) {harvest : Frame.Harvest}
    {result : Session.Fed × Session} (feeds : session.Feeds harvest result) :
    ∃ next left, world.after (fedEvents index harvest result.1) = world.withSession index next
      ∧ result.2 = next.withBuffer left := by
  cases feeds with
  | waits unfailed accepted =>
      have waiting : Session.FeedEnd.waiting harvest.buffer.length ≠ .failed := by
        rintro ⟨⟩
      refine ⟨_, _, ?_, rfl⟩
      rw [fedEvents_of_unfailed waiting, List.take_length]
      exact after_accepts swept present accepted
  | @fails begun cause failed accepted =>
      obtain ⟨behind, reported⟩ :=
        after_accepts_concat swept present accepted (.report index (.protocol cause))
      refine ⟨_, _, ?_, rfl⟩
      rw [fedEvents, List.take_length, if_pos rfl, failed]
      refine reported.trans ?_
      rw [step, sweep_of_current behind.current, apply, atConnection,
        session?_withSession present begun]
      exact withSession_withSession world index begun _
  | @breaksOff earlier later frame begun final reason unread frames accepted broke =>
      obtain ⟨behind, arrived⟩ :=
        after_accepts_concat swept present accepted (.accept index frame)
      have taken : harvest.frames.take (earlier.length + 1) = earlier ++ [frame] := by
        rw [frames, List.take_length_add_append]
        rfl
      have aborted : Session.FeedEnd.aborted reason ≠ .failed := by
        rintro ⟨⟩
      refine ⟨_, _, ?_, rfl⟩
      rw [fedEvents_of_unfailed aborted, taken, List.map_append]
      refine arrived.trans ?_
      rw [step_accept behind.current (session?_withSession present begun), broke]
      exact withSession_withSession world index begun _

/-- Feeding octets is a run of events: the arrival of the frames that they complete, and the report
of the failure behind them. Only the octets that are left differ. -/
theorem feed?_eq_after {world reached : World} (swept : world.Swept) {index : Nat} {chunk : Bytes}
    {fed : Session.Fed} (feeds : world.feed? index chunk = some (fed, reached)) :
    ∃ session next left, world.session? index = some session
      ∧ world.after (fedEvents index
          (Frame.receive Frame.defaultLimit session.connection.buffer chunk) fed) =
        world.withSession index next
      ∧ reached = world.withSession index (next.withBuffer left) := by
  obtain ⟨session, present, fedHere⟩ := Option.map_eq_some_iff.mp feeds
  cases fedHere
  obtain ⟨next, left, run, same⟩ := after_fedEvents swept present (session.feeds_feed chunk)
  exact ⟨session, next, left, present, run, congrArg (world.withSession index) same⟩

end World

end RespServer
