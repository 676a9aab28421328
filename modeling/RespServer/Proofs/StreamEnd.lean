import RespServer.Proofs.Chunking
import RespServer.Proofs.Closing
import RespServer.Proofs.Ordering
import RespServer.Proofs.ReadingLoop

/-!
Contract: what is answered of a stream whose octets stop being frames.

Owns:
- `Refused`, streams of frames with octets behind them that are refused;
- `Phase`, how far a reading loop has come with such a stream, and what has arrived by then;
- which of the arrivals are answered before the loop closes the connection.

Does not own: the answers themselves (`Proofs.Ordering`), and jobs (`Proofs.Pool`).

The loop reads nothing behind a refused frame. Its next turn finds the end of the stream and closes
the connection, whether or not a job is still in flight: what waits behind that job is lost, and with
it the reply to the refusal.
-/

namespace RespServer

/-! ## Refused streams -/

namespace Frame

/-- Whether a reading never buffers more than the limit for the first frame of a stream. -/
def BufferedWithin (limit : Nat) (stream : Bytes) : Prop :=
  ∀ front, front <+: stream → decode? front = .error .incomplete → front.length ≤ limit

theorem bufferedWithin_of_length {limit : Nat} {stream : Bytes} (short : stream.length ≤ limit) :
    BufferedWithin limit stream :=
  fun _ begins _ => Nat.le_trans begins.length_le short

/-- A stream begins with frames, and the octets behind them are refused. -/
inductive Refused (limit : Nat) : (stream : Bytes) → List Frame → DecodingError → Prop where
  | here {stream : Bytes} {cause : DecodingError} (within : BufferedWithin limit stream)
      (refused : decode? stream = .error cause) (final : cause ≠ .incomplete) :
      Refused limit stream [] cause
  | behind {stream unread : Bytes} {frame : Frame} {frames : List Frame} {cause : DecodingError}
      (within : BufferedWithin limit stream) (decoded : decode? stream = .ok (frame, unread))
      (later : Refused limit unread frames cause) : Refused limit stream (frame :: frames) cause

end Frame

namespace FrameReader

/-- What the next reading of a refused stream can be, with some of its octets still coming. -/
inductive Reads (reader : FrameReader) (coming : Bytes) (cause : DecodingError) :
    List Frame → Reading × FrameReader → Prop where
  | waiting {frames : List Frame} (more : coming ≠ []) :
      Reads reader coming cause frames (.waiting, reader)
  | frame {frame : Frame} {later : List Frame} {unread : Bytes}
      (refused : Frame.Refused reader.limit (unread ++ coming) later cause) :
      Reads reader coming cause (frame :: later) (.frame frame, { reader with buffer := unread })
  | failed :
      Reads reader coming cause [] (.failed (.protocol cause), { reader with failed := true })

/-- A whole frame is read whatever follows, and a refusal stays one; a beginning waits. -/
theorem reads_next {reader : FrameReader} {coming : Bytes} {frames : List Frame}
    {cause : DecodingError} (unfailed : reader.failed = false) (going : reader.ended = false)
    (refused : Frame.Refused reader.limit (reader.buffer ++ coming) frames cause) :
    reader.Reads coming cause frames reader.next := by
  unfold next
  rw [if_neg (by simp [unfailed])]
  cases decoded : Frame.decode? reader.buffer with
  | ok pair =>
      obtain ⟨frame, unread⟩ := pair
      have whole := Frame.decode?_append decoded coming
      rw [Frame.next?_of_decode? decoded]
      cases refused with
      | here within failed final =>
          rw [whole] at failed
          cases failed
      | behind within again later =>
          rw [whole] at again
          cases again
          exact .frame later
  | error failure =>
      by_cases lacking : failure = .incomplete
      · subst lacking
        have within : reader.buffer.length ≤ reader.limit := by
          cases refused with
          | here within | behind within => exact within _ (List.prefix_append _ _) decoded
        have more : coming ≠ [] := by
          rintro rfl
          rw [List.append_nil] at refused
          cases refused with
          | here within failed final =>
              rw [decoded] at failed
              cases failed
              exact final rfl
          | behind within whole later =>
              rw [decoded] at whole
              cases whole
        rw [Frame.next?_of_incomplete decoded within]
        dsimp only
        rw [if_pos (by simp [going])]
        exact .waiting more
      · have failedWhole := Frame.decode?_append_of_failed decoded lacking coming
        rw [Frame.next?_of_failed decoded lacking]
        cases refused with
        | here within failed final =>
            rw [failedWhole] at failed
            cases failed
            exact .failed
        | behind within whole later =>
            rw [failedWhole] at whole
            cases whole

end FrameReader

/-! ## Arrivals -/

/-- The reply to octets that are no frame. -/
def improperlyFormatted : Frame :=
  Frame.failure "The command received by the server was improperly formatted"

namespace Waiting

/-- What arrives with a frame: a command, or the reply to a failure if it is none. -/
def ofFrame (frame : Frame) : Waiting :=
  match Command.ofFrame? frame with
  | .ok arrived => .command arrived
  | .error cause => .reply (Failure.command cause).reply

/-- An arrival without the number that it got. -/
def unnumbered : Waiting → Waiting
  | .command arrived => .command { arrived with id := 0 }
  | .reply frame => .reply frame

end Waiting

/-- What arrives with a refused stream. -/
def asked (frames : List Frame) : List Waiting :=
  frames.map Waiting.ofFrame ++ [.reply improperlyFormatted]

theorem Command.new_of_ofFrame? {frame : Frame} {command : Command}
    (read : Command.ofFrame? frame = .ok command) :
    ∃ name arguments, command = Command.new name arguments := by
  unfold Command.ofFrame? at read
  split at read
  · cases read
  · split at read
    · cases read
    · split at read
      · cases read
      · cases read
        exact ⟨_, _, rfl⟩
  · cases read

namespace World

section Arriving

variable {world : World} {index : Nat} {connection : Connection}
  (found : world.connections[index]? = some connection)
include found

theorem told_of_own {event : Event} {input : Input}
    (delivered : world.sweep.delivery? event = some ⟨world.sweep, index, input⟩) :
    world.inputTo? index event = some (⟨world.sweep.services, connection⟩, input) := by
  have present : world.sweep.session? index = some ⟨world.sweep.services, connection⟩ :=
    session?_eq_some.mpr ⟨found, rfl⟩
  exact told_of_delivery delivered present

variable (isOpen : connection.isOpen = true)
include isOpen

theorem arrivals_accept (frame : Frame) :
    (world.arrivals index [.accept index frame]).map Waiting.unnumbered =
      [Waiting.ofFrame frame] := by
  rw [arrivals, arrivals, told_of_own found rfl]
  dsimp only
  unfold Session.arrival? Input.ofFrame Waiting.ofFrame
  rw [if_pos isOpen]
  cases read : Command.ofFrame? frame with
  | error cause => rfl
  | ok arrived =>
      obtain ⟨name, arguments, rfl⟩ := Command.new_of_ofFrame? read
      rfl

theorem arrivals_refusal (cause : DecodingError) :
    world.arrivals index [.report index (.protocol cause)] = [.reply improperlyFormatted] := by
  rw [arrivals, arrivals, told_of_own found rfl]
  dsimp only
  unfold Session.arrival?
  rw [if_pos isOpen]
  rfl

end Arriving

theorem arrivals_elsewhere {world : World} {index : Nat} {event : Event}
    (elsewhere : event.isElsewhere index = true) : world.arrivals index [event] = [] := by
  rw [arrivals, arrivals]
  cases telling : world.inputTo? index event with
  | none => rfl
  | some told =>
      obtain ⟨session, input⟩ := told
      obtain ⟨id, result, rfl⟩ := completion_of_elsewhere elsewhere telling
      dsimp only
      rw [Session.arrival?_completion]
      rfl

end World

namespace Handler

open World

/-! ## The loop on a refused stream -/

theorem open_of_attends {handler : Handler} {world : World}
    (attends : handler.mustEnd world = false) :
    ∃ connection, world.connections[handler.connection]? = some connection
      ∧ connection.isOpen = true := by
  rw [mustEnd, Bool.or_eq_false_iff, Bool.not_eq_false', Option.any_eq_true] at attends
  exact attends.2

/-- Everything that a turn of the loop can be on a refused stream, some of whose octets are still
coming: the loop behind it, and the events that it is. -/
inductive OnRefused (handler : Handler) (world : World) (coming : Bytes) (cause : DecodingError) :
    List Frame → Handler → List World.Event → Prop where
  | ended {frames : List Frame} {after : Handler} {events : List World.Event}
      (finished : after.finished = true) :
      OnRefused handler world coming cause frames after events
  | waits {frames : List Frame} (more : coming ≠ []) :
      OnRefused handler world coming cause frames handler []
  | fails {after : Handler} (attends : handler.mustEnd world = false)
      (failed : after.reader.failed = true) :
      OnRefused handler world coming cause [] after
        [.report handler.connection (.protocol cause)]
  | reads {frame : Frame} {later : List Frame} {after : Handler}
      (attends : handler.mustEnd world = false) (unfailed : after.reader.failed = false)
      (going : after.reader.ended = false)
      (refused : Frame.Refused after.reader.limit (after.reader.buffer ++ coming) later cause) :
      OnRefused handler world coming cause (frame :: later) after
        [.accept handler.connection frame]

section Turns

variable {handler : Handler} {world : World} {next : Handler × World} {events : List World.Event}
  (turn : handler.Turn world next events)
include turn

/-- A loop that has read a failure ends with its next turn. -/
theorem Turn.finished_of_failed (failed : handler.reader.failed = true) :
    next.1.finished = true := by
  have nothing := FrameReader.next_of_failed failed
  cases turn with
  | ended finished => exact finished
  | leaves => rfl
  | waits _ _ reading | reports _ _ reading | accepts _ _ reading =>
      rw [nothing] at reading
      cases reading

theorem Turn.onRefused {coming : Bytes} {frames : List Frame} {cause : DecodingError}
    (unfailed : handler.reader.failed = false) (going : handler.reader.ended = false)
    (refused : Frame.Refused handler.reader.limit (handler.reader.buffer ++ coming) frames cause) :
    OnRefused handler world coming cause frames next.1 events := by
  have reads := FrameReader.reads_next unfailed going refused
  cases turn with
  | ended finished => exact .ended finished
  | leaves => exact .ended rfl
  | waits unfinished attends waiting =>
      generalize handler.reader.next = reading at reads waiting
      cases reads with
      | waiting more => exact .waits more
      | frame | failed => cases waiting
  | reports unfinished attends failing =>
      rw [failing] at reads
      cases reads with
      | failed => exact .fails attends rfl
  | accepts unfinished attends read =>
      rw [read] at reads
      cases reads with
      | frame later => exact .reads attends unfailed going later

end Turns

/-- How far a loop has come with a refused stream, some of whose octets are still coming, and what
has arrived by then. -/
inductive Phase (frames : List Frame) (cause : DecodingError) (coming : Bytes) (handler : Handler)
    (arrived : List Waiting) : Prop where
  | ended (finished : handler.finished = true) : Phase frames cause coming handler arrived
  | refused (failed : handler.reader.failed = true)
      (all : arrived.map Waiting.unnumbered = asked frames) :
      Phase frames cause coming handler arrived
  | reading {done later : List Frame} (unfailed : handler.reader.failed = false)
      (going : handler.reader.ended = false) (split : frames = done ++ later)
      (refused : Frame.Refused handler.reader.limit (handler.reader.buffer ++ coming) later cause)
      (taken : arrived.map Waiting.unnumbered = done.map Waiting.ofFrame) :
      Phase frames cause coming handler arrived

section Phases

variable {frames : List Frame} {cause : DecodingError} {coming : Bytes} {handler : Handler}
  {arrived : List Waiting} {world : World}

theorem Phase.octets {chunk : Bytes} (phase : Phase frames cause (chunk ++ coming) handler arrived) :
    Phase frames cause coming (handler.append chunk) arrived := by
  cases phase with
  | ended finished => exact .ended finished
  | refused failed all => exact .refused failed all
  | reading unfailed going split refused taken =>
      rw [← List.append_assoc] at refused
      exact .reading unfailed going split refused taken

theorem Phase.turn {next : Handler × World} {events : List World.Event}
    (phase : Phase frames cause coming handler arrived)
    (turn : handler.Turn world next events) :
    Phase frames cause coming next.1 (arrived ++ world.arrivals handler.connection events) := by
  cases phase with
  | ended finished => exact .ended (turn.finished_of_finished finished)
  | refused failed all => exact .ended (turn.finished_of_failed failed)
  | reading unfailed going split refused taken =>
      cases turn.onRefused unfailed going refused with
      | ended finished => exact .ended finished
      | waits more =>
          rw [arrivals, List.append_nil]
          exact .reading unfailed going split refused taken
      | fails attends failed =>
          obtain ⟨connection, found, isOpen⟩ := open_of_attends attends
          refine .refused failed ?_
          rw [arrivals_refusal found isOpen, List.map_append, taken, split, List.append_nil]
          rfl
      | reads attends unfailed going refused =>
          obtain ⟨connection, found, isOpen⟩ := open_of_attends attends
          refine .reading unfailed going (split.trans (List.append_cons ..)) refused ?_
          rw [List.map_append, arrivals_accept found isOpen, taken, List.map_append]
          rfl

end Phases

/-- What a loop makes of a refused stream, whatever happens elsewhere. -/
theorem phase_live {frames : List Frame} {cause : DecodingError} {coming : Bytes} {world : World}
    (swept : world.Swept) {handler : Handler} {arrived : List Waiting} {happenings : List Happening}
    (elsewhere : ∀ event, .event event ∈ happenings →
      event.isElsewhere handler.connection = true)
    (phase : Phase frames cause (received happenings ++ coming) handler arrived) :
    Phase frames cause coming (handler.live world happenings).1
      (arrived ++ world.arrivals handler.connection (handler.events world happenings)) := by
  induction happenings generalizing handler world arrived with
  | nil =>
      rw [events, arrivals, List.append_nil]
      exact phase
  | cons first rest inductionHypothesis =>
      have same := connection_happen swept handler first
      have next : Phase frames cause (received rest ++ coming) (handler.happen world first).1
          (arrived ++ world.arrivals handler.connection (handler.eventsAt world first)) := by
        cases first with
        | octets chunk =>
            rw [received, List.append_assoc] at phase
            rw [eventsAt, arrivals, List.append_nil]
            exact phase.octets
        | turn => exact phase.turn (turn_poll swept.current handler)
        | event event =>
            rw [eventsAt, arrivals_elsewhere (elsewhere event List.mem_cons_self), List.append_nil]
            exact phase
      rw [live, events, arrivals_append, ← List.append_assoc, ← happen_world swept, ← same]
      apply inductionHypothesis (swept_happen swept handler first)
      · intro event member
        rw [same]
        exact elsewhere event (List.mem_cons_of_mem _ member)
      · rw [same]
        exact next

/-- A loop that has read a failure closes its connection in its next turn. -/
theorem poll_of_failed {world : World} (current : world.services.store.Current) {handler : Handler}
    (unfinished : handler.finished = false) (failed : handler.reader.failed = true) :
    handler.poll world =
      ({ handler with finished := true }, (world.step (.close handler.connection)).1) := by
  have finished := FrameReader.next_of_failed failed
  rw [← leave_eq current, poll, finished, unfinished]
  exact ite_self _

/-! ### The end of the loop -/

theorem finished_of_failed {handler : Handler} (failed : handler.reader.failed = true)
    {world : World} (swept : world.Swept) {happenings : List Happening}
    (enough : 1 ≤ turns happenings) : (handler.live world happenings).1.finished = true := by
  induction happenings generalizing handler world with
  | nil => cases enough
  | cons first rest inductionHypothesis =>
      rw [live]
      cases first with
      | octets chunk =>
          have still : (handler.append chunk).reader.failed = true := failed
          exact inductionHypothesis still swept enough
      | event event => exact inductionHypothesis failed (swept_happen swept handler _) enough
      | turn =>
          have turn := turn_poll swept.current handler
          exact finished_live (turn.finished_of_failed failed) _ rest

/-- Once all octets of a refused stream are there, the loop ends within as many turns as there are
frames, and two more. -/
theorem finished_of_refused {handler : Handler} {world : World} (swept : world.Swept)
    {happenings : List Happening} {frames : List Frame} {cause : DecodingError}
    (unfailed : handler.reader.failed = false) (going : handler.reader.ended = false)
    (refused : Frame.Refused handler.reader.limit handler.reader.buffer frames cause)
    (nothing : received happenings = []) (enough : frames.length + 2 ≤ turns happenings) :
    (handler.live world happenings).1.finished = true := by
  induction happenings generalizing handler world frames with
  | nil => cases enough
  | cons first rest inductionHypothesis =>
      rw [live]
      cases first with
      | octets chunk =>
          obtain ⟨rfl, later⟩ := List.append_eq_nil_iff.mp nothing
          refine inductionHypothesis swept unfailed going ?_ later enough
          rw [happen, append, FrameReader.append, List.append_nil]
          exact refused
      | event event =>
          exact inductionHypothesis (swept_happen swept handler _) unfailed going refused nothing
            enough
      | turn =>
          have still := swept_happen swept handler .turn
          rw [turns] at enough
          rw [← List.append_nil handler.reader.buffer] at refused
          have outcome := (turn_poll swept.current handler).onRefused unfailed going refused
          rw [happen] at still ⊢
          generalize (handler.said? world).toList = events at outcome
          generalize handler.poll world = next at outcome still ⊢
          obtain ⟨after, world⟩ := next
          cases outcome with
          | ended finished => exact finished_live finished _ rest
          | waits more => exact absurd rfl more
          | fails attends failed => exact finished_of_failed failed still (by omega)
          | reads attends unfailed going refused =>
              rw [List.append_nil] at refused
              refine inductionHypothesis still unfailed going refused nothing ?_
              rw [List.length_cons] at enough
              omega

theorem Phase.ends {frames : List Frame} {cause : DecodingError} {handler : Handler}
    {arrived : List Waiting} (phase : Phase frames cause [] handler arrived) {world : World}
    (swept : world.Swept) {happenings : List Happening} (nothing : received happenings = [])
    (enough : frames.length + 2 ≤ turns happenings) :
    (handler.live world happenings).1.finished = true := by
  cases phase with
  | ended finished => exact finished_live finished world happenings
  | refused failed all => exact finished_of_failed failed swept (by omega)
  | reading unfailed going split refused taken =>
      rw [List.append_nil] at refused
      apply finished_of_refused swept unfailed going refused nothing
      rw [split, List.length_append] at enough
      omega

end Handler

/-! ## Replies among the answers -/

namespace Session

theorem frame_of_drainAnswers {queue : List Waiting} {session : Session} {answer : Answer}
    (answered : answer ∈ drainAnswers queue session) {frame : Frame}
    (reply : answer.arrival = .reply frame) : answer.frame = frame := by
  induction queue generalizing session with
  | nil => cases answered
  | cons arrival rest inductionHypothesis =>
      rw [drainAnswers, List.mem_append] at answered
      rcases answered with first | later
      · cases arrival with
        | reply waiting =>
            cases List.mem_singleton.mp first
            cases reply
            rfl
        | command arrived =>
            obtain ⟨_, -, rfl⟩ := Option.map_eq_some_iff.mp (Option.mem_toList.mp first)
            cases reply
      · split at later
        · split at later
          · exact inductionHypothesis later
          · cases later
        · cases later
        · cases later

/-- A reply that waited is answered with itself. -/
theorem frame_of_answersTo {session : Session} {input : Input} {answer : Answer}
    (answered : answer ∈ session.answersTo input) {frame : Frame}
    (reply : answer.arrival = .reply frame) : answer.frame = frame := by
  unfold answersTo at answered
  split at answered
  · cases input with
    | command arrived =>
        dsimp only at answered
        split at answered
        · exact frame_of_drainAnswers answered reply
        · cases answered
    | failure cause =>
        dsimp only at answered
        split at answered
        · obtain ⟨_, -, rfl⟩ := Option.map_eq_some_iff.mp (Option.mem_toList.mp answered)
          cases reply
          rfl
        · cases answered
    | completion id result =>
        dsimp only at answered
        split at answered
        · split at answered
          · rcases List.mem_cons.mp answered with rfl | behind
            · cases reply
            · exact frame_of_drainAnswers behind reply
          · cases answered
        · cases answered
    | close | detach => cases answered
  · cases answered

/-- A session in which no command breaks off leaves no queue behind. -/
theorem Reaction.leavesBehind_of_whole {session : Session} {input : Input} {progress : Progress}
    (reaction : Reaction session input progress)
    (whole : ∀ reason, progress.2 = some reason → reason.isExecution = false) :
    leavesBehind progress = false := by
  have drains : ∀ {queue : List Waiting} {begun : Session} {progress : Progress},
      Drained queue begun progress →
      (∀ reason, progress.2 = some reason → reason.isExecution = false) →
      leavesBehind progress = false := by
    intro queue begun progress drained whole
    cases drained with
    | settled | inFlight | closed => rfl
    | aborted done split atOnce execution answered advances isOpen left =>
        exact absurd (whole _ rfl) (by simp [execution])
  cases reaction with
  | closed | waits | detached => rfl
  | outOfTurn told isOpen missing silent advances isClosed queue => simp [leavesBehind, isClosed]
  | taken arrival arrives idle answers advances isOpen =>
      exact drains (drained_drain _ isOpen) whole
  | resumed told wasOpen head answers advances isOpen =>
      exact drains (drained_drain _ isOpen) whole

end Session

/-- The queue of an open connection that is not stranded is empty where no job is left. -/
theorem Fits.idle_iff {connection : Connection} {jobs : List Job} (fits : Fits connection jobs)
    (isOpen : connection.isOpen = true) (moves : ¬Stranded connection jobs) :
    connection.queue = [] ↔ jobs = [] := by
  refine ⟨fits.noJobs_of_idle isOpen, fun none => ?_⟩
  apply Decidable.by_contra
  intro waits
  exact moves ⟨isOpen, waits, none⟩

namespace World

theorem frame_of_answers {world : World} {index : Nat} {events : List Event} {answer : Answer}
    (answered : answer ∈ world.answers index events) {frame : Frame}
    (reply : answer.arrival = .reply frame) : answer.frame = frame := by
  induction events generalizing world with
  | nil => cases answered
  | cons event rest inductionHypothesis =>
      rw [answers, List.mem_append] at answered
      rcases answered with now | later
      · split at now
        · cases now
        · exact Session.frame_of_answersTo now reply
      · exact inductionHypothesis later

/-- Where no command of a connection breaks off, its queue is not stranded. -/
theorem strands_of_spared {world : World} (orderly : world.Orderly) {index : Nat}
    {events : List Event} (spared : world.breaksOffAt index events = false) :
    world.strands index events = false := by
  induction events generalizing world with
  | nil => rfl
  | cons event rest inductionHypothesis =>
      have later : (world.step event).1.breaksOffAt index rest = false := by
        rw [breaksOffAt, Bool.or_eq_false_iff] at spared
        exact spared.2
      rw [strands, inductionHypothesis (orderly.step event) later, Bool.or_false, strandsAt]
      split
      · rfl
      · rename_i told
        exact (orderly.reaction told).leavesBehind_of_whole (whole_of_breaksOffAt spared told)

/-- The account of a connection that was opened during events at which none of its commands broke
off; nothing waits exactly if no job of it is left. -/
theorem Fit.account_of_spared {world : World} (fit : world.Fit) {events : List Event}
    (regular : ∀ event ∈ events, event.isRegular = true) {index : Nat}
    (unborn : world.connections[index]? = none) (attached : .detach index ∉ events)
    (spared : world.breaksOffAt index events = false) {connection : Connection}
    (found : (world.after events).connections[index]? = some connection)
    (isOpen : connection.isOpen = true) :
    connection.Accounted (world.arrivals index events) (world.answers index events)
      ∧ (connection.queue = [] ↔ (world.after events).services.jobsOf index = []) := by
  have absent : ∀ connection, world.connections[index]? ≠ some connection := by
    intro connection present
    rw [unborn] at present
    cases present
  have accounted : connection.Accounted ([] ++ world.arrivals index events)
      ([] ++ world.answers index events) :=
    accounted_of_spared fit.orderly (fun other present => absurd present (absent other))
      (fun _ => ⟨rfl, rfl⟩) attached spared found
  have stranded : Stranded connection ((world.after events).services.jobsOf index) ↔
      False ∨ world.strands index events = true :=
    fit.stranded_after (fun other present => absurd present (absent other)) (fun _ => id) regular
      found isOpen
  rw [strands_of_spared fit.orderly spared] at stranded
  refine ⟨accounted, ((fit.after regular).fits found).idle_iff isOpen fun waits => ?_⟩
  rcases stranded.mp waits with never | strands
  · exact never
  · cases strands

end World

namespace Handler

open World

/-- A connection that its loop closes keeps what was written, whatever happens later. -/
theorem closed_live {handler : Handler} {world : World} (swept : world.Swept)
    (unfinished : handler.finished = false) (failed : handler.reader.failed = true)
    {connection : Connection} (found : world.connections[handler.connection]? = some connection)
    (later : List Happening) :
    (handler.live world (.turn :: later)).1.finished = true
      ∧ ∃ last, (handler.live world (.turn :: later)).2.connections[handler.connection]? = some last
        ∧ last.isOpen = false ∧ last.written = connection.written := by
  have still := swept_happen swept handler .turn
  rw [live]
  rw [happen, poll_of_failed swept.current unfinished failed] at still ⊢
  refine ⟨finished_live rfl _ later, ?_⟩
  let session : Session := ⟨world.sweep.services, connection⟩
  have told : world.inputTo? handler.connection (.close handler.connection) =
      some (session, .close) := told_of_own found rfl
  have inside := (List.getElem?_eq_some_iff.mp found).1
  have closed : (world.step (.close handler.connection)).1.connections[handler.connection]? =
      some session.close.connection := by
    rw [step_of_told told]
    exact List.getElem?_set_self inside
  obtain ⟨last, present, resembles⟩ :=
    (fate_after still.orderly closed session.isOpen_close (events _ _ later)).stays
  refine ⟨last, ?_, ?_, ?_⟩
  · rw [live_world still]
    exact present
  · rw [resembles]
    exact session.isOpen_close
  · rw [resembles]
    change session.close.connection.written = connection.written
    unfold Session.close
    split <;> rfl

/-- What an open connection has answered of a refused stream is all of it if nothing waits. -/
theorem answered_of_accounted {connection : Connection} {taken : List Waiting}
    {given : List Answer} (accounted : connection.Accounted taken given)
    (isOpen : connection.isOpen = true) {frames : List Frame}
    (all : taken.map Waiting.unnumbered = asked frames) :
    (given.map fun answer => answer.arrival.unnumbered) <+: asked frames
      ∧ ((given.map fun answer => answer.arrival.unnumbered) = asked frames ↔
          connection.queue = []) := by
  have balance : (given.map fun answer => answer.arrival.unnumbered)
      ++ (connection.queue.map Waiting.asArrived).map Waiting.unnumbered = asked frames := by
    rw [← all, accounted.waiting isOpen, List.map_append, List.map_map, List.map_map]
    rfl
  rw [← balance]
  refine ⟨List.prefix_append _ _, ?_⟩
  rw [List.self_eq_append_right, List.map_eq_nil_iff, List.map_eq_nil_iff]

/-- Where all of a refused stream is answered, the last reply is the one to the refusal. -/
theorem getLast?_of_answered {given : List Answer} {frames : List Frame}
    (all : (given.map fun answer => answer.arrival.unnumbered) = asked frames)
    (echoes : ∀ answer ∈ given, ∀ frame, answer.arrival = .reply frame → answer.frame = frame) :
    (given.map Answer.frame).getLast? = some improperlyFormatted := by
  obtain ⟨front, back, rfl, -, last⟩ := List.map_eq_append_iff.mp all
  obtain ⟨answer, rfl, same⟩ := List.map_eq_singleton_iff.mp last
  have reply : answer.arrival = .reply improperlyFormatted := by
    cases waiting : answer.arrival with
    | command arrived =>
        rw [waiting] at same
        cases same
    | reply frame =>
        rw [waiting] at same
        exact same
  have echo := echoes answer (List.mem_append_right _ (List.mem_singleton_self _)) _ reply
  rw [List.map_append, List.map_singleton, List.getLast?_concat, echo]

/-- A connection is opened on a server whatever has happened there, and its loop receives a stream
of frames with octets behind them that are refused. Once all octets are there, the loop ends after
as many turns as there are frames, and two more. In the turn behind the refusal it closes the
connection, and nothing is written any more. If none of its commands quits or breaks off, the
replies are the answers to the first arrivals, in order; every frame and the refusal are answered
exactly if no job of the connection is in flight in that turn. -/
theorem refused_frame_answered_iff {services : Services} (idle : services.jobs = [])
    {earlier : List World.Event} (regular : ∀ event ∈ earlier, event.isRegular = true)
    {limit : Nat} {frames : List Frame} {cause : DecodingError} {happenings : List Happening}
    {coming : Bytes}
    (refused : Frame.Refused limit (received happenings ++ coming) frames cause) :
    let start := World.after ⟨services, []⟩ earlier
    let index := start.connections.length
    let opened := (start.step .connect).1
    let begun := Handler.new index limit
    let events := begun.events opened happenings
    let reached := begun.live opened happenings
    (∀ event, .event event ∈ happenings → event.isElsewhere index = true) →
      (∀ later, coming = [] → received later = [] → frames.length + 2 ≤ turns later →
        (reached.1.live reached.2 later).1.finished = true) ∧
      (reached.1.reader.failed = true → reached.1.finished = false →
        (∀ command ∈ opened.executed index events, command.kind ≠ .quit) →
        opened.breaksOffAt index events = false → ∀ later,
          let final := reached.1.live reached.2 (.turn :: later)
          let given := opened.answers index events
          let answered := given.map fun answer => answer.arrival.unnumbered
          let settled := reached.2.services.jobsOf index = []
          ∃ last, final.2.connections[index]? = some last ∧ final.1.finished = true
            ∧ last.isOpen = false ∧ last.written = given.map Answer.frame
            ∧ answered <+: asked frames ∧ (answered = asked frames ↔ settled)
            ∧ (settled → last.written.getLast? = some improperlyFormatted)) := by
  intro start index opened begun events reached elsewhere
  have fit : start.Fit := (fit_of_none idle).after regular
  have swept : opened.Swept := ⟨fit.orderly.step .connect, fit.orderly.current_step .connect⟩
  have nothingYet : frames = [] ++ frames := rfl
  have fresh : Phase frames cause (received happenings ++ coming) begun [] :=
    .reading rfl rfl nothingYet refused rfl
  have phase : Phase frames cause coming reached.1 (opened.arrivals index events) :=
    phase_live swept elsewhere fresh
  have world_eq : reached.2 = start.after (.connect :: events) := live_world swept begun happenings
  have sweptLast : reached.2.Swept := by
    rw [live_world swept]
    exact swept.after _
  refine ⟨fun later all nothing enough => ?_, ?_⟩
  · subst all
    exact phase.ends sweptLast nothing enough
  · intro failed unfinished stays spared later final given answered settled
    have all : (opened.arrivals index events).map Waiting.unnumbered = asked frames := by
      cases phase with
      | ended finished => exact absurd finished (by simp [unfinished])
      | refused failed all => exact all
      | reading unfailed => exact absurd failed (by simp [unfailed])
    have own := regular_events swept begun elsewhere
    have regularAll : ∀ event ∈ World.Event.connect :: events, event.isRegular = true :=
      List.forall_mem_cons.mpr ⟨rfl, fun event member => (own event member).1⟩
    have spares : ∀ event ∈ World.Event.connect :: events, event.sparesOpen index = true :=
      List.forall_mem_cons.mpr ⟨rfl, sparesOpen_events swept begun elsewhere rfl unfinished⟩
    have attached : .detach index ∉ World.Event.connect :: events := by
      rintro (_ | ⟨_, member⟩)
      exact (own _ member).2 rfl
    have unborn : start.connections[index]? = none := List.getElem?_eq_none (Nat.le_refl _)
    -- the connection is still there, and open
    have inside : index < (start.after (.connect :: events)).connections.length := by
      refine Nat.lt_of_lt_of_le ?_ (opened.length_le_after events)
      change index < (start.connections ++ [_]).length
      rw [List.length_append]
      exact Nat.lt_succ_self index
    have found := List.getElem?_eq_getElem inside
    generalize (start.after (.connect :: events)).connections[index] = connection at found
    have isOpen : connection.isOpen = true := by
      apply fit.open_after regularAll spares _ stays found
      intro other present
      rw [unborn] at present
      cases present
    obtain ⟨accounted, idle_iff⟩ :=
      fit.account_of_spared regularAll unborn attached spared found isOpen
    obtain ⟨begins, whole_iff⟩ := answered_of_accounted accounted isOpen all
    rw [← world_eq] at idle_iff found
    have settled_iff : answered = asked frames ↔ settled := whole_iff.trans idle_iff
    have same : reached.1.connection = index := connection_live swept begun happenings
    rw [← same] at found
    obtain ⟨finished, last, present, isClosed, written⟩ :=
      closed_live sweptLast unfinished failed found later
    rw [same] at present
    have replies : last.written = given.map Answer.frame := written.trans accounted.written
    refine ⟨last, present, finished, isClosed, replies, begins, settled_iff, fun done => ?_⟩
    rw [replies]
    apply getLast?_of_answered (settled_iff.mpr done)
    intro answer member frame reply
    exact frame_of_answers member reply

/-- A request for the number of keys, and octets behind it that are no frame. -/
def countThenNoise : Bytes :=
  Bytes.ofText "*1\r\n$6\r\nDBSIZE\r\n?oops\r\n"

theorem refused_countThenNoise :
    Frame.Refused Frame.defaultLimit countThenNoise [Command.requestFrame "DBSIZE" []]
      (.unknownType 63) := by
  have octets : countThenNoise =
      [42, 49, 13, 10, 36, 54, 13, 10, 68, 66, 83, 73, 90, 69, 13, 10, 63, 111, 111, 112, 115,
        13, 10] := by decide +kernel
  have request : Command.requestFrame "DBSIZE" [] = .array [.bulk [68, 66, 83, 73, 90, 69]] := rfl
  rw [octets, request]
  have failed : Frame.decode? [63, 111, 111, 112, 115, 13, 10] = .error (.unknownType 63) := by cbv
  refine .behind (Frame.bufferedWithin_of_length (by decide)) (by cbv) ?_
  exact .here (Frame.bufferedWithin_of_length (by decide)) failed (by rintro ⟨⟩)

/-- The job of the count ends before the loop takes its last turn: both replies are written. -/
theorem count_then_refusal_answered :
    let opened := ((World.start none false).step .connect).1
    let happenings : List Happening := [.octets countThenNoise, .turn, .turn, .event (.run 0)]
    let reached := (Handler.new 0 Frame.defaultLimit).live opened happenings
    let final := reached.1.live reached.2 [.turn]
    ∃ last, final.2.connections[0]? = some last ∧ last.isOpen = false
      ∧ last.written.length = 2 ∧ last.written.getLast? = some improperlyFormatted := by
  intro opened happenings reached final
  have whole : received happenings ++ [] = countThenNoise := by simp [happenings, received]
  have refused : Frame.Refused Frame.defaultLimit (received happenings ++ [])
      [Command.requestFrame "DBSIZE" []] (.unknownType 63) := whole ▸ refused_countThenNoise
  have elsewhere : ∀ event, .event event ∈ happenings → event.isElsewhere 0 = true := by
    intro event member
    simp only [happenings, List.mem_cons, reduceCtorEq, Happening.event.injEq, List.not_mem_nil,
      or_false, false_or] at member
    rw [member]
    rfl
  obtain ⟨-, ends⟩ :=
    @refused_frame_answered_iff (Services.start none false) rfl [] nofun _ _ _ happenings [] refused
      elsewhere
  obtain ⟨last, found, -, isClosed, written, -, all, echo⟩ :=
    ends (by decide +kernel) (by decide +kernel) (by decide +kernel) (by decide +kernel) []
  have settled : reached.2.services.jobsOf 0 = [] := by decide +kernel
  refine ⟨last, found, isClosed, ?_, echo settled⟩
  have answered := congrArg List.length (all.mpr settled)
  rw [List.length_map] at answered
  rw [written, List.length_map, answered]
  rfl

/-- The loop takes its last turn before the job of the count ends: neither reply is ever written. -/
theorem count_then_refusal_lost :
    let opened := ((World.start none false).step .connect).1
    let happenings : List Happening :=
      [.octets countThenNoise, .turn, .turn, .turn, .event (.run 0)]
    let final := (Handler.new 0 Frame.defaultLimit).live opened happenings
    Frame.Refused Frame.defaultLimit countThenNoise [Command.requestFrame "DBSIZE" []]
        (.unknownType 63)
      ∧ final.1.finished = true ∧ final.2.services.jobs = []
      ∧ final.2.connections.map (fun connection => (connection.isOpen, connection.written)) =
        [(false, [])] := by
  intro opened happenings final
  exact ⟨refused_countThenNoise, by decide +kernel, by decide +kernel, by decide +kernel⟩

end Handler

end RespServer
