import RespServer.Proofs.Replay

/-!
Contract: a connection with a queue mirrors one that answers each arrival at once.

Owns:
- that a turn of the queue is the replay of an arrival;
- `Mirrors`, how a session stands to the session that has already answered everything, and that
  draining and every input keep it.

Does not own: whole runs (`Proofs.Refinement`).

While a command is in flight, the session that answers at once is ahead: it has done the work and
has answered what waits. It is what finishing the work now and replaying the queue leads to.
-/

namespace RespServer

namespace Session

/-! ## A turn is the replay of an arrival -/

theorem write_endCommand (session : Session) (kind : CommandKind) (frame : Frame) :
    (session.endCommand kind).write frame = (session.write frame).endCommand kind := by
  unfold write
  rw [connection_endCommand]
  split <;> rfl

theorem fail_endCommand {session : Session} (kind : CommandKind)
    (unstarted : ∀ waiting ∈ session.connection.queue, waiting.startedKind? = none)
    (cause : Failure) :
    (session.endCommand kind).fail cause = (session.fail cause).endCommand kind := by
  unfold fail
  split
  · unfold close
    rw [connection_endCommand]
    split
    · rw [endStarted_of_unstarted _ unstarted, endStarted_of_unstarted _ unstarted]
      rfl
    · rfl
  · exact write_endCommand session kind cause.reply

/-- The outcome of deferred work that is done at once. -/
def outcomeOf (result : WorkResult) : Outcome :=
  match result.report with
  | some (.ok frame) => .reply frame
  | some (.error cause) => .failed cause
  | none => .aborted .endlessSearch

theorem performAtOnce_eq_perform (session : Session) {command : Command}
    (atOnce : command.kind.isDeferred = false) :
    session.performAtOnce command = session.perform command := by
  have ending := (Command.settles_execute atOnce
    ⟨session.services, session.connection.authenticated⟩).isAtOnce
  rw [perform_atOnce session atOnce, performAtOnce]
  cases outcome :
      (command.execute ⟨session.services, session.connection.authenticated⟩).1 with
  | deferred work =>
      rw [outcome] at ending
      cases ending
  | reply | failed | aborted =>
      dsimp only
      rw [outcome]

theorem answerAtOnce_eq_answer (session : Session) {command : Command}
    (atOnce : command.kind.isDeferred = false) :
    session.answerAtOnce command = session.answer command := by
  rw [answerAtOnce_eq, answer_eq]
  cases session.gate? command.kind with
  | some rejection => rfl
  | none =>
      dsimp only
      rw [performAtOnce_eq_perform _ atOnce]

theorem performAtOnce_of_failed {session : Session} {command : Command} {cause : Failure}
    (ran : command.execute ⟨session.services, session.connection.authenticated⟩ =
      (.failed cause, ⟨session.services, session.connection.authenticated⟩)) :
    session.performAtOnce command = (.failed cause, session) := by
  rw [performAtOnce, ran]

/-- Work that would be left to the pool is done on the spot. -/
theorem performAtOnce_of_deferred {session : Session} {command : Command} {work : Work}
    (ran : command.execute ⟨session.services, session.connection.authenticated⟩ =
      (.deferred work, ⟨session.services, session.connection.authenticated⟩)) :
    session.performAtOnce command =
      (outcomeOf (work.run session.services.store).1,
        session.withStore (work.run session.services.store).2) := by
  rw [performAtOnce, ran]
  unfold outcomeOf
  dsimp only
  cases (work.run session.services.store).1.report with
  | none => rfl
  | some completion => cases completion <;> rfl

theorem withStore_of_noJobs {session : Session} (noJobs : session.services.jobs = [])
    (work : Work) :
    session.withStore (work.run session.services.store).2 = session.worked work := by
  unfold worked withStore
  rw [← noJobs]

/-- Concluding with the outcome of deferred work is answering with its completion. -/
theorem conclude_outcomeOf {session : Session} (alone : session.withQueue [] = session)
    {command : Command} (started : command.started = true) (notQuit : command.kind ≠ .quit)
    (result : WorkResult) :
    whole? ((session.endCommand command.kind).conclude command.kind (outcomeOf result)) =
      result.report.map fun completion => session.settleHead command [] completion := by
  unfold outcomeOf settleHead
  rw [alone]
  cases result.report with
  | none => rfl
  | some completion =>
      rw [Option.map_some]
      cases completion with
      | ok frame =>
          dsimp only
          rw [conclude, if_neg notQuit, if_pos started, write_endCommand]
          rfl
      | error cause =>
          have unstarted : ∀ waiting ∈ session.connection.queue, waiting.startedKind? = none := by
            rw [← alone]
            exact List.forall_mem_nil _
          dsimp only
          rw [conclude, if_pos started, fail_endCommand _ unstarted]
          rfl

section Turns

variable {session next : Session} {rest : List Waiting}

theorem replayOne?_of_write (nextId : CommandId) (frame : Frame) :
    some ((session.sequential nextId).write frame) =
      some (((session.withQueue rest).write frame).sequential nextId) := by
  rw [← write_sequential]
  rfl

theorem answerAtOnce_of_answered_atOnce
    (unstarted : ∀ waiting ∈ rest, waiting.startedKind? = none) {command : Command}
    (atOnce : command.kind.isDeferred = false)
    (taken : session.takeUp (.command command) rest = .answered next) (nextId : CommandId) :
    whole? ((session.sequential nextId).answerAtOnce command) = some (next.sequential nextId) := by
  rw [takeUp, if_neg (Bool.eq_false_iff.mp atOnce)] at taken
  have answered : whole? ((session.withQueue rest).answer command) = some next := by
    rcases reached : (session.withQueue rest).answer command with ⟨reached, abort⟩
    rw [reached] at taken
    cases abort with
    | none =>
        cases taken
        rfl
    | some reason => cases taken
  have alone : session.sequential nextId = (session.withQueue rest).sequential nextId := rfl
  rw [alone, answerAtOnce_sequential nextId unstarted, answerAtOnce_eq_answer _ atOnce, answered]
  rfl

theorem startCommand_sequential_eq_withHead (session : Session) (nextId : CommandId)
    (command : Command) (rest : List Waiting) :
    (session.sequential nextId).startCommand command.kind =
      (session.withHead command rest).sequential nextId :=
  rfl

/-- A command of a deferred kind that is answered in its turn was rejected or has failed. -/
theorem answerAtOnce_of_answered_deferred
    (unstarted : ∀ waiting ∈ rest, waiting.startedKind? = none) {command : Command}
    (deferred : command.kind.isDeferred = true)
    (taken : session.takeUp (.command command) rest = .answered next) (nextId : CommandId) :
    whole? ((session.sequential nextId).answerAtOnce command) = some (next.sequential nextId) := by
  have sameGate : (session.sequential nextId).gate? command.kind = session.gate? command.kind := rfl
  have beginning := beginning_begin session rest deferred
  rw [takeUp, if_pos deferred] at taken
  rw [taken] at beginning
  rw [answerAtOnce_eq, sameGate]
  cases beginning with
  | @rejected rejection gate =>
      rw [gate]
      exact replayOne?_of_write nextId rejection
  | @failed cause gate ran =>
      have alone : (session.withHead command rest).sequential nextId =
          ((session.withHead command rest).withQueue rest).sequential nextId := rfl
      have unstartedRest :
          ∀ waiting ∈ ((session.withHead command rest).withQueue rest).connection.queue,
            waiting.startedKind? = none := unstarted
      rw [gate]
      dsimp only
      rw [startCommand_sequential_eq_withHead session nextId command rest,
        performAtOnce_sequential, performAtOnce_of_failed ran, conclude,
        fail_endCommand _ (List.forall_mem_nil _)]
      dsimp only
      rw [alone, fail_sequential nextId unstartedRest]
      rfl

/-- An arrival that was answered in its turn is answered the same in a replay. -/
theorem replayOne?_of_answered (isOpen : session.connection.isOpen = true)
    (unstarted : ∀ waiting ∈ rest, waiting.startedKind? = none) {arrival : Waiting}
    (taken : session.takeUp arrival rest = .answered next) (nextId : CommandId) :
    (session.sequential nextId).replayOne? arrival = some (next.sequential nextId) := by
  have stillOpen : (session.sequential nextId).connection.isOpen = true := isOpen
  cases arrival with
  | reply frame =>
      cases taken
      exact replayOne?_of_write nextId frame
  | command command =>
      rw [replayOne?, if_pos stillOpen]
      cases kindOf : command.kind.isDeferred with
      | false => exact answerAtOnce_of_answered_atOnce unstarted kindOf taken nextId
      | true => exact answerAtOnce_of_answered_deferred unstarted kindOf taken nextId

theorem replayOne?_of_deferred (isOpen : session.connection.isOpen = true)
    (noJobs : session.services.jobs = []) {command : Command} {work : Work}
    (deferred : command.kind.isDeferred = true) (gate : session.gate? command.kind = none)
    (ran : command.execute
        ⟨(session.withHead command rest).services, session.connection.authenticated⟩ =
      (.deferred work,
        ⟨(session.withHead command rest).services, session.connection.authenticated⟩))
    (nextId : CommandId) :
    (session.sequential nextId).replayOne? (.command command) =
      (((session.withHead command rest).withJob command work).sequential nextId).finish?
        { command with started := true } work := by
  have stillOpen : (session.sequential nextId).connection.isOpen = true := isOpen
  have sameGate : (session.sequential nextId).gate? command.kind = session.gate? command.kind := rfl
  have noJobsNow : (session.withHead command rest).services.jobs = [] := noJobs
  have startedNow : ({ command with started := true } : Command).started = true := rfl
  have notQuit : command.kind ≠ .quit := by
    intro quits
    rw [quits] at deferred
    cases deferred
  rw [replayOne?, if_pos stillOpen, answerAtOnce_eq, sameGate, gate]
  dsimp only
  rw [startCommand_sequential_eq_withHead session nextId command rest, performAtOnce_sequential,
    performAtOnce_of_deferred ran, withStore_of_noJobs noJobsNow]
  exact conclude_outcomeOf rfl startedNow notQuit _

/-- An arrival that is in flight is finished in a replay as its work will finish it. -/
theorem replayOne?_of_inFlight (isOpen : session.connection.isOpen = true)
    (noJobs : session.services.jobs = []) {arrival : Waiting}
    (taken : session.takeUp arrival rest = .inFlight next) :
    ∃ command work, next.connection.isOpen = true
      ∧ next.connection.queue = .command command :: rest
      ∧ command.started = true
      ∧ next.services.jobs = [⟨next.connection.index, command.id, work⟩]
      ∧ ∀ nextId, (session.sequential nextId).replayOne? arrival =
          (next.sequential nextId).finish? command work := by
  cases arrival with
  | reply frame => cases taken
  | command command =>
      cases kindOf : command.kind.isDeferred with
      | false =>
          rw [takeUp, if_neg (Bool.eq_false_iff.mp kindOf)] at taken
          split at taken <;> cases taken
      | true =>
          have beginning := beginning_begin session rest kindOf
          rw [takeUp, if_pos kindOf] at taken
          rw [taken] at beginning
          cases beginning with
          | @deferred work gate ran =>
              refine ⟨{ command with started := true }, work, isOpen, rfl, rfl, ?_, ?_⟩
              · show session.services.jobs ++ _ = _
                rw [noJobs]
                rfl
              · intro nextId
                exact replayOne?_of_deferred isOpen noJobs kindOf gate ran nextId

end Turns

/-! ## Numbers -/

theorem nextId_write (session : Session) (frame : Frame) :
    (session.write frame).connection.nextId = session.connection.nextId := by
  unfold write
  split <;> rfl

theorem nextId_close (session : Session) :
    session.close.connection.nextId = session.connection.nextId := by
  unfold close
  split <;> rfl

theorem nextId_fail (session : Session) (cause : Failure) :
    (session.fail cause).connection.nextId = session.connection.nextId := by
  unfold fail
  split
  · exact nextId_close session
  · exact nextId_write session cause.reply

theorem nextId_conclude (session : Session) (kind : CommandKind) (outcome : Outcome) :
    (session.conclude kind outcome).1.connection.nextId = session.connection.nextId := by
  cases outcome with
  | reply frame =>
      unfold conclude
      dsimp only
      split
      · rw [nextId_close, nextId_write]
      · exact nextId_write session frame
  | failed cause => exact nextId_fail session cause
  | deferred | aborted => rfl

theorem nextId_answer (session : Session) (command : Command) :
    (session.answer command).1.connection.nextId = session.connection.nextId := by
  rw [answer_eq]
  split
  · exact nextId_write session _
  · exact nextId_conclude _ _ _

theorem nextId_begin (session : Session) {command : Command}
    (deferred : command.kind.isDeferred = true) (rest : List Waiting) :
    (session.begin command rest).session.connection.nextId = session.connection.nextId := by
  have beginning := beginning_begin session rest deferred
  generalize session.begin command rest = begun at beginning ⊢
  cases beginning with
  | rejected gate => exact nextId_write (session.withQueue rest) _
  | failed gate ran => exact nextId_fail ((session.withHead command rest).withQueue rest) _
  | deferred gate ran => rfl

theorem nextId_takeUp (session : Session) (arrival : Waiting) (rest : List Waiting) :
    (session.takeUp arrival rest).session.connection.nextId = session.connection.nextId := by
  cases arrival with
  | reply frame => exact nextId_write (session.withQueue rest) frame
  | command command =>
      rw [takeUp]
      split
      · exact nextId_begin session ‹_› rest
      · have answered := nextId_answer (session.withQueue rest) command
        split <;> rename_i reached <;> rw [reached] at answered <;> exact answered

/-! ## Mirrors -/

/-- How a session stands to the one that answers every arrival at once: the same if nothing is in
flight, and otherwise behind by the work in flight and by what waits. -/
inductive Mirrors (session : Session) (ahead : Option Session) : Prop where
  | idle (queue : session.connection.queue = []) (noJobs : session.services.jobs = [])
      (same : ahead = some session) : Mirrors session ahead
  | inFlight {command : Command} {rest : List Waiting} {work : Work}
      (isOpen : session.connection.isOpen = true)
      (queue : session.connection.queue = .command command :: rest)
      (started : command.started = true)
      (unstarted : ∀ waiting ∈ rest, waiting.startedKind? = none)
      (job : session.services.jobs = [⟨session.connection.index, command.id, work⟩])
      (same : ahead = (session.finish? command work).bind (replay? rest)) : Mirrors session ahead

theorem sequential_self {session : Session} (alone : session.connection.queue = []) :
    session.sequential session.connection.nextId = session := by
  unfold sequential
  rw [← alone]

theorem finish?_self (session : Session) (command : Command) (work : Work) :
    (session.sequential session.connection.nextId).finish? command work =
      session.finish? command work :=
  rfl

/-- Draining a queue without a break replays it. -/
theorem mirrors_drain (queue : List Waiting) {session next : Session}
    (isOpen : session.connection.isOpen = true) (noJobs : session.services.jobs = [])
    (unstarted : ∀ waiting ∈ queue, waiting.startedKind? = none)
    (drained : drain queue session = (next, none)) :
    next.Mirrors (replay? queue (session.sequential session.connection.nextId)) := by
  induction queue generalizing session with
  | nil =>
      cases drained
      exact .idle rfl noJobs rfl
  | cons arrival rest inductionHypothesis =>
      have unstartedRest := (List.forall_mem_cons.mp unstarted).2
      have turn := turn_takeUp isOpen arrival rest
      have sameNumber := nextId_takeUp session arrival rest
      rw [drain_cons isOpen] at drained
      rw [replay?]
      cases taken : session.takeUp arrival rest with
      | answered reached =>
          rw [taken] at turn drained sameNumber
          have sameNumber : reached.connection.nextId = session.connection.nextId := sameNumber
          rw [replayOne?_of_answered isOpen unstartedRest taken, Option.bind_some, ← sameNumber]
          cases turn with
          | answered reply advances stillOpen left =>
              have noJobsNow : reached.services.jobs = [] := by
                rw [advances.jobs, noJobs]
                rfl
              dsimp only at drained
              rw [if_pos stillOpen] at drained
              exact inductionHypothesis stillOpen noJobsNow unstartedRest drained
          | closed advances isClosed left =>
              have noJobsNow : reached.services.jobs = [] := by
                rw [advances.jobs, noJobs]
                rfl
              dsimp only at drained
              rw [if_neg (Bool.eq_false_iff.mp isClosed)] at drained
              cases drained
              rw [sequential_self left]
              exact .idle left noJobsNow (replay?_of_closed rest isClosed)
      | inFlight reached =>
          rw [taken] at drained sameNumber
          cases drained
          have sameNumber : next.connection.nextId = session.connection.nextId := sameNumber
          obtain ⟨command, work, stillOpen, left, started, job, finishes⟩ :=
            replayOne?_of_inFlight isOpen noJobs taken
          rw [finishes, ← sameNumber, finish?_self]
          exact .inFlight stillOpen left started unstartedRest job rfl
      | aborted reached reason =>
          rw [taken] at drained
          cases drained

theorem sequential_of_finish? {session reached : Session} {command : Command} {work : Work}
    (done : session.finish? command work = some reached) :
    reached.sequential session.connection.nextId = reached := by
  have finished := finish?_sequential session session.connection.nextId command work
  rw [finish?_self, done] at finished
  exact (Option.some.inj finished).symm

/-- The session that is ahead has nothing waiting and the same next number. -/
theorem Mirrors.alone {session : Session} {ahead : Option Session}
    (mirrors : session.Mirrors ahead) :
    ahead.map (·.sequential session.connection.nextId) = ahead := by
  cases mirrors with
  | idle queue noJobs same =>
      rw [same, Option.map_some, sequential_self queue]
  | @inFlight command rest work isOpen queue started unstarted job same =>
      rw [same]
      cases done : session.finish? command work with
      | none => rfl
      | some reached =>
          rw [Option.bind_some, ← sequential_of_finish? done]
          exact (replay?_sequential rest reached _ _).symm

theorem Mirrors.bind_congr {session : Session} {ahead : Option Session}
    (mirrors : session.Mirrors ahead) {first second : Session → Option Session}
    (agree : ∀ reached, reached.sequential session.connection.nextId = reached →
      first reached = second reached) : ahead.bind first = ahead.bind second := by
  have alone := mirrors.alone
  cases ahead with
  | none => rfl
  | some reached => exact agree reached (Option.some.inj alone)

theorem Mirrors.of_idle {session : Session} {ahead : Option Session}
    (mirrors : session.Mirrors ahead) (idle : session.connection.queue = []) :
    session.services.jobs = [] ∧ ahead = some session := by
  cases mirrors with
  | idle queue noJobs same => exact ⟨noJobs, same⟩
  | inFlight isOpen queue started behind job same =>
      rw [idle] at queue
      cases queue

/-! ### Inputs -/

/-- An arrival that waits behind a command in flight is answered last by the session ahead. -/
theorem replay?_wait (arrivals : List Waiting) (arrival : Waiting) {session : Session}
    (command : Command) (work : Work) (nextId : CommandId) :
    ((session.sequential nextId).finish? command work).bind (replay? (arrivals ++ [arrival])) =
      ((session.finish? command work).bind (replay? arrivals)).bind fun reached =>
        (reached.sequential nextId).replayOne? arrival := by
  rw [finish?_sequential]
  cases done : session.finish? command work with
  | none => rfl
  | some reached =>
      rw [Option.map_some, Option.bind_some, Option.bind_some, replay?_append,
        replay?_sequential arrivals reached nextId session.connection.nextId,
        sequential_of_finish? done, Option.bind_map]
      rfl

theorem Mirrors.isOpen_of_busy {session : Session} {ahead : Option Session}
    (mirrors : session.Mirrors ahead) (busy : session.connection.queue ≠ []) :
    session.connection.isOpen = true := by
  cases mirrors with
  | idle queue noJobs same => exact absurd queue busy
  | inFlight isOpen queue started behind job same => exact isOpen

/-- What waits behind a command in flight is answered last by the session ahead. -/
theorem Mirrors.wait {session : Session} {ahead : Option Session} (arrival : Waiting)
    (nextId : CommandId) (mirrors : session.Mirrors ahead) (busy : session.connection.queue ≠ [])
    (unstarted : arrival.startedKind? = none) :
    Session.Mirrors
      { session with
        connection :=
          { session.connection with
            queue := session.connection.queue ++ [arrival]
            nextId := nextId } }
      (ahead.bind fun reached => (reached.sequential nextId).replayOne? arrival) := by
  cases mirrors with
  | idle queue noJobs same => exact absurd queue busy
  | @inFlight command rest work isOpen queue started behind job same =>
      have longer : session.connection.queue ++ [arrival] =
          .command command :: (rest ++ [arrival]) := by
        rw [queue]
        rfl
      refine .inFlight isOpen longer started ?_ job ?_
      · exact List.forall_mem_append.mpr ⟨behind, List.forall_mem_singleton.mpr unstarted⟩
      · rw [same, ← replay?_wait]
        rfl

/-- A command that arrives leads both sessions on. -/
theorem Mirrors.receive {session next : Session} {ahead : Option Session}
    (mirrors : session.Mirrors ahead) {arrived : Command} (fresh : arrived.started = false)
    (received : session.receive arrived = (next, none)) :
    next.Mirrors (ahead.bind fun reached => whole? (reached.handle (.command arrived))) := by
  have unstarted : (Waiting.command (session.numbered arrived)).startedKind? = none := by
    rw [Waiting.startedKind?, numbered, fresh]
    rfl
  by_cases idle : session.connection.queue = []
  · have counted : session.countCommand.connection.queue = [] := idle
    obtain ⟨noJobs, same⟩ := mirrors.of_idle idle
    rw [same, Option.bind_some, whole?_handle_command]
    cases openness : session.connection.isOpen with
    | false =>
        have ignored : session.countCommand.replayOne? (.command (session.numbered arrived)) =
            some session.countCommand := if_neg (Bool.eq_false_iff.mp openness)
        rw [receive_of_closed openness] at received
        cases received
        exact .idle counted noJobs ignored
    | true =>
        have countedOpen : session.countCommand.connection.isOpen = true := openness
        have countedJobs : session.countCommand.services.jobs = [] := noJobs
        rw [receive_idle openness idle] at received
        rw [← replay?_singleton, ← sequential_self counted]
        exact mirrors_drain _ countedOpen countedJobs (List.forall_mem_singleton.mpr unstarted)
          received
  · have isOpen := mirrors.isOpen_of_busy idle
    have later : ahead.bind (fun reached => whole? (reached.handle (.command arrived))) =
        ahead.bind fun reached =>
          (reached.sequential (session.connection.nextId + 1)).replayOne?
            (.command (session.numbered arrived)) := by
      apply mirrors.bind_congr
      intro reached settled
      rw [whole?_handle_command, ← settled]
      rfl
    rw [receive_busy isOpen idle] at received
    cases received
    rw [later]
    exact mirrors.wait _ (session.connection.nextId + 1) idle unstarted

/-- A failure that is reported leads both sessions on. -/
theorem Mirrors.report {session : Session} {ahead : Option Session}
    (mirrors : session.Mirrors ahead) {cause : Failure} (whole : cause.isIo = false) :
    (session.report cause).Mirrors
      (ahead.bind fun reached => whole? (reached.handle (.failure cause))) := by
  have notIo : ¬ cause.isIo = true := Bool.eq_false_iff.mp whole
  by_cases idle : session.connection.queue = []
  · have written : session.report cause = session.write cause.reply := by
      rw [Session.report, if_neg notIo, if_pos idle]
    obtain ⟨noJobs, same⟩ := mirrors.of_idle idle
    rw [written, same, Option.bind_some, whole?_handle_failure _ whole]
    refine .idle ?_ ?_ rfl
    · rw [queue_write]
      exact idle
    · rw [services_write]
      exact noJobs
  · have queued : session.report cause = session.enqueue (.reply cause.reply) := by
      rw [Session.report, if_neg notIo, if_neg idle]
    have later : ahead.bind (fun reached => whole? (reached.handle (.failure cause))) =
        ahead.bind fun reached =>
          (reached.sequential session.connection.nextId).replayOne? (.reply cause.reply) := by
      apply mirrors.bind_congr
      intro reached settled
      rw [whole?_handle_failure _ whole, settled]
    rw [queued, later]
    exact mirrors.wait _ session.connection.nextId idle rfl

theorem nextId_settleHead (session : Session) (command : Command) (rest : List Waiting)
    (result : Except Failure Frame) :
    (session.settleHead command rest result).connection.nextId = session.connection.nextId := by
  unfold settleHead
  cases result with
  | ok frame =>
      dsimp only
      split
      · exact nextId_write (session.withQueue rest) frame
      · exact nextId_write (session.withQueue rest) frame
  | error cause =>
      dsimp only
      split
      · exact nextId_fail (session.withQueue rest) cause
      · exact nextId_fail (session.withQueue rest) cause

theorem Mirrors.emptied {session : Session} {ahead : Option Session}
    (mirrors : session.Mirrors ahead) (isClosed : session.connection.isOpen = false) :
    session.connection.queue = [] := by
  cases mirrors with
  | idle queue noJobs same => exact queue
  | inFlight isOpen queue started behind job same => exact absurd isOpen (by simp [isClosed])

/-- The completion of the work in flight brings a session up to the one ahead, as far as nothing
else is in flight. -/
theorem mirrors_complete {session next : Session} {command : Command} {rest : List Waiting}
    {work : Work} (isOpen : session.connection.isOpen = true)
    (queue : session.connection.queue = .command command :: rest)
    (unstarted : ∀ waiting ∈ rest, waiting.startedKind? = none) {completion : Except Failure Frame}
    (report : (work.run session.services.store).1.report = some completion)
    (completed : (session.worked work).complete command.id completion = (next, none)) :
    next.Mirrors ((session.finish? command work).bind (replay? rest)) := by
  let worked := session.worked work
  have head : takeHead? command.id worked.connection.queue = some (command, rest) := by
    show takeHead? command.id session.connection.queue = some (command, rest)
    rw [queue, takeHead?, if_pos rfl]
  have workedOpen : worked.connection.isOpen = true := isOpen
  have settled : worked.settleHead command [] completion =
      (worked.settleHead command rest completion).sequential worked.connection.nextId :=
    settleHead_sequential worked worked.connection.nextId command unstarted completion
  rw [complete_inTurn workedOpen head] at completed
  rw [finish?, report, Option.map_some, Option.bind_some, settled,
    ← nextId_settleHead worked command rest completion]
  cases reply : completionReply? completion with
  | none =>
      obtain ⟨advances, isClosed, left⟩ := settleHead_of_broken workedOpen command rest reply
      rw [if_neg (Bool.eq_false_iff.mp isClosed)] at completed
      cases completed
      rw [sequential_self left]
      exact .idle left advances.jobs (replay?_of_closed rest isClosed)
  | some frame =>
      obtain ⟨advances, stillOpen⟩ := settleHead_of_reply workedOpen command rest reply
      rw [if_pos stillOpen] at completed
      exact mirrors_drain rest stillOpen advances.jobs unstarted completed

end Session

end RespServer
