import RespServer.Proofs.Delivery
import RespServer.Server.Sequential

/-!
Contract: answering arrivals one at a time.

Owns:
- `sequential`, a session with nothing waiting, and that answering an arrival does not see the
  difference;
- `replay?`, answering what waits one arrival at a time, and `finish?`, doing deferred work on the
  spot.

Does not own: that the queue is answered to the same effect (`Proofs.Mirror`).
-/

namespace RespServer

namespace Session

/-- The session of a step that did not break off. -/
def whole? : Progress → Option Session
  | (session, none) => some session
  | (_, some _) => none

/-- The session as it is for one that does one thing at a time: nothing waits. -/
def sequential (session : Session) (nextId : CommandId) : Session :=
  { session with connection := { session.connection with queue := [], nextId := nextId } }

/-! ## What a queue that was not started does not change -/

theorem startCommand_sequential (session : Session) (nextId : CommandId) (kind : CommandKind) :
    (session.sequential nextId).startCommand kind =
      (session.startCommand kind).sequential nextId :=
  rfl

theorem endCommand_sequential (session : Session) (nextId : CommandId) (kind : CommandKind) :
    (session.sequential nextId).endCommand kind = (session.endCommand kind).sequential nextId :=
  rfl

theorem write_sequential (session : Session) (nextId : CommandId) (frame : Frame) :
    (session.sequential nextId).write frame = (session.write frame).sequential nextId := by
  unfold write sequential
  dsimp only
  split <;> rfl

theorem endStarted_of_unstarted (statistics : Statistics) {queue : List Waiting}
    (unstarted : ∀ waiting ∈ queue, waiting.startedKind? = none) :
    endStarted statistics queue = statistics := by
  have nothing : queue.filterMap Waiting.startedKind? = [] :=
    List.filterMap_eq_nil_iff.mpr unstarted
  rw [endStarted, nothing]
  rfl

theorem close_sequential {session : Session} (nextId : CommandId)
    (unstarted : ∀ waiting ∈ session.connection.queue, waiting.startedKind? = none) :
    (session.sequential nextId).close = session.close.sequential nextId := by
  unfold close sequential
  dsimp only
  split
  · rw [endStarted_of_unstarted _ unstarted]
    rfl
  · rfl

theorem fail_sequential {session : Session} (nextId : CommandId)
    (unstarted : ∀ waiting ∈ session.connection.queue, waiting.startedKind? = none)
    (cause : Failure) :
    (session.sequential nextId).fail cause = (session.fail cause).sequential nextId := by
  unfold fail
  split
  · exact close_sequential nextId unstarted
  · exact write_sequential session nextId cause.reply

theorem conclude_sequential {session : Session} (nextId : CommandId)
    (unstarted : ∀ waiting ∈ session.connection.queue, waiting.startedKind? = none)
    (kind : CommandKind) (outcome : Outcome) :
    whole? ((session.sequential nextId).conclude kind outcome) =
      (whole? (session.conclude kind outcome)).map (·.sequential nextId) := by
  cases outcome with
  | reply frame =>
      unfold conclude
      dsimp only
      rw [write_sequential]
      split
      · have unstartedAfter :
            ∀ waiting ∈ (session.write frame).connection.queue, waiting.startedKind? = none := by
          rw [queue_write]
          exact unstarted
        rw [close_sequential nextId unstartedAfter]
        rfl
      · rfl
  | deferred work => rfl
  | failed cause =>
      unfold conclude
      dsimp only
      rw [fail_sequential nextId unstarted]
      rfl
  | aborted reason => rfl

theorem performAtOnce_sequential (session : Session) (nextId : CommandId) (command : Command) :
    (session.sequential nextId).performAtOnce command =
      ((session.performAtOnce command).1,
        (session.performAtOnce command).2.sequential nextId) := by
  unfold performAtOnce sequential
  dsimp only
  split
  · split <;> rfl
  · rfl

theorem answerAtOnce_eq (session : Session) (command : Command) :
    session.answerAtOnce command =
      match session.gate? command.kind with
      | some rejection => (session.write rejection, none)
      | none =>
          let performed := (session.startCommand command.kind).performAtOnce command
          (performed.2.endCommand command.kind).conclude command.kind performed.1 := by
  unfold answerAtOnce
  cases session.gate? command.kind with
  | some rejection => rfl
  | none =>
      rcases (session.startCommand command.kind).performAtOnce command with ⟨outcome, performed⟩
      cases outcome <;> rfl

theorem queue_performAtOnce (session : Session) (command : Command) :
    (session.performAtOnce command).2.connection.queue = session.connection.queue := by
  unfold performAtOnce
  dsimp only
  split
  · split <;> rfl
  · rfl

/-- Answering a command does not see what waits behind it. -/
theorem answerAtOnce_sequential {session : Session} (nextId : CommandId)
    (unstarted : ∀ waiting ∈ session.connection.queue, waiting.startedKind? = none)
    (command : Command) :
    whole? ((session.sequential nextId).answerAtOnce command) =
      (whole? (session.answerAtOnce command)).map (·.sequential nextId) := by
  have sameGate : (session.sequential nextId).gate? command.kind = session.gate? command.kind := rfl
  rw [answerAtOnce_eq, answerAtOnce_eq, sameGate]
  cases gate : session.gate? command.kind with
  | some rejection =>
      dsimp only
      rw [write_sequential]
      rfl
  | none =>
      dsimp only
      rw [startCommand_sequential, performAtOnce_sequential, endCommand_sequential]
      apply conclude_sequential nextId
      rw [connection_endCommand, queue_performAtOnce]
      exact unstarted

/-! ## Replays -/

/-- Answers an arrival at once; none if the answer breaks off. -/
def replayOne? (session : Session) : Waiting → Option Session
  | .reply frame => some (session.write frame)
  | .command command =>
      if session.connection.isOpen then whole? (session.answerAtOnce command) else some session

/-- Answers arrivals in order, each before the next is looked at. -/
def replay? : List Waiting → Session → Option Session
  | [], session => some session
  | arrival :: rest, session => (session.replayOne? arrival).bind (replay? rest)

/-- The session with another store. -/
def withStore (session : Session) (store : Store) : Session :=
  { session with services := { session.services with store := store } }

/-- The session after deferred work was done and has left the pool. -/
def worked (session : Session) (work : Work) : Session :=
  { session with
    services :=
      { session.services with store := (work.run session.services.store).2, jobs := [] } }

/-- Does deferred work at once and answers its command with the result; none if it never ends. -/
def finish? (session : Session) (command : Command) (work : Work) : Option Session :=
  (work.run session.services.store).1.report.map fun completion =>
    (session.worked work).settleHead command [] completion

theorem replayOne?_sequential (session : Session) (nextId : CommandId)
    (unstarted : ∀ waiting ∈ session.connection.queue, waiting.startedKind? = none)
    (arrival : Waiting) :
    (session.sequential nextId).replayOne? arrival =
      (session.replayOne? arrival).map (·.sequential nextId) := by
  cases arrival with
  | reply frame =>
      rw [replayOne?, replayOne?, write_sequential]
      rfl
  | command command =>
      have sameState : (session.sequential nextId).connection.isOpen = session.connection.isOpen :=
        rfl
      rw [replayOne?, replayOne?, sameState, answerAtOnce_sequential nextId unstarted]
      split <;> rfl

/-- Answering the head does not see what waits behind it. -/
theorem settleHead_sequential (session : Session) (nextId : CommandId) (command : Command)
    {rest : List Waiting} (unstarted : ∀ waiting ∈ rest, waiting.startedKind? = none)
    (result : Except Failure Frame) :
    (session.sequential nextId).settleHead command [] result =
      (session.settleHead command rest result).sequential nextId := by
  have unqueued : (session.sequential nextId).withQueue [] =
      (session.withQueue rest).sequential nextId := rfl
  have unstartedRest : ∀ waiting ∈ (session.withQueue rest).connection.queue,
      waiting.startedKind? = none := unstarted
  unfold settleHead
  rw [unqueued]
  cases result with
  | ok frame =>
      dsimp only
      rw [write_sequential]
      split <;> rfl
  | error cause =>
      dsimp only
      rw [fail_sequential nextId unstartedRest]
      split <;> rfl

theorem finish?_sequential (session : Session) (nextId : CommandId) (command : Command)
    (work : Work) :
    (session.sequential nextId).finish? command work =
      (session.finish? command work).map (·.sequential nextId) := by
  have sameStore : (session.sequential nextId).services = session.services := rfl
  have alone : (session.sequential nextId).worked work =
      (session.worked work).sequential nextId := rfl
  unfold finish?
  rw [sameStore, alone, Option.map_map]
  congr 1
  funext completion
  exact settleHead_sequential (session.worked work) nextId command (List.forall_mem_nil _)
    completion

/-- The number of the next command does not matter to a replay. -/
theorem replay?_sequential (arrivals : List Waiting) (session : Session)
    (nextId other : CommandId) :
    replay? arrivals (session.sequential nextId) =
      (replay? arrivals (session.sequential other)).map (·.sequential nextId) := by
  induction arrivals generalizing session with
  | nil => rfl
  | cons arrival rest inductionHypothesis =>
      have shifted : ∀ next : CommandId,
          (session.sequential next).replayOne? arrival =
            ((session.sequential other).replayOne? arrival).map (·.sequential next) :=
        fun next =>
          replayOne?_sequential (session.sequential other) next (List.forall_mem_nil _) arrival
      have settled := shifted other
      rw [replay?, replay?, shifted nextId]
      cases answered : (session.sequential other).replayOne? arrival with
      | none => rfl
      | some next =>
          rw [answered] at settled
          have alone : next = next.sequential other := Option.some.inj settled
          rw [Option.map_some, Option.bind_some, Option.bind_some, inductionHypothesis next,
            ← alone]

theorem replay?_singleton (arrival : Waiting) (session : Session) :
    replay? [arrival] session = session.replayOne? arrival := by
  show (session.replayOne? arrival).bind (replay? []) = session.replayOne? arrival
  cases session.replayOne? arrival <;> rfl

theorem replay?_append (arrivals : List Waiting) (arrival : Waiting) (session : Session) :
    replay? (arrivals ++ [arrival]) session =
      (replay? arrivals session).bind (·.replayOne? arrival) := by
  induction arrivals generalizing session with
  | nil =>
      exact replay?_singleton arrival session
  | cons first rest inductionHypothesis =>
      rw [List.cons_append, replay?, replay?]
      cases session.replayOne? first with
      | none => rfl
      | some next => exact inductionHypothesis next

theorem replay?_of_closed (arrivals : List Waiting) {session : Session}
    (isClosed : session.connection.isOpen = false) : replay? arrivals session = some session := by
  induction arrivals with
  | nil => rfl
  | cons arrival rest inductionHypothesis =>
      have ignored : session.replayOne? arrival = some session := by
        cases arrival with
        | reply frame => rw [replayOne?, write_of_closed isClosed]
        | command command => rw [replayOne?, if_neg (Bool.eq_false_iff.mp isClosed)]
      rw [replay?, ignored]
      exact inductionHypothesis

/-! ## Arrivals -/

/-- A command that arrives gets the next number and is answered, unless the connection is
closed. -/
theorem whole?_handle_command (session : Session) (arrived : Command) :
    whole? (session.handle (.command arrived)) =
      session.countCommand.replayOne? (.command (session.numbered arrived)) := by
  have sameState : session.countCommand.connection.isOpen = session.connection.isOpen := rfl
  rw [replayOne?, sameState]
  unfold handle
  dsimp only
  split <;> rfl

theorem whole?_handle_failure (session : Session) {cause : Failure}
    (whole : cause.isIo = false) :
    whole? (session.handle (.failure cause)) = session.replayOne? (.reply cause.reply) := by
  rw [handle, fail, if_neg (Bool.eq_false_iff.mp whole)]
  rfl

end Session

end RespServer
