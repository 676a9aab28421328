import RespServer.Proofs.Execution
import RespServer.Server.Dispatch

/-!
Contract: one turn of the queue, and the draining of a queue as a sequence of turns.

Owns:
- `takeUp`, the turn of one arrival, and `drain` in terms of it;
- `replyTo?`, the reply that an arrival gets in its turn, said without the queue;
- `Turn`, everything that a turn can lead to, and `Drained`, everything that draining can lead to.

Does not own: what arrives, and completions (`Proofs.Delivery`).

## Why turns

Replies leave from several places: gates, commands that are carried out at once, deferred commands
that fail before they are deferred, replies that were queued. All of them are turns, and every
statement about the queue is proved of one turn and carried over to `drain` by induction on the
queue.
-/

namespace RespServer

/-- The reply to a failure; a broken connection gets none. -/
def Failure.response? (cause : Failure) : Option Frame :=
  if cause.isIo then none else some cause.reply

/-- The reply that an outcome calls for at once, if any. -/
def Outcome.response? : Outcome → Option Frame
  | .reply frame => some frame
  | .failed cause => cause.response?
  | .deferred _ | .aborted _ => none

/-- The arrival before it was taken up. -/
def Waiting.asArrived : Waiting → Waiting
  | .command arrived => .command { arrived with started := false }
  | .reply frame => .reply frame

/-- An arrival that was answered, and the frame that answers it. -/
structure Answer where
  arrival : Waiting
  frame : Frame
deriving DecidableEq

namespace Session

/-! ## Turns -/

/-- The turn of an arrival, with the rest of the queue behind it. -/
def takeUp (session : Session) (arrival : Waiting) (rest : List Waiting) : Begun :=
  match arrival with
  | .reply frame => .answered ((session.withQueue rest).write frame)
  | .command command =>
      if command.kind.isDeferred then session.begin command rest
      else
        match (session.withQueue rest).answer command with
        | (next, none) => .answered next
        | (next, some reason) => .aborted next reason

/-- The session that taking up an arrival leads to. -/
def Begun.session : Begun → Session
  | .inFlight next | .answered next | .aborted next _ => next

/-- The reply that an arrival gets in its turn: the rejection of a gate, or what carrying the
command out yields. A command whose work is deferred gets none yet. -/
def replyTo? (session : Session) : Waiting → Option Frame
  | .reply frame => some frame
  | .command command =>
      match session.gate? command.kind with
      | some rejection => some rejection
      | none =>
          (command.execute
            ⟨session.services.startCommand command.kind,
              session.connection.authenticated⟩).1.response?

/-- The end of a command that was carried out at once; the end of the connection is answered
first. -/
def conclude (session : Session) (kind : CommandKind) : Outcome → Progress
  | .reply frame =>
      (if kind = .quit then (session.write frame).close else session.write frame, none)
  | .deferred _ => (session, none)
  | .failed cause => (session.fail cause, none)
  | .aborted reason => (session, some reason)

theorem answer_eq (session : Session) (command : Command) :
    session.answer command =
      match session.gate? command.kind with
      | some rejection => (session.write rejection, none)
      | none =>
          let performed := (session.startCommand command.kind).perform command
          (performed.2.endCommand command.kind).conclude command.kind performed.1 := by
  unfold answer
  cases session.gate? command.kind with
  | some rejection => rfl
  | none =>
      rcases (session.startCommand command.kind).perform command with ⟨outcome, performed⟩
      cases outcome <;> rfl

/-- Draining is taking up the head and, if it was answered and the connection is still open, the
rest. -/
theorem drain_cons {session : Session} (isOpen : session.connection.isOpen = true)
    (arrival : Waiting) (rest : List Waiting) :
    drain (arrival :: rest) session =
      match session.takeUp arrival rest with
      | .inFlight next => (next, none)
      | .answered next => if next.connection.isOpen then drain rest next else (next, none)
      | .aborted next reason => (next, some reason) := by
  cases arrival with
  | reply frame =>
      have stillOpen : ((session.withQueue rest).write frame).connection.isOpen = true := by
        unfold write withQueue
        split <;> exact isOpen
      rw [drain, takeUp]
      exact (if_pos stillOpen).symm
  | command command =>
      rw [drain, takeUp]
      split
      · rfl
      · split <;> rename_i outcome <;> rw [outcome]

/-! ## What sessions pass on -/

/-- The second session follows the first: it wrote these replies, submitted these jobs, and
edited the store. -/
structure Advances (before after : Session) (replies : List Frame) (submitted : List Job) :
    Prop where
  index : after.connection.index = before.connection.index
  listening : after.connection.listening = before.connection.listening
  written : after.connection.written =
    before.connection.written ++ if before.connection.listening then replies else []
  jobs : after.services.jobs = before.services.jobs ++ submitted
  edits : Store.Edits before.services.store after.services.store

theorem advances_same (session : Session) : session.Advances session [] [] :=
  ⟨rfl, rfl, by simp, by simp, .same _⟩

theorem Advances.trans {first second third : Session} {earlier later : List Frame}
    {before after : List Job} (begun : first.Advances second earlier before)
    (continued : second.Advances third later after) :
    first.Advances third (earlier ++ later) (before ++ after) where
  index := continued.index.trans begun.index
  listening := continued.listening.trans begun.listening
  written := by
    rw [continued.written, begun.written, begun.listening]
    cases first.connection.listening <;> simp
  jobs := by rw [continued.jobs, begun.jobs, List.append_assoc]
  edits := begun.edits.trans continued.edits

theorem advances_withQueue (session : Session) (queue : List Waiting) :
    session.Advances (session.withQueue queue) [] [] :=
  ⟨rfl, rfl, by simp [withQueue], by simp [withQueue], .same _⟩

theorem advances_startCommand (session : Session) (kind : CommandKind) :
    session.Advances (session.startCommand kind) [] [] :=
  ⟨rfl, rfl, by simp [startCommand], by simp [startCommand, Services.startCommand], .same _⟩

theorem advances_endCommand (session : Session) (kind : CommandKind) :
    session.Advances (session.endCommand kind) [] [] :=
  ⟨rfl, rfl, by simp [endCommand], by simp [endCommand, Services.endCommand], .same _⟩

theorem advances_close (session : Session) : session.Advances session.close [] [] := by
  unfold close
  split
  · exact ⟨rfl, rfl, by simp, by simp, .same _⟩
  · exact session.advances_same

theorem advances_write {session : Session} (isOpen : session.connection.isOpen = true)
    (frame : Frame) : session.Advances (session.write frame) [frame] [] := by
  unfold write
  rw [isOpen, Bool.true_and]
  cases takes : session.connection.listening with
  | true => exact ⟨rfl, rfl, by simp [takes], by simp, .same _⟩
  | false => exact ⟨rfl, rfl, by simp [takes], by simp, .same _⟩

/-- Answering a failure is writing the reply to it, or closing the connection without one. -/
theorem fail_eq (session : Session) (cause : Failure) :
    session.fail cause =
      match cause.response? with
      | some frame => session.write frame
      | none => session.close := by
  unfold fail Failure.response?
  cases cause.isIo <;> rfl

/-! ### Openness and queues -/

@[simp] theorem queue_withQueue (session : Session) (queue : List Waiting) :
    (session.withQueue queue).connection.queue = queue :=
  rfl

@[simp] theorem connection_endCommand (session : Session) (kind : CommandKind) :
    (session.endCommand kind).connection = session.connection :=
  rfl

@[simp] theorem isOpen_write (session : Session) (frame : Frame) :
    (session.write frame).connection.isOpen = session.connection.isOpen := by
  unfold write
  split <;> rfl

@[simp] theorem queue_write (session : Session) (frame : Frame) :
    (session.write frame).connection.queue = session.connection.queue := by
  unfold write
  split <;> rfl

@[simp] theorem services_write (session : Session) (frame : Frame) :
    (session.write frame).services = session.services := by
  unfold write
  split <;> rfl

@[simp] theorem isOpen_close (session : Session) : session.close.connection.isOpen = false := by
  unfold close
  split
  · rfl
  · rename_i closed
    exact Bool.eq_false_iff.mpr closed

theorem close_of_closed {session : Session} (isClosed : session.connection.isOpen = false) :
    session.close = session :=
  if_neg (Bool.eq_false_iff.mp isClosed)

theorem write_of_closed {session : Session} (isClosed : session.connection.isOpen = false)
    (frame : Frame) : session.write frame = session := by
  unfold write
  rw [isClosed]
  rfl

theorem queue_close {session : Session} (isOpen : session.connection.isOpen = true) :
    session.close.connection.queue = [] := by
  unfold close
  rw [if_pos isOpen]

/-! ## What a turn leads to -/

/-- Everything that a turn can lead to. -/
inductive Turn (session : Session) (arrival : Waiting) (rest : List Waiting) : Begun → Prop where
  | answered {next : Session} {frame : Frame} (reply : session.replyTo? arrival = some frame)
      (advances : session.Advances next [frame] [])
      (isOpen : next.connection.isOpen = true) (queue : next.connection.queue = rest) :
      Turn session arrival rest (.answered next)
  | closed {next : Session}
      (advances : session.Advances next (session.replyTo? arrival).toList [])
      (isClosed : next.connection.isOpen = false) (queue : next.connection.queue = []) :
      Turn session arrival rest (.answered next)
  | inFlight {next : Session} {command : Command} (work : Work)
      (taken : arrival = .command command) (deferred : command.kind.isDeferred = true)
      (silent : session.replyTo? arrival = none)
      (advances : session.Advances next [] [⟨session.connection.index, command.id, work⟩])
      (isOpen : next.connection.isOpen = true)
      (queue : next.connection.queue = .command { command with started := true } :: rest) :
      Turn session arrival rest (.inFlight next)
  | aborted {next : Session} {command : Command} {reason : Abort}
      (taken : arrival = .command command) (atOnce : command.kind.isDeferred = false)
      (execution : reason.isExecution = true)
      (silent : session.replyTo? arrival = none)
      (advances : session.Advances next [] [])
      (isOpen : next.connection.isOpen = true) (queue : next.connection.queue = rest) :
      Turn session arrival rest (.aborted next reason)

section Turns

variable {session : Session} {command : Command} {rest : List Waiting}

theorem turn_of_write {arrival : Waiting} {frame : Frame}
    (isOpen : session.connection.isOpen = true)
    (reply : session.replyTo? arrival = some frame) :
    Turn session arrival rest (.answered ((session.withQueue rest).write frame)) := by
  have stillOpen : (session.withQueue rest).connection.isOpen = true := isOpen
  refine .answered reply ?_ ?_ ?_
  · exact (session.advances_withQueue rest).trans (advances_write stillOpen frame)
  · rw [isOpen_write]
    exact stillOpen
  · rw [queue_write]
    rfl

/-- Answering a failure either writes the reply or closes the connection. -/
theorem turn_of_fail {before : Session} {arrival : Waiting} {cause : Failure}
    (reply : before.replyTo? arrival = cause.response?)
    (advances : before.Advances session [] [])
    (isOpen : session.connection.isOpen = true) (queue : session.connection.queue = rest) :
    Turn before arrival rest (.answered (session.fail cause)) := by
  unfold fail
  split
  · rename_i broken
    have silent : before.replyTo? arrival = none := by
      rw [reply, Failure.response?, if_pos broken]
    refine .closed ?_ (isOpen_close session) (queue_close isOpen)
    rw [silent]
    exact advances.trans session.advances_close
  · rename_i whole
    have replied : before.replyTo? arrival = some cause.reply := by
      rw [reply, Failure.response?, if_neg whole]
    refine .answered replied (advances.trans (advances_write isOpen cause.reply)) ?_ ?_
    · rw [isOpen_write]
      exact isOpen
    · rw [queue_write]
      exact queue

theorem Turn.endCommand {before next : Session} {arrival : Waiting}
    (turn : Turn before arrival rest (.answered next)) (kind : CommandKind) :
    Turn before arrival rest (.answered (next.endCommand kind)) := by
  have ends := next.advances_endCommand kind
  cases turn with
  | answered reply advances isOpen queue =>
      exact .answered reply (advances.trans ends) isOpen queue
  | closed advances isClosed queue =>
      refine .closed ?_ isClosed queue
      simpa using advances.trans ends

/-! ### Commands that are carried out at once -/

/-- What a command that is carried out at once makes of a session. -/
theorem perform_atOnce (session : Session) {command : Command}
    (atOnce : command.kind.isDeferred = false) :
    session.perform command =
      ((command.execute ⟨session.services, session.connection.authenticated⟩).1,
        ⟨(command.execute ⟨session.services, session.connection.authenticated⟩).2.services,
          { session.connection with
            authenticated :=
              (command.execute
                ⟨session.services, session.connection.authenticated⟩).2.authenticated }⟩) := by
  have settles := Command.settles_execute atOnce
    ⟨session.services, session.connection.authenticated⟩
  unfold perform
  split
  rename_i outcome scene executed
  rw [executed] at settles ⊢
  cases outcome with
  | deferred work => exact absurd settles.isAtOnce Bool.false_ne_true
  | reply | failed | aborted => rfl

theorem advances_perform_atOnce (session : Session) {command : Command}
    (atOnce : command.kind.isDeferred = false) :
    session.Advances (session.perform command).2 [] [] := by
  have continues := Command.continues_execute command
    ⟨session.services, session.connection.authenticated⟩
  rw [perform_atOnce session atOnce]
  exact ⟨rfl, rfl, by simp, by simpa using continues.jobs, continues.edits⟩

/-- The turn of a command that is carried out at once ends with what its outcome calls for. -/
theorem turn_of_conclude {before : Session} {outcome : Outcome}
    (atOnce : command.kind.isDeferred = false) (ending : outcome.isAtOnce = true)
    (reply : before.replyTo? (.command command) = outcome.response?)
    (advances : before.Advances session [] [])
    (isOpen : session.connection.isOpen = true) (queue : session.connection.queue = rest) :
    Turn before (.command command) rest
      (match session.conclude command.kind outcome with
        | (next, none) => .answered next
        | (next, some reason) => .aborted next reason) := by
  cases outcome with
  | reply frame =>
      have wrote := advances.trans (advances_write isOpen frame)
      have stillOpen : (session.write frame).connection.isOpen = true := by
        rw [isOpen_write]
        exact isOpen
      unfold conclude
      dsimp only
      split
      · refine .closed ?_ (isOpen_close _) (queue_close stillOpen)
        rw [reply]
        exact wrote.trans (advances_close _)
      · refine .answered reply wrote stillOpen ?_
        rw [queue_write]
        exact queue
  | deferred work => exact absurd ending Bool.false_ne_true
  | failed cause => exact turn_of_fail reply advances isOpen queue
  | aborted reason => exact .aborted rfl atOnce ending reply advances isOpen queue

theorem turn_atOnce (isOpen : session.connection.isOpen = true)
    (atOnce : command.kind.isDeferred = false) :
    Turn session (.command command) rest (session.takeUp (.command command) rest) := by
  rw [takeUp, if_neg (Bool.eq_false_iff.mp atOnce), answer_eq]
  change Turn session (.command command) rest
    (match match session.gate? command.kind with | some _ => _ | none => _ with
      | (next, none) => .answered next
      | (next, some reason) => .aborted next reason)
  cases gate : session.gate? command.kind with
  | some rejection => exact turn_of_write isOpen (by rw [replyTo?, gate])
  | none =>
      let begun := (session.withQueue rest).startCommand command.kind
      have performs := perform_atOnce begun atOnce
      have advances : session.Advances ((begun.perform command).2.endCommand command.kind) [] [] :=
        (((session.advances_withQueue rest).trans (advances_startCommand _ _)).trans
          (advances_perform_atOnce begun atOnce)).trans (advances_endCommand _ _)
      refine turn_of_conclude atOnce ?_ ?_ advances ?_ ?_
      · rw [performs]
        exact (Command.settles_execute atOnce _).isAtOnce
      · rw [replyTo?, gate, performs]
        rfl
      · rw [connection_endCommand, performs]
        exact isOpen
      · rw [connection_endCommand, performs]
        rfl

/-! ### Commands whose work is deferred -/

/-- The session in which a command of a deferred kind is carried out: it is the head of its
queue. -/
def withHead (session : Session) (command : Command) (rest : List Waiting) : Session :=
  (session.startCommand command.kind).withQueue (.command { command with started := true } :: rest)

/-- The session after work of a command was left to the pool. -/
def withJob (session : Session) (command : Command) (work : Work) : Session :=
  { session with services := session.services.submit ⟨session.connection.index, command.id, work⟩ }

theorem advances_withHead (session : Session) (command : Command) (rest : List Waiting) :
    session.Advances (session.withHead command rest) [] [] :=
  (session.advances_startCommand command.kind).trans (advances_withQueue _ _)

theorem advances_withJob (session : Session) (command : Command) (work : Work) :
    session.Advances (session.withJob command work) []
      [⟨session.connection.index, command.id, work⟩] :=
  ⟨rfl, rfl, by simp [withJob], rfl, .same _⟩

/-- A command whose work is deferred fails, and then nothing has happened, or submits one job. -/
theorem perform_deferred (session : Session) {command : Command}
    (deferred : command.kind.isDeferred = true) :
    (∃ cause, command.execute ⟨session.services, session.connection.authenticated⟩ =
          (.failed cause, ⟨session.services, session.connection.authenticated⟩)
        ∧ session.perform command = (.failed cause, session)) ∨
      ∃ work, command.execute ⟨session.services, session.connection.authenticated⟩ =
          (.deferred work, ⟨session.services, session.connection.authenticated⟩)
        ∧ session.perform command = (.deferred work, session.withJob command work) := by
  rcases Command.execute_of_deferred deferred
      ⟨session.services, session.connection.authenticated⟩ with ⟨cause, ran⟩ | ⟨work, ran⟩
  · left
    refine ⟨cause, ran, ?_⟩
    rw [perform, ran]
  · right
    refine ⟨work, ran, ?_⟩
    rw [perform, ran]
    rfl

/-- Everything that beginning a command of a deferred kind can lead to. -/
inductive Beginning (session : Session) (command : Command) (rest : List Waiting) :
    Begun → Prop where
  | rejected {rejection : Frame} (gate : session.gate? command.kind = some rejection) :
      Beginning session command rest (.answered ((session.withQueue rest).write rejection))
  | failed {cause : Failure} (gate : session.gate? command.kind = none)
      (ran : command.execute
          ⟨(session.withHead command rest).services, session.connection.authenticated⟩ =
        (.failed cause,
          ⟨(session.withHead command rest).services, session.connection.authenticated⟩)) :
      Beginning session command rest
        (.answered
          ((((session.withHead command rest).withQueue rest).fail cause).endCommand command.kind))
  | deferred {work : Work} (gate : session.gate? command.kind = none)
      (ran : command.execute
          ⟨(session.withHead command rest).services, session.connection.authenticated⟩ =
        (.deferred work,
          ⟨(session.withHead command rest).services, session.connection.authenticated⟩)) :
      Beginning session command rest
        (.inFlight ((session.withHead command rest).withJob command work))

theorem beginning_begin (session : Session) (rest : List Waiting)
    (deferred : command.kind.isDeferred = true) :
    Beginning session command rest (session.begin command rest) := by
  rw [begin]
  cases gate : session.gate? command.kind with
  | some rejection => exact .rejected gate
  | none =>
      have same : (session.startCommand command.kind).withQueue
          (.command { command with started := true } :: rest) = session.withHead command rest := rfl
      dsimp only
      rw [same]
      rcases perform_deferred (session.withHead command rest) deferred with
        ⟨cause, ran, performed⟩ | ⟨work, ran, performed⟩
      · rw [performed]
        exact .failed gate ran
      · rw [performed]
        exact .deferred gate ran

theorem turn_begin (isOpen : session.connection.isOpen = true)
    (deferred : command.kind.isDeferred = true) :
    Turn session (.command command) rest (session.takeUp (.command command) rest) := by
  have beginning := beginning_begin session rest deferred
  have advances := session.advances_withHead command rest
  rw [takeUp, if_pos deferred]
  generalize session.begin command rest = begun at beginning ⊢
  cases beginning with
  | rejected gate => exact turn_of_write isOpen (by rw [replyTo?, gate])
  | @failed cause gate ran =>
      have turn : Turn session (.command command) rest
          (.answered (((session.withHead command rest).withQueue rest).fail cause)) := by
        refine turn_of_fail ?_ (advances.trans (advances_withQueue _ rest)) isOpen
          (queue_withQueue _ rest)
        rw [replyTo?, gate]
        exact congrArg (fun result => result.1.response?) ran
      exact turn.endCommand command.kind
  | @deferred work gate ran =>
      refine .inFlight work rfl deferred ?_ ?_ isOpen rfl
      · rw [replyTo?, gate]
        exact congrArg (fun result => result.1.response?) ran
      · exact advances.trans (advances_withJob _ command work)

/-- Every turn on an open connection is one of the four. -/
theorem turn_takeUp (isOpen : session.connection.isOpen = true) (arrival : Waiting)
    (rest : List Waiting) : Turn session arrival rest (session.takeUp arrival rest) := by
  cases arrival with
  | reply frame => exact turn_of_write isOpen rfl
  | command command =>
      cases kindOf : command.kind.isDeferred with
      | true => exact turn_begin isOpen kindOf
      | false => exact turn_atOnce isOpen kindOf

end Turns

/-! ## What draining leads to -/

/-- The answers that draining a queue gives, in order. -/
def drainAnswers : List Waiting → Session → List Answer
  | [], _ => []
  | arrival :: rest, session =>
      ((session.replyTo? arrival).map (Answer.mk arrival.asArrived)).toList ++
        match session.takeUp arrival rest with
        | .answered next => if next.connection.isOpen then drainAnswers rest next else []
        | .inFlight _ | .aborted _ _ => []

/-- Everything that draining a queue can lead to. -/
inductive Drained (queue : List Waiting) (session : Session) : Progress → Prop where
  | settled {next : Session}
      (answered : (drainAnswers queue session).map Answer.arrival = queue.map Waiting.asArrived)
      (advances : session.Advances next ((drainAnswers queue session).map Answer.frame) [])
      (isOpen : next.connection.isOpen = true) (left : next.connection.queue = []) :
      Drained queue session (next, none)
  | inFlight {next : Session} {rest : List Waiting} {command : Command}
      (done : List Waiting) (work : Work)
      (split : queue = done ++ .command command :: rest)
      (deferred : command.kind.isDeferred = true)
      (answered : (drainAnswers queue session).map Answer.arrival = done.map Waiting.asArrived)
      (advances : session.Advances next ((drainAnswers queue session).map Answer.frame)
        [⟨session.connection.index, command.id, work⟩])
      (isOpen : next.connection.isOpen = true)
      (left : next.connection.queue = .command { command with started := true } :: rest) :
      Drained queue session (next, none)
  | closed {next : Session}
      (answered :
        (drainAnswers queue session).map Answer.arrival <+: queue.map Waiting.asArrived)
      (advances : session.Advances next ((drainAnswers queue session).map Answer.frame) [])
      (isClosed : next.connection.isOpen = false) (left : next.connection.queue = []) :
      Drained queue session (next, none)
  | aborted {next : Session} {rest : List Waiting} {command : Command} {reason : Abort}
      (done : List Waiting)
      (split : queue = done ++ .command command :: rest)
      (atOnce : command.kind.isDeferred = false) (execution : reason.isExecution = true)
      (answered : (drainAnswers queue session).map Answer.arrival = done.map Waiting.asArrived)
      (advances : session.Advances next ((drainAnswers queue session).map Answer.frame) [])
      (isOpen : next.connection.isOpen = true) (left : next.connection.queue = rest) :
      Drained queue session (next, some reason)

/-- An answered head in front of a drained queue. -/
theorem Drained.cons {session next : Session} {arrival : Waiting} {rest : List Waiting}
    {frame : Frame} {progress : Progress} (drained : Drained rest next progress)
    (advances : session.Advances next [frame] [])
    (answers : drainAnswers (arrival :: rest) session =
      ⟨arrival.asArrived, frame⟩ :: drainAnswers rest next) :
    Drained (arrival :: rest) session progress := by
  cases drained with
  | settled answered later isOpen left =>
      refine .settled ?_ ?_ isOpen left
      · rw [answers, List.map_cons, List.map_cons, answered]
      · rw [answers]
        exact advances.trans later
  | inFlight done work split deferred answered later isOpen left =>
      refine .inFlight (arrival :: done) work (by rw [split, List.cons_append]) deferred
        ?_ ?_ isOpen left
      · rw [answers, List.map_cons, List.map_cons, answered]
      · rw [answers, ← advances.index]
        exact advances.trans later
  | closed answered later isClosed left =>
      refine .closed ?_ ?_ isClosed left
      · rw [answers, List.map_cons, List.map_cons]
        exact List.prefix_cons_inj _ |>.mpr answered
      · rw [answers]
        exact advances.trans later
  | aborted done split atOnce execution answered later isOpen left =>
      refine .aborted (arrival :: done) (by rw [split, List.cons_append]) atOnce execution
        ?_ ?_ isOpen left
      · rw [answers, List.map_cons, List.map_cons, answered]
      · rw [answers]
        exact advances.trans later

theorem drainAnswers_of_silent {session : Session} {arrival : Waiting} {rest : List Waiting}
    (silent : session.replyTo? arrival = none)
    (stops : ∀ next, session.takeUp arrival rest ≠ .answered next) :
    drainAnswers (arrival :: rest) session = [] := by
  rw [drainAnswers, silent]
  split
  · exact absurd ‹_› (stops _)
  · rfl
  · rfl

theorem drainAnswers_of_closed {session next : Session} {arrival : Waiting} {rest : List Waiting}
    (taken : session.takeUp arrival rest = .answered next)
    (isClosed : next.connection.isOpen = false) :
    drainAnswers (arrival :: rest) session =
      ((session.replyTo? arrival).map (Answer.mk arrival.asArrived)).toList := by
  rw [drainAnswers, taken]
  dsimp only
  rw [if_neg (Bool.eq_false_iff.mp isClosed), List.append_nil]

/-- Draining the queue of an open connection leads to one of the four ends. -/
theorem drained_drain (queue : List Waiting) {session : Session}
    (isOpen : session.connection.isOpen = true) :
    Drained queue session (drain queue session) := by
  induction queue generalizing session with
  | nil =>
      exact .settled rfl (session.advances_withQueue []) isOpen rfl
  | cons arrival rest inductionHypothesis =>
      have turn := turn_takeUp isOpen arrival rest
      rw [drain_cons isOpen]
      cases taken : session.takeUp arrival rest with
      | answered next =>
          rw [taken] at turn
          cases turn with
          | answered reply advances stillOpen sameQueue =>
              dsimp only
              rw [if_pos stillOpen]
              apply (inductionHypothesis stillOpen).cons advances
              rw [drainAnswers, reply, taken]
              dsimp only
              rw [if_pos stillOpen]
              rfl
          | closed advances isClosed sameQueue =>
              have answers := drainAnswers_of_closed taken isClosed
              dsimp only
              rw [if_neg (Bool.eq_false_iff.mp isClosed)]
              refine .closed ?_ ?_ isClosed sameQueue
              · rw [answers]
                cases session.replyTo? arrival <;> simp
              · rw [answers]
                cases replied : session.replyTo? arrival <;> simpa [replied] using advances
      | inFlight next =>
          rw [taken] at turn
          cases turn with
          | inFlight work isCommand deferred silent advances stillOpen sameQueue =>
              have answers : drainAnswers (arrival :: rest) session = [] :=
                drainAnswers_of_silent silent (by simp [taken])
              refine .inFlight [] work (by rw [isCommand]; rfl) deferred ?_ ?_ stillOpen
                sameQueue
              · rw [answers]
                rfl
              · rw [answers]
                exact advances
      | aborted next reason =>
          rw [taken] at turn
          cases turn with
          | aborted isCommand atOnce execution silent advances stillOpen sameQueue =>
              have answers : drainAnswers (arrival :: rest) session = [] :=
                drainAnswers_of_silent silent (by simp [taken])
              refine .aborted [] (by rw [isCommand]; rfl) atOnce execution ?_ ?_ stillOpen
                sameQueue
              · rw [answers]
                rfl
              · rw [answers]
                exact advances

end Session

end RespServer
