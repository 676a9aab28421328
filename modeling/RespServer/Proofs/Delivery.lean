import RespServer.Proofs.Turn

/-!
Contract: what a connection is told, and how it reacts.

Owns:
- `Input`, what a connection can be told, and `respond`, its reaction;
- `arrival?` and `answersTo`, what of it is an arrival and what is answered at once;
- `Reaction`, everything that a reaction can be, in terms of draining.

Does not own: the events in which a connection is told something (`Proofs.Run`).
-/

namespace RespServer

/-- What a connection is told. -/
inductive Input where
  | command (arrived : Command)
  /-- A failure outside of commands. -/
  | failure (cause : Failure)
  | completion (id : CommandId) (result : Except Failure Frame)
  | close
  /-- Nobody takes the replies any more. -/
  | detach

/-- What a frame tells the connection that it arrives on. -/
def Input.ofFrame (frame : Frame) : Input :=
  match Command.ofFrame? frame with
  | .ok arrived => .command arrived
  | .error cause => .failure (.command cause)

/-- A command that is read has not been started. -/
theorem started_of_ofFrame? {frame : Frame} {command : Command}
    (read : Command.ofFrame? frame = .ok command) : command.started = false := by
  unfold Command.ofFrame? at read
  split at read
  · cases read
  · split at read
    · cases read
    · split at read
      · cases read
      · cases read
        rfl
  · cases read

/-- The reply that a completion calls for; a broken connection gets none. -/
def completionReply? : Except Failure Frame → Option Frame
  | .ok frame => some frame
  | .error cause => cause.response?

namespace Session

/-! ## Reactions -/

/-- How a connection reacts to what it is told. -/
def respond (session : Session) : Input → Progress
  | .command arrived => session.receive arrived
  | .failure cause => (session.report cause, none)
  | .completion id result => session.complete id result
  | .close => (session.close, none)
  | .detach => (session.detach, none)

/-- A command with the number that it gets when it arrives. -/
def numbered (session : Session) (command : Command) : Command :=
  { command with id := session.connection.nextId }

/-- The session after a number was given to a command. -/
def countCommand (session : Session) : Session :=
  { session with
    connection := { session.connection with nextId := session.connection.nextId + 1 } }

/-- The session after the head of the queue was answered with a completion. -/
def settleHead (session : Session) (command : Command) (rest : List Waiting)
    (result : Except Failure Frame) : Session :=
  let replied :=
    match result with
    | .ok frame => (session.withQueue rest).write frame
    | .error cause => (session.withQueue rest).fail cause
  if command.started then replied.endCommand command.kind else replied

/-- The arrival that an input is for an open connection; a broken connection is none. -/
def arrival? (session : Session) (input : Input) : Option Waiting :=
  if session.connection.isOpen then
    match input with
    | .command arrived => some (.command (session.numbered arrived))
    | .failure cause => cause.response?.map .reply
    | .completion _ _ | .close | .detach => none
  else none

/-- The answers that a connection gives at once when it is told something. A completion answers
the command with its number, and what waits behind that. -/
def answersTo (session : Session) (input : Input) : List Answer :=
  if session.connection.isOpen then
    match input with
    | .command arrived =>
        if session.connection.queue = [] then
          drainAnswers [.command (session.numbered arrived)] session.countCommand
        else []
    | .failure cause =>
        if session.connection.queue = [] then
          (cause.response?.map fun frame => Answer.mk (.reply frame) frame).toList
        else []
    | .completion id result =>
        match session.connection.queue, completionReply? result with
        | .command command :: rest, some frame =>
            if command.id = id then
              ⟨(Waiting.command command).asArrived, frame⟩
                :: drainAnswers rest (session.settleHead command rest result)
            else []
        | _, _ => []
    | .close | .detach => []
  else []

/-- Everything that an input can lead to. -/
inductive Reaction (session : Session) (input : Input) : Progress → Prop where
  | closed {next : Session} (nothing : session.arrival? input = none)
      (silent : session.answersTo input = [])
      (advances : session.Advances next [] [])
      (isClosed : next.connection.isOpen = false) (queue : next.connection.queue = []) :
      Reaction session input (next, none)
  | outOfTurn {next : Session} {id : CommandId} {result : Except Failure Frame} {head : String}
      (told : input = .completion id result)
      (isOpen : session.connection.isOpen = true)
      (missing : takeHead? id session.connection.queue = none)
      (silent : session.answersTo input = [])
      (advances : session.Advances next [] [])
      (isClosed : next.connection.isOpen = false) (queue : next.connection.queue = []) :
      Reaction session input (next, some (.outOfTurn id head))
  | waits {next : Session} (arrival : Waiting) (arrives : session.arrival? input = some arrival)
      (busy : session.connection.queue ≠ []) (silent : session.answersTo input = [])
      (advances : session.Advances next [] [])
      (isOpen : next.connection.isOpen = true)
      (queue : next.connection.queue = session.connection.queue ++ [arrival]) :
      Reaction session input (next, none)
  | taken {begun : Session} (arrival : Waiting) (arrives : session.arrival? input = some arrival)
      (idle : session.connection.queue = [])
      (answers : session.answersTo input = drainAnswers [arrival] begun)
      (advances : session.Advances begun [] [])
      (isOpen : begun.connection.isOpen = true) :
      Reaction session input (drain [arrival] begun)
  | resumed {begun : Session} {command : Command} {rest : List Waiting} {frame : Frame}
      {result : Except Failure Frame} (told : input = .completion command.id result)
      (wasOpen : session.connection.isOpen = true)
      (head : session.connection.queue = .command command :: rest)
      (answers : session.answersTo input =
        ⟨(Waiting.command command).asArrived, frame⟩ :: drainAnswers rest begun)
      (advances : session.Advances begun [frame] [])
      (isOpen : begun.connection.isOpen = true) :
      Reaction session input (drain rest begun)
  | detached (told : input = .detach) : Reaction session input (session.detach, none)

section Reactions

variable {session : Session}

theorem advances_countCommand (session : Session) :
    session.Advances session.countCommand [] [] :=
  ⟨rfl, rfl, by simp [countCommand], by simp [countCommand], .same _⟩

/-- An arrival on an idle connection is the whole queue. -/
theorem drain_singleton (isOpen : session.connection.isOpen = true) (arrival : Waiting) :
    drain [arrival] session =
      match session.takeUp arrival [] with
      | .inFlight next | .answered next => (next, none)
      | .aborted next reason => (next, some reason) := by
  have turn := turn_takeUp isOpen arrival []
  rw [drain_cons isOpen]
  cases taken : session.takeUp arrival [] with
  | inFlight next => rfl
  | aborted next reason => rfl
  | answered next =>
      have empty : next.connection.queue = [] := by
        rw [taken] at turn
        cases turn with
        | answered _ _ _ queue => exact queue
        | closed _ _ queue => exact queue
      have same : next.withQueue [] = next := by
        unfold withQueue
        rw [← empty]
      dsimp only
      split
      · rw [drain, same]
      · rfl

theorem receive_eq (session : Session) (command : Command) :
    session.receive command =
      if !session.connection.isOpen then (session.countCommand, none)
      else if session.connection.queue ≠ [] then
        (session.countCommand.enqueue (.command (session.numbered command)), none)
      else if command.kind.isDeferred then
        match session.countCommand.begin (session.numbered command) [] with
        | .inFlight next => (next, none)
        | .answered next => (next, none)
        | .aborted next reason => (next, some reason)
      else session.countCommand.answer (session.numbered command) :=
  rfl

theorem receive_of_closed (isClosed : session.connection.isOpen = false) (arrived : Command) :
    session.receive arrived = (session.countCommand, none) := by
  rw [receive_eq, isClosed]
  rfl

theorem receive_busy (isOpen : session.connection.isOpen = true)
    (busy : session.connection.queue ≠ []) (arrived : Command) :
    session.receive arrived =
      (session.countCommand.enqueue (.command (session.numbered arrived)), none) := by
  rw [receive_eq, isOpen, if_pos busy]
  rfl

theorem receive_idle (isOpen : session.connection.isOpen = true)
    (idle : session.connection.queue = []) (arrived : Command) :
    session.receive arrived =
      drain [.command (session.numbered arrived)] session.countCommand := by
  have same : session.countCommand.withQueue [] = session.countCommand := by
    unfold withQueue countCommand
    rw [← idle]
  have counted : session.countCommand.connection.isOpen = true := isOpen
  have kind : (session.numbered arrived).kind = arrived.kind := rfl
  rw [drain_singleton counted, takeUp, same, receive_eq, isOpen, Bool.not_true,
    if_neg Bool.false_ne_true, if_neg (not_not_intro idle), kind]
  cases arrived.kind.isDeferred with
  | true => cases session.countCommand.begin (session.numbered arrived) [] <;> rfl
  | false =>
      rcases session.countCommand.answer (session.numbered arrived) with ⟨next, _ | reason⟩ <;> rfl

theorem isOpen_of_arrival? {input : Input} {arrival : Waiting}
    (arrives : session.arrival? input = some arrival) : session.connection.isOpen = true := by
  cases openness : session.connection.isOpen with
  | true => rfl
  | false =>
      unfold arrival? at arrives
      rw [openness] at arrives
      cases arrives

/-! ### Every reaction -/

/-- The head of a queue that a completion answers. -/
theorem head_of_takeHead? {id : CommandId} {queue rest : List Waiting} {command : Command}
    (head : takeHead? id queue = some (command, rest)) :
    queue = .command command :: rest ∧ command.id = id := by
  unfold takeHead? at head
  split at head
  · split at head
    · cases head
      exact ⟨rfl, ‹_›⟩
    · cases head
  · cases head

theorem complete_inTurn (isOpen : session.connection.isOpen = true) {id : CommandId}
    {command : Command} {rest : List Waiting}
    (head : takeHead? id session.connection.queue = some (command, rest))
    (result : Except Failure Frame) :
    session.complete id result =
      if (session.settleHead command rest result).connection.isOpen then
        drain rest (session.settleHead command rest result)
      else (session.settleHead command rest result, none) := by
  unfold complete
  rw [if_neg (by simp [isOpen]), head]
  rfl

theorem settleHead_eq_of_reply (session : Session) (command : Command) (rest : List Waiting)
    {result : Except Failure Frame} {frame : Frame}
    (reply : completionReply? result = some frame) :
    session.settleHead command rest result =
      if command.started then ((session.withQueue rest).write frame).endCommand command.kind
      else (session.withQueue rest).write frame := by
  unfold settleHead
  cases result with
  | ok replied =>
      cases reply
      rfl
  | error cause =>
      have replies : cause.response? = some frame := reply
      dsimp only
      rw [fail_eq, replies]

theorem settleHead_of_reply (isOpen : session.connection.isOpen = true) (command : Command)
    (rest : List Waiting) {result : Except Failure Frame} {frame : Frame}
    (reply : completionReply? result = some frame) :
    session.Advances (session.settleHead command rest result) [frame] []
      ∧ (session.settleHead command rest result).connection.isOpen = true := by
  have stillOpen : (session.withQueue rest).connection.isOpen = true := isOpen
  have wrote : session.Advances ((session.withQueue rest).write frame) [frame] [] :=
    (session.advances_withQueue rest).trans (advances_write stillOpen frame)
  rw [session.settleHead_eq_of_reply command rest reply]
  split
  · refine ⟨wrote.trans (advances_endCommand _ _), ?_⟩
    rw [connection_endCommand, isOpen_write]
    exact stillOpen
  · refine ⟨wrote, ?_⟩
    rw [isOpen_write]
    exact stillOpen

theorem queue_settleHead_of_reply (session : Session) (command : Command) (rest : List Waiting)
    {result : Except Failure Frame} {frame : Frame}
    (reply : completionReply? result = some frame) :
    (session.settleHead command rest result).connection.queue = rest := by
  rw [session.settleHead_eq_of_reply command rest reply]
  split
  · rw [connection_endCommand, queue_write]
    rfl
  · rw [queue_write]
    rfl

theorem settleHead_of_broken (isOpen : session.connection.isOpen = true) (command : Command)
    (rest : List Waiting) {result : Except Failure Frame}
    (silent : completionReply? result = none) :
    session.Advances (session.settleHead command rest result) [] []
      ∧ (session.settleHead command rest result).connection.isOpen = false
      ∧ (session.settleHead command rest result).connection.queue = [] := by
  have stillOpen : (session.withQueue rest).connection.isOpen = true := isOpen
  have settled : session.settleHead command rest result =
      if command.started then (session.withQueue rest).close.endCommand command.kind
      else (session.withQueue rest).close := by
    unfold settleHead
    cases result with
    | ok replied => cases silent
    | error cause =>
        have broken : cause.response? = none := silent
        dsimp only
        rw [fail_eq, broken]
  have closed : session.Advances (session.withQueue rest).close [] [] :=
    (session.advances_withQueue rest).trans (advances_close _)
  rw [settled]
  split
  · exact ⟨closed.trans (advances_endCommand _ _), isOpen_close _, queue_close stillOpen⟩
  · exact ⟨closed, isOpen_close _, queue_close stillOpen⟩

theorem report_of_closed (isClosed : session.connection.isOpen = false)
    (queue : session.connection.queue = []) (cause : Failure) : session.report cause = session := by
  unfold report
  rw [close_of_closed isClosed, if_pos queue, write_of_closed isClosed]
  exact ite_self session

theorem complete_of_closed (isClosed : session.connection.isOpen = false) (id : CommandId)
    (result : Except Failure Frame) : session.complete id result = (session, none) := by
  unfold complete
  rw [if_pos (by simp [isClosed])]

/-- A closed connection stays closed and says nothing. -/
theorem reaction_of_closed (isClosed : session.connection.isOpen = false)
    (queue : session.connection.queue = []) {input : Input} (attached : input ≠ .detach) :
    Reaction session input (session.respond input) := by
  have shut : ¬ session.connection.isOpen = true := Bool.eq_false_iff.mp isClosed
  have nothing : session.arrival? input = none := if_neg shut
  have silent : session.answersTo input = [] := if_neg shut
  have stays : ∀ next : Session, session.Advances next [] [] →
      next.connection.isOpen = false → next.connection.queue = [] →
      Reaction session input (next, none) :=
    fun next advances closed left => .closed nothing silent advances closed left
  cases input with
  | command arrived =>
      rw [respond, receive_of_closed isClosed]
      exact stays _ session.advances_countCommand isClosed queue
  | failure cause =>
      rw [respond, report_of_closed isClosed queue]
      exact stays _ session.advances_same isClosed queue
  | completion id result =>
      rw [respond, complete_of_closed isClosed]
      exact stays _ session.advances_same isClosed queue
  | close =>
      rw [respond, close_of_closed isClosed]
      exact stays _ session.advances_same isClosed queue
  | detach => exact absurd rfl attached

theorem reaction_command (isOpen : session.connection.isOpen = true) (arrived : Command) :
    Reaction session (.command arrived) (session.receive arrived) := by
  have arrives : session.arrival? (.command arrived) =
      some (.command (session.numbered arrived)) := if_pos isOpen
  by_cases idle : session.connection.queue = []
  · rw [receive_idle isOpen idle]
    refine .taken _ arrives idle ?_ session.advances_countCommand isOpen
    rw [answersTo, if_pos isOpen]
    exact if_pos idle
  · rw [receive_busy isOpen idle]
    refine .waits _ arrives idle ?_ ?_ isOpen rfl
    · rw [answersTo, if_pos isOpen]
      exact if_neg idle
    · exact session.advances_countCommand.trans (advances_withQueue _ _)

theorem reaction_failure (isOpen : session.connection.isOpen = true) (cause : Failure) :
    Reaction session (.failure cause) (session.report cause, none) := by
  have arrives : session.arrival? (.failure cause) = cause.response?.map .reply := if_pos isOpen
  have answers : session.answersTo (.failure cause) =
      if session.connection.queue = [] then
        (cause.response?.map fun frame => Answer.mk (.reply frame) frame).toList
      else [] := if_pos isOpen
  unfold report
  split
  · rename_i broken
    have silent : cause.response? = none := if_pos broken
    rw [silent] at arrives answers
    refine .closed arrives ?_ session.advances_close session.isOpen_close (queue_close isOpen)
    rw [answers]
    exact ite_self []
  · rename_i whole
    have replies : cause.response? = some cause.reply := if_neg whole
    rw [replies] at arrives answers
    split
    · rename_i idle
      have same : session.withQueue [] = session := by
        unfold withQueue
        rw [← idle]
      have wrote : (session.write cause.reply, none) = drain [.reply cause.reply] session := by
        rw [drain_singleton isOpen, takeUp, same]
      rw [wrote]
      refine .taken _ arrives idle ?_ session.advances_same isOpen
      rw [answers, if_pos idle, drainAnswers, takeUp]
      dsimp only
      rw [drainAnswers, ite_self]
      rfl
    · rename_i busy
      refine .waits _ arrives busy ?_ (advances_withQueue _ _) isOpen rfl
      rw [answers, if_neg busy]

/-- A completion for anything but the head of the queue answers nothing. -/
theorem answersTo_of_missing (isOpen : session.connection.isOpen = true) {id : CommandId}
    (missing : takeHead? id session.connection.queue = none) (result : Except Failure Frame) :
    session.answersTo (.completion id result) = [] := by
  rw [answersTo, if_pos isOpen]
  split
  · rename_i queue _
    rw [queue, takeHead?] at missing
    split at missing
    · cases missing
    · exact if_neg ‹_›
  · rfl

theorem reaction_completion (isOpen : session.connection.isOpen = true) (id : CommandId)
    (result : Except Failure Frame) :
    Reaction session (.completion id result) (session.complete id result) := by
  have nothing : session.arrival? (.completion id result) = none := if_pos isOpen
  cases head : takeHead? id session.connection.queue with
  | none =>
      unfold complete
      rw [if_neg (by simp [isOpen]), head]
      refine .outOfTurn rfl isOpen head ?_ session.advances_close session.isOpen_close
        (queue_close isOpen)
      exact answersTo_of_missing isOpen head result
  | some found =>
      obtain ⟨command, rest⟩ := found
      obtain ⟨queue, rfl⟩ := head_of_takeHead? head
      rw [complete_inTurn isOpen head]
      cases reply : completionReply? result with
      | none =>
          obtain ⟨advances, isClosed, left⟩ := settleHead_of_broken isOpen command rest reply
          rw [if_neg (Bool.eq_false_iff.mp isClosed)]
          refine .closed nothing ?_ advances isClosed left
          rw [answersTo, if_pos isOpen]
          simp only [queue, reply]
      | some frame =>
          obtain ⟨advances, stillOpen⟩ := settleHead_of_reply isOpen command rest reply
          rw [if_pos stillOpen]
          refine .resumed rfl isOpen queue ?_ advances stillOpen
          rw [answersTo, if_pos isOpen]
          simp only [queue, reply]
          exact if_pos trivial

/-- What an open or closed connection makes of an input is one of the six reactions. -/
theorem reaction_respond (input : Input)
    (closedEmpty : session.connection.isOpen = false → session.connection.queue = []) :
    Reaction session input (session.respond input) := by
  cases openness : session.connection.isOpen with
  | false =>
      cases input with
      | detach => exact .detached rfl
      | _ => exact reaction_of_closed openness (closedEmpty openness) nofun
  | true =>
      cases input with
      | command arrived => exact reaction_command openness arrived
      | failure cause => exact reaction_failure openness cause
      | completion id result => exact reaction_completion openness id result
      | close =>
          exact .closed (if_pos openness) (if_pos openness) session.advances_close
            session.isOpen_close (queue_close openness)
      | detach => exact .detached rfl

/-! ### What reactions write -/

/-- A connection writes the frames of its answers, whether a command breaks off or not. -/
theorem Drained.advances {queue : List Waiting} {begun : Session} {progress : Progress}
    (drained : Drained queue begun progress) :
    ∃ submitted, begun.Advances progress.1 ((drainAnswers queue begun).map Answer.frame)
      submitted := by
  cases drained with
  | settled answered advances => exact ⟨_, advances⟩
  | inFlight done work split deferred answered advances => exact ⟨_, advances⟩
  | closed answered advances => exact ⟨_, advances⟩
  | aborted done split atOnce execution answered advances => exact ⟨_, advances⟩

/-- The same of a reaction; only for a client that leaves nothing is said. -/
theorem Reaction.advances {input : Input} {progress : Progress}
    (reaction : Reaction session input progress) (attached : input ≠ .detach) :
    ∃ submitted, session.Advances progress.1 ((session.answersTo input).map Answer.frame)
      submitted := by
  cases reaction with
  | closed nothing silent advances isClosed queue
  | outOfTurn told isOpen missing silent advances isClosed queue
  | waits arrival arrives busy silent advances isOpen queue =>
      rw [silent]
      exact ⟨_, advances⟩
  | taken arrival arrives idle answers advances isOpen =>
      obtain ⟨submitted, later⟩ := (drained_drain [arrival] isOpen).advances
      rw [answers]
      exact ⟨_, advances.trans later⟩
  | @resumed begun command rest frame result told wasOpen head answers advances isOpen =>
      obtain ⟨submitted, later⟩ := (drained_drain rest isOpen).advances
      rw [answers]
      exact ⟨_, advances.trans later⟩
  | detached told => exact absurd told attached

/-! ### What all reactions keep -/

/-- What no reaction breaks: the number of the connection, that the store is only edited, that
nothing waits once the connection is closed, and that it submits jobs of its own only. -/
structure Keeps (before after : Session) : Prop where
  index : after.connection.index = before.connection.index
  edits : Store.Edits before.services.store after.services.store
  emptied : after.connection.isOpen = false → after.connection.queue = []
  jobs : ∃ submitted : List Job, after.services.jobs = before.services.jobs ++ submitted
    ∧ ∀ job ∈ submitted, job.connection = before.connection.index

theorem Advances.keeps {before after : Session} {replies : List Frame} {submitted : List Job}
    (advances : before.Advances after replies submitted)
    (own : ∀ job ∈ submitted, job.connection = before.connection.index)
    (emptied : after.connection.isOpen = false → after.connection.queue = []) :
    before.Keeps after :=
  ⟨advances.index, advances.edits, emptied, submitted, advances.jobs, own⟩

theorem Drained.keeps {queue : List Waiting} {before begun : Session} {progress : Progress}
    {replies : List Frame} (drained : Drained queue begun progress)
    (advances : before.Advances begun replies []) : before.Keeps progress.1 := by
  cases drained with
  | settled answered later isOpen left =>
      exact (advances.trans later).keeps nofun fun _ => left
  | inFlight done work split deferred answered later isOpen left =>
      refine (advances.trans later).keeps ?_ fun isClosed => absurd isClosed (by simp [isOpen])
      intro job submitted
      rw [List.mem_singleton.mp submitted]
      exact advances.index
  | closed answered later isClosed left =>
      exact (advances.trans later).keeps nofun fun _ => left
  | aborted done split atOnce execution answered later isOpen left =>
      exact (advances.trans later).keeps nofun fun isClosed => absurd isClosed (by simp [isOpen])

theorem Reaction.keeps {input : Input} {progress : Progress}
    (reaction : Reaction session input progress)
    (emptied : session.connection.isOpen = false → session.connection.queue = []) :
    session.Keeps progress.1 := by
  cases reaction with
  | closed nothing silent advances isClosed queue =>
      exact advances.keeps nofun fun _ => queue
  | outOfTurn told isOpen missing silent advances isClosed queue =>
      exact advances.keeps nofun fun _ => queue
  | waits arrival arrives busy silent advances isOpen queue =>
      exact advances.keeps nofun fun isClosed => absurd isClosed (by simp [isOpen])
  | taken arrival arrives idle answers advances isOpen =>
      exact (drained_drain _ isOpen).keeps advances
  | resumed told wasOpen head answers advances isOpen =>
      exact (drained_drain _ isOpen).keeps advances
  | detached told => exact ⟨rfl, .same _, emptied, [], (List.append_nil _).symm, nofun⟩

end Reactions

end Session

end RespServer
