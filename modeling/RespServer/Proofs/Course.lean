import RespServer.Proofs.Authentication

/-!
Contract: the course that each input and each event takes, to the letter.

Owns:
- `Carried` and `carriedBy`, the commands that an input carries out, each with the store it finds;
- `Course`, for every input the session that it leads to, in terms of draining;
- `Kept`, the relations that hold along every course because every elementary change keeps them;
- `told?`, what an event tells any of the connections, and `Movement`, what a step makes of all
  connections.

Does not own: which relations are kept. A statement about all inputs is one case for each course, or
one field for each elementary change, and one about all events is one case for each movement.
-/

namespace RespServer

/-- A command that is carried out, and the store that it finds. -/
structure Carried where
  command : Command
  store : Store

namespace Session

/-! ## Commands that are carried out -/

/-- What taking up an arrival carries out: the command, if no gate rejects it. -/
def carried? (session : Session) (arrival : Waiting) : Option Carried :=
  (session.admitted? arrival).map fun command => ⟨command, session.services.store⟩

/-- What draining a queue carries out, in order. -/
def drainCarried : List Waiting → Session → List Carried
  | [], _ => []
  | arrival :: rest, session =>
      (session.carried? arrival).toList ++
        match session.takeUp arrival rest with
        | .answered next => if next.connection.isOpen then drainCarried rest next else []
        | .inFlight _ | .aborted _ _ => []

/-- What a connection carries out when it is told something. -/
def carriedBy (session : Session) (input : Input) : List Carried :=
  if session.connection.isOpen then
    match input with
    | .command arrived =>
        if session.connection.queue = [] then
          drainCarried [.command (session.numbered arrived)] session.countCommand
        else []
    | .completion id result =>
        match takeHead? id session.connection.queue with
        | none => []
        | some (command, rest) =>
            let settled := session.settleHead command rest result
            if settled.connection.isOpen then drainCarried rest settled else []
    | .failure _ | .close | .detach => []
  else []

/-- The commands of what is carried out are the commands that are executed. -/
theorem map_command_drainCarried (queue : List Waiting) (session : Session) :
    (drainCarried queue session).map Carried.command = drainExecuted queue session := by
  induction queue generalizing session with
  | nil => rfl
  | cons arrival rest inductionHypothesis =>
      have head : (session.carried? arrival).toList.map Carried.command =
          (session.admitted? arrival).toList := by
        rw [carried?]
        cases session.admitted? arrival <;> rfl
      rw [drainCarried, drainExecuted, List.map_append, head]
      cases session.takeUp arrival rest with
      | inFlight next | aborted next reason => rfl
      | answered next =>
          dsimp only
          split
          · rw [inductionHypothesis]
          · rfl

theorem map_command_carriedBy (session : Session) (input : Input) :
    (session.carriedBy input).map Carried.command = session.executedBy input := by
  unfold carriedBy executedBy
  split
  · cases input with
    | command arrived =>
        dsimp only
        split
        · exact map_command_drainCarried _ _
        · rfl
    | completion id result =>
        dsimp only
        cases takeHead? id session.connection.queue with
        | none => rfl
        | some head =>
            dsimp only
            split
            · exact map_command_drainCarried _ _
            · rfl
    | failure | close | detach => rfl
  · rfl

/-! ## Courses -/

/-- Everything that an input can lead to, and what it carries out. -/
inductive Course (session : Session) : Input → Progress → List Carried → Prop where
  | counted (isClosed : session.connection.isOpen = false) (arrived : Command) :
      Course session (.command arrived) (session.countCommand, none) []
  | discarded {input : Input} (isClosed : session.connection.isOpen = false)
      (noCommand : ∀ arrived, input ≠ .command arrived) (attached : input ≠ .detach) :
      Course session input (session, none) []
  | detached : Course session .detach (session.detach, none) []
  | enqueued (isOpen : session.connection.isOpen = true)
      (busy : session.connection.queue ≠ []) (arrived : Command) :
      Course session (.command arrived)
        (session.countCommand.enqueue (.command (session.numbered arrived)), none) []
  | replyEnqueued (isOpen : session.connection.isOpen = true)
      (busy : session.connection.queue ≠ []) (cause : Failure) (whole : cause.isIo = false) :
      Course session (.failure cause) (session.enqueue (.reply cause.reply), none) []
  | replied (isOpen : session.connection.isOpen = true)
      (idle : session.connection.queue = []) (cause : Failure) (whole : cause.isIo = false) :
      Course session (.failure cause) (session.write cause.reply, none) []
  | closed {input : Input} (isOpen : session.connection.isOpen = true) :
      Course session input (session.close, none) []
  | outOfTurn (isOpen : session.connection.isOpen = true) (id : CommandId)
      (result : Except Failure Frame) (head : String) :
      Course session (.completion id result) (session.close, some (.outOfTurn id head)) []
  | broken {command : Command} {rest : List Waiting} {result : Except Failure Frame}
      (isOpen : session.connection.isOpen = true)
      (head : session.connection.queue = .command command :: rest)
      (silent : completionReply? result = none) :
      Course session (.completion command.id result) (session.settleHead command rest result, none)
        []
  | taken (isOpen : session.connection.isOpen = true)
      (idle : session.connection.queue = []) (arrived : Command) :
      Course session (.command arrived)
        (drain [.command (session.numbered arrived)] session.countCommand)
        (drainCarried [.command (session.numbered arrived)] session.countCommand)
  | resumed {command : Command} {rest : List Waiting} {result : Except Failure Frame}
      {frame : Frame} (isOpen : session.connection.isOpen = true)
      (head : session.connection.queue = .command command :: rest)
      (reply : completionReply? result = some frame) :
      Course session (.completion command.id result)
        (drain rest (session.settleHead command rest result))
        (drainCarried rest (session.settleHead command rest result))

section Courses

variable {session : Session}

theorem course_of_closed (isClosed : session.connection.isOpen = false)
    (empty : session.connection.queue = []) (input : Input) :
    session.Course input (session.respond input) (session.carriedBy input) := by
  have nothing : session.carriedBy input = [] := if_neg (Bool.eq_false_iff.mp isClosed)
  rw [nothing]
  cases input with
  | command arrived =>
      rw [respond, receive_of_closed isClosed]
      exact .counted isClosed arrived
  | failure cause =>
      rw [respond, report_of_closed isClosed empty]
      exact .discarded isClosed (by simp) (by simp)
  | completion id result =>
      rw [respond, complete_of_closed isClosed]
      exact .discarded isClosed (by simp) (by simp)
  | close =>
      rw [respond, close_of_closed isClosed]
      exact .discarded isClosed (by simp) (by simp)
  | detach => exact .detached

theorem course_command (isOpen : session.connection.isOpen = true) (arrived : Command) :
    session.Course (.command arrived) (session.receive arrived)
      (session.carriedBy (.command arrived)) := by
  rw [carriedBy, if_pos isOpen]
  split
  · rename_i idle
    rw [receive_idle isOpen idle]
    exact .taken isOpen idle arrived
  · rename_i busy
    rw [receive_busy isOpen busy]
    exact .enqueued isOpen busy arrived

theorem course_failure (isOpen : session.connection.isOpen = true) (cause : Failure) :
    session.Course (.failure cause) (session.report cause, none) [] := by
  unfold report
  split
  · exact .closed isOpen
  · rename_i broken
    have whole : cause.isIo = false := Bool.eq_false_iff.mpr broken
    split
    · exact .replied isOpen ‹_› cause whole
    · exact .replyEnqueued isOpen ‹_› cause whole

theorem course_completion (isOpen : session.connection.isOpen = true) (id : CommandId)
    (result : Except Failure Frame) :
    session.Course (.completion id result) (session.complete id result)
      (session.carriedBy (.completion id result)) := by
  rw [carriedBy, if_pos isOpen]
  dsimp only
  cases found : takeHead? id session.connection.queue with
  | none =>
      unfold complete
      rw [if_neg (by simp [isOpen]), found]
      exact .outOfTurn isOpen id result _
  | some taken =>
      obtain ⟨command, rest⟩ := taken
      obtain ⟨head, rfl⟩ := head_of_takeHead? found
      rw [complete_inTurn isOpen found]
      dsimp only
      cases reply : completionReply? result with
      | none =>
          have isClosed := (settleHead_of_broken isOpen command rest reply).2.1
          rw [if_neg (Bool.eq_false_iff.mp isClosed), if_neg (Bool.eq_false_iff.mp isClosed)]
          exact .broken isOpen head reply
      | some frame =>
          have stillOpen := (settleHead_of_reply isOpen command rest reply).2
          rw [if_pos stillOpen, if_pos stillOpen]
          exact .resumed isOpen head reply

/-- Every input takes one of the courses. -/
theorem course_respond (empty : session.connection.isOpen = false → session.connection.queue = [])
    (input : Input) : session.Course input (session.respond input) (session.carriedBy input) := by
  cases openness : session.connection.isOpen with
  | false => exact course_of_closed openness (empty openness) input
  | true =>
      cases input with
      | command arrived => exact course_command openness arrived
      | failure cause =>
          rw [carriedBy, if_pos openness]
          exact course_failure openness cause
      | completion id result => exact course_completion openness id result
      | close =>
          rw [carriedBy, if_pos openness]
          exact .closed openness
      | detach =>
          rw [carriedBy, if_pos openness]
          exact .detached

end Courses

/-! ## What every course keeps -/

/-- A relation between sessions that every elementary change keeps. -/
structure Kept (relation : Session → Session → Prop) : Prop where
  same : ∀ session, relation session session
  trans : ∀ {first second third},
    relation first second → relation second third → relation first third
  withQueue : ∀ session queue, relation session (session.withQueue queue)
  countCommand : ∀ session, relation session session.countCommand
  startCommand : ∀ session kind, relation session (session.startCommand kind)
  endCommand : ∀ session kind, relation session (session.endCommand kind)
  perform : ∀ session command, relation session (session.perform command).2
  write : ∀ session frame, relation session (session.write frame)
  close : ∀ session, relation session session.close
  detach : ∀ session, relation session session.detach

namespace Kept

variable {relation : Session → Session → Prop}

theorem fail (kept : Kept relation) (session : Session) (cause : Failure) :
    relation session (session.fail cause) := by
  unfold Session.fail
  split
  · exact kept.close session
  · exact kept.write session _

theorem conclude (kept : Kept relation) (session : Session) (kind : CommandKind)
    (outcome : Outcome) : relation session (session.conclude kind outcome).1 := by
  cases outcome with
  | reply frame =>
      unfold Session.conclude
      dsimp only
      split
      · exact kept.trans (kept.write session frame) (kept.close _)
      · exact kept.write session frame
  | failed cause => exact kept.fail session cause
  | deferred | aborted => exact kept.same session

theorem answer (kept : Kept relation) (session : Session) (command : Command) :
    relation session (session.answer command).1 := by
  rw [answer_eq]
  cases session.gate? command.kind with
  | some rejection => exact kept.write session rejection
  | none =>
      have performed := kept.trans (kept.startCommand session command.kind)
        (kept.perform _ command)
      exact kept.trans (kept.trans performed (kept.endCommand _ command.kind))
        (kept.conclude _ _ _)

theorem begin (kept : Kept relation) (session : Session) (command : Command)
    (rest : List Waiting) : relation session (session.begin command rest).session := by
  rw [Session.begin]
  cases session.gate? command.kind with
  | some rejection => exact kept.trans (kept.withQueue session rest) (kept.write _ rejection)
  | none =>
      have begun := kept.trans (kept.startCommand session command.kind)
        (kept.withQueue _ (.command { command with started := true } :: rest))
      have performed := kept.trans begun (kept.perform _ command)
      dsimp only
      generalize ((session.startCommand command.kind).withQueue
        (.command { command with started := true } :: rest)).perform command = result at performed ⊢
      obtain ⟨outcome, next⟩ := result
      have popped := kept.trans performed (kept.withQueue next rest)
      cases outcome with
      | reply frame =>
          exact kept.trans (kept.trans popped (kept.write _ frame)) (kept.endCommand _ _)
      | failed cause =>
          exact kept.trans (kept.trans popped (kept.fail _ cause)) (kept.endCommand _ _)
      | deferred | aborted => exact performed

theorem takeUp (kept : Kept relation) (session : Session) (arrival : Waiting)
    (rest : List Waiting) : relation session (session.takeUp arrival rest).session := by
  cases arrival with
  | reply frame => exact kept.trans (kept.withQueue session rest) (kept.write _ frame)
  | command command =>
      rw [Session.takeUp]
      split
      · exact kept.begin session command rest
      · have answered := kept.trans (kept.withQueue session rest) (kept.answer _ command)
        split <;> rename_i outcome <;> rw [outcome] at answered <;> exact answered

theorem drain (kept : Kept relation) (queue : List Waiting) {session : Session}
    (isOpen : session.connection.isOpen = true) :
    relation session (Session.drain queue session).1 := by
  induction queue generalizing session with
  | nil => exact kept.withQueue session []
  | cons arrival rest inductionHypothesis =>
      have turn := kept.takeUp session arrival rest
      rw [drain_cons isOpen]
      cases taken : session.takeUp arrival rest with
      | inFlight next | aborted next reason =>
          rw [taken] at turn
          exact turn
      | answered next =>
          rw [taken] at turn
          dsimp only
          split
          · exact kept.trans turn (inductionHypothesis ‹_›)
          · exact turn

theorem settleHead (kept : Kept relation) (session : Session) (command : Command)
    (rest : List Waiting) (result : Except Failure Frame) :
    relation session (session.settleHead command rest result) := by
  have popped := kept.withQueue session rest
  have ends : ∀ last : Session, relation (session.withQueue rest) last →
      relation session (if command.started then last.endCommand command.kind else last) := by
    intro last replied
    have settled := kept.trans popped replied
    split
    · exact kept.trans settled (kept.endCommand _ _)
    · exact settled
  cases result with
  | ok frame => exact ends _ (kept.write _ frame)
  | error cause => exact ends _ (kept.fail _ cause)

end Kept

/-- Whatever a connection is told, a relation holds that every elementary change keeps. -/
theorem Course.keeps {relation : Session → Session → Prop} (kept : Kept relation)
    {session : Session} {input : Input} {progress : Progress} {carried : List Carried}
    (course : session.Course input progress carried) : relation session progress.1 := by
  cases course with
  | counted => exact kept.countCommand session
  | discarded => exact kept.same session
  | detached => exact kept.detach session
  | enqueued => exact kept.trans (kept.countCommand session) (kept.withQueue _ _)
  | replyEnqueued => exact kept.withQueue session _
  | replied => exact kept.write session _
  | closed | outOfTurn => exact kept.close session
  | broken => exact kept.settleHead session _ _ _
  | taken isOpen idle arrived =>
      have stillOpen : session.countCommand.connection.isOpen = true := isOpen
      exact kept.trans (kept.countCommand session) (kept.drain _ stillOpen)
  | resumed isOpen head reply =>
      exact kept.trans (kept.settleHead session _ _ _)
        (kept.drain _ (settleHead_of_reply isOpen _ _ reply).2)

end Session

namespace World

/-! ## All connections at a step -/

/-- The session of the connection that an event tells something, and what it is told. -/
def told? (world : World) (event : Event) : Option (Session × Input) :=
  (world.sweep.delivery? event).bind fun delivery =>
    (delivery.world.session? delivery.connection).map fun session => (session, delivery.input)

/-- What is carried out at an event. -/
def carriedAt (world : World) (event : Event) : List Carried :=
  match world.told? event with
  | none => []
  | some (session, input) => session.carriedBy input

/-- What is carried out during events, in order. -/
def carried (world : World) : List Event → List Carried
  | [] => []
  | event :: rest => world.carriedAt event ++ (world.step event).1.carried rest

/-- The delivery behind what any connection is told. -/
theorem inputTo?_of_told? {world : World} {event : Event} {session : Session} {input : Input}
    (told : world.told? event = some (session, input)) :
    ∃ index, world.inputTo? index event = some (session, input) := by
  obtain ⟨delivery, delivered, reaches⟩ := Option.bind_eq_some_iff.mp told
  obtain ⟨found, present, same⟩ := Option.map_eq_some_iff.mp reaches
  cases same
  exact ⟨delivery.connection, told_of_delivery delivered present⟩

theorem told?_of_inputTo? {world : World} {index : Nat} {event : Event} {session : Session}
    {input : Input} (told : world.inputTo? index event = some (session, input)) :
    world.told? event = some (session, input) := by
  obtain ⟨delivery, delivered, rfl, rfl, present⟩ := delivery_of_told told
  rw [told?, delivered, Option.bind_some, present]
  rfl

theorem carriedAt_of_told {world : World} {index : Nat} {event : Event} {session : Session}
    {input : Input} (told : world.inputTo? index event = some (session, input)) :
    world.carriedAt event = session.carriedBy input := by
  rw [carriedAt, told?_of_inputTo? told]

/-- What a connection is told at any event takes one of the courses. -/
theorem Orderly.course {world : World} (orderly : world.Orderly) {index : Nat} {event : Event}
    {session : Session} {input : Input}
    (told : world.inputTo? index event = some (session, input)) :
    session.Course input (session.respond input) (session.carriedBy input) :=
  Session.course_respond (orderly.emptied (found_of_told told)) input

theorem statistics_of_delivery {world : World} {event : Event} {delivery : Delivery}
    (delivered : world.delivery? event = some delivery) :
    delivery.world.services.statistics = world.services.statistics := by
  cases event with
  | receive | accept | report | complete | close | detach =>
      cases delivered
      rfl
  | run position =>
      obtain ⟨job, completion, -, -, rfl⟩ := job_of_runDelivery? delivered
      rfl
  | connect | allow | stop | advance => cases delivered

/-- What a step makes of all connections and of the statistics. -/
inductive Movement (world : World) (event : Event) : World → Prop where
  | told {session : Session} {input : Input} {index : Nat} {front back : List Connection}
      (told : world.inputTo? index event = some (session, input))
      (before : world.connections = front ++ session.connection :: back)
      (statistics : session.services.statistics = world.services.statistics) :
      Movement world event
        ⟨(session.respond input).1.services, front ++ (session.respond input).1.connection :: back⟩
  | opened {next : World} (connects : event = .connect) (untold : world.told? event = none)
      (connections : next.connections = world.connections ++
        [Connection.new world.connections.length world.services.password.isNone])
      (statistics : next.services.statistics = world.services.statistics.addClient) :
      Movement world event next
  | quiet {next : World} (other : event ≠ .connect) (untold : world.told? event = none)
      (connections : next.connections = world.connections)
      (statistics : next.services.statistics = world.services.statistics) :
      Movement world event next

/-- A step that tells no connection anything. -/
theorem movement_of_undelivered {world : World} {event : Event}
    (undelivered : world.sweep.delivery? event = none) :
    world.Movement event (world.step event).1 := by
  have untold : world.told? event = none := by
    rw [told?, undelivered]
    rfl
  cases event with
  | receive | accept | report | complete | close | detach => cases undelivered
  | run position =>
      refine .quiet (by simp) untold ?_ ?_
      all_goals
        rw [step, run_of_undelivered undelivered]
        rfl
  | connect => exact .opened rfl untold rfl rfl
  | allow | stop | advance => exact .quiet (by simp) untold rfl rfl

/-- Every step is one of the movements. -/
theorem movement_step (world : World) (event : Event) :
    world.Movement event (world.step event).1 := by
  cases delivered : world.sweep.delivery? event with
  | none => exact movement_of_undelivered delivered
  | some delivery =>
      have statistics := statistics_of_delivery delivered
      cases present : delivery.world.session? delivery.connection with
      | none =>
          refine .quiet ?_ ?_ ?_ ?_
          · rintro rfl
            cases delivered
          · rw [told?, delivered, Option.bind_some, present]
            rfl
          · rw [step, apply_of_delivery delivered, atConnection, present]
            have same := connections_of_delivery delivered
            exact same
          · rw [step, apply_of_delivery delivered, atConnection, present]
            exact statistics
      | some session =>
          have told := told_of_delivery delivered present
          obtain ⟨inside, here⟩ := List.getElem?_eq_some_iff.mp (found_of_told told)
          obtain ⟨front, back, before, -, after⟩ :=
            @List.exists_of_set _ _ (session.respond delivery.input).1.connection _ inside
          rw [here] at before
          rw [step_of_told told, after]
          refine .told told before ?_
          rw [(session?_eq_some.mp present).2]
          exact statistics

end World

end RespServer
