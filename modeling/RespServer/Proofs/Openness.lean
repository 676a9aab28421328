import RespServer.Proofs.Answering
import RespServer.Proofs.Authentication
import RespServer.Proofs.Pool

/-!
Contract: a connection stays open until it is asked to close.

Owns:
- that no request fails like a broken connection;
- that only the command to quit closes a connection in its turn, in a queue, and when the connection
  is told anything but to close.

Does not own: what becomes of a closed connection (`Proofs.Closing`).

A failure closes the connection without a reply only if it is one of a broken connection. No reader
of arguments and no operation of the store has such a failure, so that every failure of a command is
answered.
-/

namespace RespServer

/-- Whether a failure is not one of a broken connection. -/
abbrev Failure.IsWhole (cause : Failure) : Prop :=
  cause.isIo = false

theorem refusalsAre_whole (name : String) : RefusalsAre Failure.IsWhole name :=
  ⟨rfl, rfl, rfl, rfl, rfl, rfl, fun _ => rfl⟩

/-! ## Outcomes -/

/-- Whether an outcome is not the failure of a broken connection. -/
def Outcome.IsWhole (outcome : Outcome) : Prop :=
  ∀ cause, outcome = .failed cause → cause.IsWhole

namespace Request

theorem isWhole_failed {cause : Failure} (whole : cause.IsWhole) :
    (Outcome.failed cause).IsWhole := by
  rintro _ ⟨⟩
  exact whole

/-- No failure of a request is one of a broken connection; of replies nothing is asked. -/
theorem answersAre_whole : AnswersAre Failure.IsWhole fun _ => True where
  store := ⟨rfl, rfl, rfl⟩
  notFloat := rfl
  notFinite := rfl
  badIndex := rfl
  integer _ := trivial
  bulk _ := trivial
  null := trivial
  simple _ _ := trivial
  error _ _ := trivial
  bulks _ _ := trivial

theorem isWhole_runClient (subcommand : String) : (runClient subcommand).IsWhole := by
  unfold runClient
  split
  · exact nofun
  · split
    · exact nofun
    · exact isWhole_failed rfl

theorem isWhole_runChangeSetting (parameter value : String) (scene : Scene) :
    (runChangeSetting parameter value scene).1.IsWhole := by
  unfold runChangeSetting
  split
  · exact isWhole_failed rfl
  · split
    · exact isWhole_failed rfl
    · split
      · exact isWhole_failed rfl
      · exact nofun

/-- No request fails like a broken connection. -/
theorem isWhole_run (request : Request) (scene : Scene) : (request.run scene).1.IsWhole := by
  cases silent : request.repeats with
  | false =>
      have meets := meets_run answersAre_whole silent scene
      generalize (request.run scene).1 = outcome at meets
      cases meets with
      | failed right => exact isWhole_failed right
      | reply | deferred | aborted => exact nofun
  | true =>
      cases request with
      | client subcommand => exact isWhole_runClient subcommand
      | changeSetting parameter value => exact isWhole_runChangeSetting parameter value scene
      | unknown name => exact nofun
      | _ => cases silent

end Request

/-- Every failure of a command is answered. -/
theorem Command.isWhole_execute (command : Command) (scene : Scene) :
    (command.execute scene).1.IsWhole := by
  unfold Command.execute
  split
  · refine Request.isWhole_failed ?_
    exact Request.accepted_of_ofCommand (refusalsAre_whole _) (fun _ _ => rfl) ‹_›
  · exact Request.isWhole_run _ scene

/-- Whether an input is neither the end of a connection nor a failure that means it. -/
def Input.IsWhole : Input → Prop
  | .failure cause | .completion _ (.error cause) => cause.IsWhole
  | .command _ | .completion _ (.ok _) | .detach => True
  | .close => False

namespace Session

/-! ## Turns and queues -/

theorem isOpen_fail {session : Session} (isOpen : session.connection.isOpen = true)
    {cause : Failure} (whole : cause.IsWhole) :
    (session.fail cause).connection.isOpen = true := by
  rw [fail, if_neg (Bool.eq_false_iff.mp whole), isOpen_write]
  exact isOpen

/-- A command that is carried out at once closes the connection only if it asks for that. -/
theorem quit_of_conclude {session : Session} (isOpen : session.connection.isOpen = true)
    {kind : CommandKind} {outcome : Outcome} (whole : outcome.IsWhole)
    (isClosed : (session.conclude kind outcome).1.connection.isOpen = false) : kind = .quit := by
  cases outcome with
  | reply frame =>
      by_cases quits : kind = .quit
      · exact quits
      · rw [conclude, if_neg quits, isOpen_write, isOpen] at isClosed
        cases isClosed
  | failed cause =>
      rw [conclude, isOpen_fail isOpen (whole cause rfl)] at isClosed
      cases isClosed
  | deferred | aborted =>
      rw [conclude, isOpen] at isClosed
      cases isClosed

theorem quit_of_answer {session : Session} (isOpen : session.connection.isOpen = true)
    {command : Command} (isClosed : (session.answer command).1.connection.isOpen = false) :
    session.gate? command.kind = none ∧ command.kind = .quit := by
  rw [answer_eq] at isClosed
  cases gate : session.gate? command.kind with
  | some rejection =>
      rw [gate] at isClosed
      dsimp only at isClosed
      rw [isOpen_write, isOpen] at isClosed
      cases isClosed
  | none =>
      rw [gate] at isClosed
      refine ⟨rfl, quit_of_conclude ?_ (Command.isWhole_execute command _) isClosed⟩
      exact isOpen

theorem isOpen_of_begin {session next : Session} (isOpen : session.connection.isOpen = true)
    {command : Command} (deferred : command.kind.isDeferred = true) {rest : List Waiting}
    (begun : session.begin command rest = .answered next) : next.connection.isOpen = true := by
  have beginning := beginning_begin session rest deferred
  rw [begun] at beginning
  cases beginning with
  | rejected gate =>
      rw [isOpen_write]
      exact isOpen
  | failed gate ran =>
      have whole := Command.isWhole_execute command
        ⟨(session.withHead command rest).services, session.connection.authenticated⟩
      rw [ran] at whole
      have stillOpen : ((session.withHead command rest).withQueue rest).connection.isOpen = true :=
        isOpen
      rw [connection_endCommand]
      exact isOpen_fail stillOpen (whole _ rfl)

/-- A turn closes the connection only if it carries out the command that asks for that. -/
theorem quit_of_takeUp {session next : Session} (isOpen : session.connection.isOpen = true)
    {arrival : Waiting} {rest : List Waiting}
    (taken : session.takeUp arrival rest = .answered next)
    (isClosed : next.connection.isOpen = false) :
    ∃ command, session.admitted? arrival = some command ∧ command.kind = .quit := by
  cases arrival with
  | reply frame =>
      cases taken
      rw [isOpen_write] at isClosed
      exact absurd isOpen (Bool.eq_false_iff.mp isClosed)
  | command command =>
      rw [takeUp] at taken
      split at taken
      · rename_i deferred
        rw [isOpen_of_begin isOpen deferred taken] at isClosed
        cases isClosed
      · split at taken
        · rename_i answered
          cases taken
          have closed : ((session.withQueue rest).answer command).1.connection.isOpen = false := by
            rw [answered]
            exact isClosed
          have stillOpen : (session.withQueue rest).connection.isOpen = true := isOpen
          obtain ⟨gate, quits⟩ := quit_of_answer stillOpen closed
          have admitted : session.gate? command.kind = none := gate
          refine ⟨command, ?_, quits⟩
          rw [admitted?, admitted]
          rfl
        · cases taken

theorem quit_of_drain {queue : List Waiting} {session : Session}
    (isOpen : session.connection.isOpen = true)
    (isClosed : (drain queue session).1.connection.isOpen = false) :
    ∃ command ∈ drainExecuted queue session, command.kind = .quit := by
  induction queue generalizing session with
  | nil =>
      rw [drain] at isClosed
      exact absurd isOpen (Bool.eq_false_iff.mp isClosed)
  | cons arrival rest inductionHypothesis =>
      have turn := turn_takeUp isOpen arrival rest
      rw [drain_cons isOpen] at isClosed
      rw [drainExecuted]
      cases taken : session.takeUp arrival rest with
      | answered next =>
          rw [taken] at isClosed
          cases openness : next.connection.isOpen with
          | false =>
              obtain ⟨command, admitted, quits⟩ := quit_of_takeUp isOpen taken openness
              refine ⟨command, ?_, quits⟩
              rw [admitted]
              exact List.mem_append_left _ (List.mem_singleton_self command)
          | true =>
              dsimp only at isClosed ⊢
              rw [if_pos openness] at isClosed ⊢
              obtain ⟨command, member, quits⟩ := inductionHypothesis openness isClosed
              exact ⟨command, List.mem_append_right _ member, quits⟩
      | inFlight next | aborted next reason =>
          rw [taken] at isClosed turn
          cases turn
          exact absurd ‹next.connection.isOpen = true› (Bool.eq_false_iff.mp isClosed)

/-! ## Inputs -/

theorem isOpen_settleHead {session : Session} (isOpen : session.connection.isOpen = true)
    (command : Command) (rest : List Waiting) {id : CommandId} {result : Except Failure Frame}
    (whole : (Input.completion id result).IsWhole) :
    (session.settleHead command rest result).connection.isOpen = true := by
  have replies : ∃ frame, completionReply? result = some frame := by
    cases result with
    | ok frame => exact ⟨frame, rfl⟩
    | error cause => exact ⟨cause.reply, if_neg (Bool.eq_false_iff.mp whole)⟩
  obtain ⟨frame, reply⟩ := replies
  exact (settleHead_of_reply isOpen command rest reply).2

/-- What a connection is told closes it only if the command that asks for that is carried out. -/
theorem quit_of_respond {session : Session} (isOpen : session.connection.isOpen = true)
    {input : Input} (whole : input.IsWhole)
    (inTurn : ∀ id head, (session.respond input).2 ≠ some (.outOfTurn id head))
    (isClosed : (session.respond input).1.connection.isOpen = false) :
    ∃ command ∈ session.executedBy input, command.kind = .quit := by
  unfold executedBy
  rw [if_pos isOpen]
  cases input with
  | command arrived =>
      rw [respond] at isClosed
      dsimp only
      by_cases idle : session.connection.queue = []
      · rw [receive_idle isOpen idle] at isClosed
        rw [if_pos idle]
        have stillOpen : session.countCommand.connection.isOpen = true := isOpen
        exact quit_of_drain stillOpen isClosed
      · rw [receive_busy isOpen idle] at isClosed
        exact absurd isOpen (Bool.eq_false_iff.mp isClosed)
  | failure cause =>
      have answered : (session.report cause).connection.isOpen = true := by
        unfold report
        rw [if_neg (Bool.eq_false_iff.mp whole)]
        split
        · rw [isOpen_write]
          exact isOpen
        · exact isOpen
      exact absurd answered (Bool.eq_false_iff.mp isClosed)
  | completion id result =>
      cases head : takeHead? id session.connection.queue with
      | none =>
          have early : (session.respond (.completion id result)).2 =
              some (.outOfTurn id (headDisplay session.connection.queue)) := by
            rw [respond, complete, if_neg (by simp [isOpen]), head]
          exact absurd early (inTurn _ _)
      | some found =>
          obtain ⟨command, rest⟩ := found
          have settled := isOpen_settleHead isOpen command rest whole
          rw [respond, complete_inTurn isOpen head, if_pos settled] at isClosed
          dsimp only
          rw [head]
          dsimp only
          rw [if_pos settled]
          exact quit_of_drain settled isClosed
  | close => exact absurd whole id
  | detach => exact absurd isOpen (Bool.eq_false_iff.mp isClosed)

end Session

namespace World

/-! ## Runs -/

/-- Whether an event neither closes a connection nor tells it that it is broken. -/
def Event.sparesOpen (index : Nat) : Event → Bool
  | .report connection cause => connection ≠ index || !cause.isIo
  | .close connection => connection ≠ index
  | _ => true

theorem whole_of_report {work : Work} {store : Store} {cause : Failure}
    (report : (work.run store).1.report = some (.error cause)) : cause.IsWhole := by
  unfold WorkResult.report at report
  split at report <;> cases report <;> rfl

theorem isWhole_of_told {world : World} {index : Nat} {event : Event} {session : Session}
    {input : Input} (regular : event.isRegular = true) (spares : event.sparesOpen index = true)
    (told : world.inputTo? index event = some (session, input)) : input.IsWhole := by
  obtain ⟨delivery, delivered, here, rfl, -⟩ := delivery_of_told told
  cases event with
  | receive | detach =>
      cases delivered
      trivial
  | accept connection frame =>
      cases delivered
      dsimp only
      unfold Input.ofFrame
      split
      · trivial
      · rfl
  | report connection cause =>
      cases delivered
      subst here
      have whole : cause.isIo = false := by simpa [Event.sparesOpen] using spares
      exact whole
  | close connection =>
      cases delivered
      subst here
      simp [Event.sparesOpen] at spares
  | run position =>
      obtain ⟨job, completion, -, report, rfl⟩ := job_of_runDelivery? delivered
      cases completion with
      | ok frame => trivial
      | error cause => exact whole_of_report report
  | complete => cases regular
  | connect | allow | stop | advance => cases delivered

/-- A step closes a connection only if the connection carries out the command that asks for that. -/
theorem Fit.quit_of_step {world : World} (fit : world.Fit) {index : Nat} {event : Event}
    (regular : event.isRegular = true) (spares : event.sparesOpen index = true)
    (wasOpen : ∀ connection, world.connections[index]? = some connection →
      connection.isOpen = true)
    {connection : Connection} (found : (world.step event).1.connections[index]? = some connection)
    (isClosed : connection.isOpen = false) :
    ∃ command ∈ world.executed index [event], command.kind = .quit := by
  cases origin_of_found found with
  | kept untold present =>
      exact absurd (wasOpen connection present) (Bool.eq_false_iff.mp isClosed)
  | opened untold fresh new =>
      rw [new] at isClosed
      cases isClosed
  | told told reacts =>
      rw [reacts] at isClosed
      rw [executed, executed, told, List.append_nil]
      apply Session.quit_of_respond (wasOpen _ (found_of_told told))
        (isWhole_of_told regular spares told) _ isClosed
      intro id head aborted
      apply fit.inTurn regular id head
      rw [step_of_told told]
      exact aborted

/-- A connection that nobody else closes is open as long as it does not carry out the command that
asks for its end. -/
theorem Fit.open_after {world : World} (fit : world.Fit) {index : Nat} {events : List Event}
    (regular : ∀ event ∈ events, event.isRegular = true)
    (spares : ∀ event ∈ events, event.sparesOpen index = true)
    (wasOpen : ∀ connection, world.connections[index]? = some connection →
      connection.isOpen = true)
    (stays : ∀ command ∈ world.executed index events, command.kind ≠ .quit)
    {connection : Connection}
    (found : (world.after events).connections[index]? = some connection) :
    connection.isOpen = true := by
  induction events generalizing world with
  | nil => exact wasOpen connection found
  | cons event rest inductionHypothesis =>
      obtain ⟨regularNow, regularLater⟩ := List.forall_mem_cons.mp regular
      obtain ⟨sparesNow, sparesLater⟩ := List.forall_mem_cons.mp spares
      rw [executed_cons] at stays
      obtain ⟨staysNow, staysLater⟩ := List.forall_mem_append.mp stays
      refine inductionHypothesis (fit.step regularNow) regularLater sparesLater ?_ staysLater found
      intro next present
      cases openness : next.isOpen with
      | true => rfl
      | false =>
          obtain ⟨command, member, quits⟩ :=
            fit.quit_of_step regularNow sparesNow wasOpen present openness
          exact absurd quits (staysNow command member)

end World

end RespServer
