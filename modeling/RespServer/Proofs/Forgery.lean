import RespServer.Proofs.Authentication
import RespServer.Proofs.Ordering
import RespServer.Proofs.Repetition

/-!
Contract: whether a client reads the replies that were written.

Owns:
- `IsGenuine`, commands of the kind that their names say, and replies without line ends;
- that all answers are safe exactly if no command that is carried out repeats a line end;
- that exactly then the replies are read back from their wire forms as they were written.

Does not own: which texts replies repeat (`Command.repeated?`).

The answers of a connection and the commands that it carries out are two accounts of the same
turns. So they are compared turn by turn, along the queue and along the run, and no other
invariant is needed than that what waits in a queue is genuine.
-/

namespace RespServer

open Text

/-! ## What is genuine -/

/-- The reply that a completion calls for holds no line end. -/
def IsSafeCompletion (result : Except Failure Frame) : Prop :=
  ∀ frame ∈ completionReply? result, frame.LineSafe

/-- A command of the kind that its name says, or a reply without a line end. -/
def Waiting.IsGenuine : Waiting → Prop
  | .command arrived => arrived.IsNamed
  | .reply frame => frame.LineSafe

/-- What is told is a command of the kind that its name says, or calls for no reply with a line
end. -/
def Input.IsGenuine : Input → Prop
  | .command arrived => arrived.IsNamed
  | .failure cause => cause.IsSafe
  | .completion _ result => IsSafeCompletion result
  | .close | .detach => True

/-- Commands that arrive are of the kind that their names say; failures and completions that others
report call for no reply with a line end. -/
def World.Event.IsGenuine : World.Event → Prop
  | .receive _ command => command.IsNamed
  | .report _ cause => cause.IsSafe
  | .complete _ _ result => IsSafeCompletion result
  | .connect | .accept _ _ | .run _ | .close _ | .detach _ | .allow _ | .stop | .advance _ => True

/-- Only commands and replies that are genuine wait. -/
def Connection.IsGenuine (connection : Connection) : Prop :=
  ∀ waiting ∈ connection.queue, waiting.IsGenuine

/-- Deferred work is answered with counts and octets. -/
theorem Work.isSafe_report {work : Work} {store : Store} {result : Except Failure Frame}
    (reported : (work.run store).1.report = some result) : IsSafeCompletion result := by
  have replied : ∀ {frame : Frame}, frame.LineSafe →
      (WorkResult.reply frame).report = some result → IsSafeCompletion result := by
    intro frame safe same
    cases same
    intro written member
    cases member
    exact safe
  cases work with
  | delete | countKeys => exact replied (Frame.lineSafe_integer _) reported
  | storeEach | clear => exact replied Request.lineSafe_ok reported
  | readEach keys =>
      refine replied (Frame.lineSafe_array fun element member => ?_) reported
      obtain ⟨key, -, rfl⟩ := List.mem_map.mp member
      unfold valueOrNull
      split
      · exact Frame.lineSafe_bulk _
      · exact Frame.lineSafe_null
  | listKeys pattern =>
      rw [run] at reported
      split at reported
      · cases reported
      · refine replied (Frame.lineSafe_array fun element member => ?_) reported
        obtain ⟨key, -, rfl⟩ := List.mem_map.mp member
        exact Frame.lineSafe_bulk _

theorem Failure.isSafe_command (cause : CommandError) : (Failure.command cause).IsSafe :=
  isSafe_of_reply rfl (by decide)

theorem Input.isGenuine_ofFrame (frame : Frame) : (Input.ofFrame frame).IsGenuine := by
  unfold Input.ofFrame
  cases read : Command.ofFrame? frame with
  | error cause => exact Failure.isSafe_command cause
  | ok command =>
      unfold Command.ofFrame? at read
      split at read
      · cases read
      · split at read
        · cases read
        · split at read
          · cases read
          · cases read
            exact Command.isNamed_new _ _
      · cases read

namespace Session

/-! ## One turn -/

theorem lineSafe_gate? {session : Session} {kind : CommandKind} {rejection : Frame}
    (gate : session.gate? kind = some rejection) : rejection.LineSafe := by
  have named : ∀ {words : String}, IsPlain words → (Frame.failure (kind.name ++ words)).LineSafe :=
    fun plain => (Frame.lineSafe_failure _).mpr ((isPlain_name kind).append plain).notHasLineEnd
  unfold gate? at gate
  split at gate
  · cases gate
    exact Failure.isSafe_of_reply rfl (by decide)
  · split at gate
    · cases gate
      exact (Frame.lineSafe_error _).mpr (IsPlain.notHasLineEnd (by decide))
    · split at gate
      · cases gate
        rw [notSupported, Frame.lineSafe_failure]
        exact ((((isPlain_name kind).append (by decide)).append (by decide)).append
          (by decide)).append (by decide) |>.notHasLineEnd
      · split at gate
        · cases gate
          exact named (by decide)
        · cases gate

/-- The reply to an arrival in its turn is safe exactly if the command that is carried out repeats
no line end. -/
theorem lineSafe_replyTo?_iff (session : Session) {arrival : Waiting}
    (genuine : arrival.IsGenuine) :
    (∀ frame ∈ session.replyTo? arrival, frame.LineSafe) ↔
      ∀ command ∈ session.admitted? arrival, ¬command.RepeatsLineEnd := by
  cases arrival with
  | reply frame =>
      refine iff_of_true ?_ fun _ none => (Option.not_mem_none _ none).elim
      rintro written ⟨⟩
      exact genuine
  | command command =>
      rw [replyTo?]
      cases gate : session.gate? command.kind with
      | some rejection =>
          rw [admitted?_of_rejected gate]
          refine iff_of_true ?_ fun _ none => (Option.not_mem_none _ none).elim
          rintro written ⟨⟩
          exact lineSafe_gate? gate
      | none =>
          rw [admitted?_of_passed gate]
          refine (Command.isSafe_execute_iff genuine _).trans ?_
          simp only [Option.mem_some_iff, forall_eq']

/-- The answers of a drained queue are safe exactly if no command that is carried out repeats a
line end. -/
theorem lineSafe_drainAnswers_iff {queue : List Waiting}
    (genuine : ∀ waiting ∈ queue, waiting.IsGenuine) (session : Session) :
    (∀ answer ∈ drainAnswers queue session, answer.frame.LineSafe) ↔
      ∀ command ∈ drainExecuted queue session, ¬command.RepeatsLineEnd := by
  induction queue generalizing session with
  | nil => exact iff_of_true (List.forall_mem_nil _) (List.forall_mem_nil _)
  | cons arrival rest inductionHypothesis =>
      obtain ⟨first, others⟩ := List.forall_mem_cons.mp genuine
      -- both accounts are that of the first turn and, if the draining goes on, that of the rest
      rw [drainAnswers, drainExecuted, List.forall_mem_append, List.forall_mem_append]
      refine and_congr ?_ ?_
      · simpa using session.lineSafe_replyTo?_iff first
      · cases session.takeUp arrival rest with
        | inFlight | aborted => exact iff_of_true (List.forall_mem_nil _) (List.forall_mem_nil _)
        | answered next =>
            dsimp only
            split
            · exact inductionHypothesis others next
            · exact iff_of_true (List.forall_mem_nil _) (List.forall_mem_nil _)

/-! ## One reaction -/

section Reactions

variable {session : Session} {input : Input}

theorem isGenuine_of_arrival? {arrival : Waiting} (genuine : input.IsGenuine)
    (arrives : session.arrival? input = some arrival) : arrival.IsGenuine := by
  unfold arrival? at arrives
  split at arrives
  · cases input with
    | command arrived =>
        cases arrives
        exact genuine
    | failure cause =>
        obtain ⟨frame, replied, rfl⟩ := Option.map_eq_some_iff.mp arrives
        unfold Failure.response? at replied
        split at replied
        · cases replied
        · cases replied
          exact genuine
    | completion | close | detach => cases arrives
  · cases arrives

/-- What a connection answers to an input is safe exactly if no command that it carries out repeats
a line end. -/
theorem lineSafe_answersTo_iff (waiting : session.connection.IsGenuine)
    (genuine : input.IsGenuine) :
    (∀ answer ∈ session.answersTo input, answer.frame.LineSafe) ↔
      ∀ command ∈ session.executedBy input, ¬command.RepeatsLineEnd := by
  cases openness : session.connection.isOpen with
  | false =>
      unfold answersTo executedBy
      rw [openness]
      exact iff_of_true (List.forall_mem_nil _) (List.forall_mem_nil _)
  | true =>
      cases input with
      | command arrived =>
          unfold answersTo executedBy
          rw [if_pos openness, if_pos openness]
          dsimp only
          split
          · refine lineSafe_drainAnswers_iff ?_ _
            rw [List.forall_mem_singleton]
            exact genuine
          · exact iff_of_true (List.forall_mem_nil _) (List.forall_mem_nil _)
      | failure cause =>
          unfold answersTo executedBy
          rw [if_pos openness, if_pos openness]
          dsimp only
          refine iff_of_true ?_ (List.forall_mem_nil _)
          intro answer answered
          split at answered
          · obtain ⟨frame, replied, rfl⟩ : ∃ frame, cause.response? = some frame ∧
                Answer.mk (.reply frame) frame = answer := by simpa using answered
            unfold Failure.response? at replied
            split at replied
            · cases replied
            · cases replied
              exact genuine
          · cases answered
      | completion id result =>
          unfold executedBy
          rw [if_pos openness]
          dsimp only
          cases head : takeHead? id session.connection.queue with
          | none =>
              rw [answersTo_of_missing openness head]
              exact iff_of_true (List.forall_mem_nil _) (List.forall_mem_nil _)
          | some found =>
              obtain ⟨command, rest⟩ := found
              obtain ⟨queue, rfl⟩ := head_of_takeHead? head
              rw [answersTo, if_pos openness]
              simp only [queue]
              cases reply : completionReply? result with
              | none =>
                  obtain ⟨-, isClosed, -⟩ := settleHead_of_broken openness command rest reply
                  rw [if_neg (Bool.eq_false_iff.mp isClosed)]
                  exact iff_of_true (List.forall_mem_nil _) (List.forall_mem_nil _)
              | some frame =>
                  obtain ⟨-, stillOpen⟩ := settleHead_of_reply openness command rest reply
                  dsimp only
                  rw [if_pos rfl, if_pos stillOpen, List.forall_mem_cons]
                  have safe : frame.LineSafe := genuine frame reply
                  have others : ∀ left ∈ rest, left.IsGenuine := fun left member =>
                    waiting left (queue ▸ List.mem_cons_of_mem _ member)
                  rw [← lineSafe_drainAnswers_iff others]
                  exact and_iff_right safe
      | close | detach =>
          unfold answersTo executedBy
          rw [if_pos openness, if_pos openness]
          exact iff_of_true (List.forall_mem_nil _) (List.forall_mem_nil _)

theorem Drained.isGenuine {queue : List Waiting} {begun : Session} {progress : Progress}
    (drained : Drained queue begun progress) (genuine : ∀ waiting ∈ queue, waiting.IsGenuine) :
    progress.1.connection.IsGenuine := by
  unfold Connection.IsGenuine
  cases drained with
  | settled answered later isOpen left | closed answered later isClosed left =>
      rw [left]
      exact List.forall_mem_nil _
  | inFlight done work split deferred answered later isOpen left =>
      rw [split, List.forall_mem_append, List.forall_mem_cons] at genuine
      rw [left, List.forall_mem_cons]
      exact genuine.2
  | aborted done split atOnce execution answered later isOpen left =>
      rw [split, List.forall_mem_append, List.forall_mem_cons] at genuine
      rw [left]
      exact genuine.2.2

/-- Only genuine arrivals wait after a reaction. -/
theorem Reaction.isGenuine {progress : Progress} (reaction : Reaction session input progress)
    (waiting : session.connection.IsGenuine) (genuine : input.IsGenuine) :
    progress.1.connection.IsGenuine := by
  unfold Connection.IsGenuine at waiting ⊢
  cases reaction with
  | closed nothing silent advances isClosed queue
  | outOfTurn told isOpen missing silent advances isClosed queue =>
      rw [queue]
      exact List.forall_mem_nil _
  | waits arrival arrives busy silent advances isOpen queue =>
      rw [queue, List.forall_mem_append, List.forall_mem_singleton]
      exact ⟨waiting, isGenuine_of_arrival? genuine arrives⟩
  | taken arrival arrives idle answers advances isOpen =>
      refine (drained_drain _ isOpen).isGenuine ?_
      rw [List.forall_mem_singleton]
      exact isGenuine_of_arrival? genuine arrives
  | resumed told wasOpen head answers advances isOpen =>
      rw [head, List.forall_mem_cons] at waiting
      exact (drained_drain _ isOpen).isGenuine waiting.2
  | detached told => exact waiting

end Reactions

end Session

/-! ## Runs -/

/-- A connection that has written the frames of its answers, as someone takes them. -/
structure Connection.Records (connection : Connection) (given : List Answer) : Prop where
  listening : connection.listening = true
  written : connection.written = given.map Answer.frame

namespace World

/-- Only genuine arrivals wait in any queue. -/
def IsGenuine (world : World) : Prop :=
  ∀ {index : Nat} {connection : Connection},
    world.connections[index]? = some connection → connection.IsGenuine

theorem isGenuine_of_told {world : World} {index : Nat} {event : Event} {session : Session}
    {input : Input} (genuine : event.IsGenuine)
    (told : world.inputTo? index event = some (session, input)) : input.IsGenuine := by
  obtain ⟨delivery, delivered, -, rfl, -⟩ := delivery_of_told told
  cases event with
  | receive | report | complete =>
      cases delivered
      exact genuine
  | accept connection frame =>
      cases delivered
      exact Input.isGenuine_ofFrame frame
  | run position =>
      obtain ⟨job, result, -, reported, rfl⟩ := job_of_runDelivery? delivered
      exact Work.isSafe_report reported
  | close | detach =>
      cases delivered
      exact trivial
  | connect | allow | stop | advance => cases delivered

theorem IsGenuine.step {world : World} (waiting : world.IsGenuine) (orderly : world.Orderly)
    {event : Event} (genuine : event.IsGenuine) : (world.step event).1.IsGenuine := by
  intro index connection found
  cases origin_of_found found with
  | kept untold found => exact waiting found
  | opened untold fresh new =>
      rw [new]
      exact nofun
  | told told reacts =>
      rw [reacts]
      exact (orderly.reaction told).isGenuine (waiting (found_of_told told))
        (isGenuine_of_told genuine told)

/-- The answers of a connection during a run are safe exactly if no command that it carries out
repeats a line end. -/
theorem lineSafe_answers_iff {world : World} (orderly : world.Orderly)
    (waiting : world.IsGenuine) {events : List Event}
    (genuine : ∀ event ∈ events, event.IsGenuine) (index : Nat) :
    (∀ answer ∈ world.answers index events, answer.frame.LineSafe) ↔
      ∀ command ∈ world.executed index events, ¬command.RepeatsLineEnd := by
  induction events generalizing world with
  | nil => exact iff_of_true (List.forall_mem_nil _) (List.forall_mem_nil _)
  | cons event rest inductionHypothesis =>
      obtain ⟨first, others⟩ := List.forall_mem_cons.mp genuine
      rw [answers, executed, List.forall_mem_append, List.forall_mem_append]
      refine and_congr ?_ ?_
      · cases told : world.inputTo? index event with
        | none => exact iff_of_true (List.forall_mem_nil _) (List.forall_mem_nil _)
        | some telling =>
            exact Session.lineSafe_answersTo_iff (waiting (found_of_told told))
              (isGenuine_of_told first told)
      · exact inductionHypothesis (orderly.step event) (waiting.step orderly first) others

/-- A step adds the answers of a connection to what it has written. -/
theorem records_step {world : World} (orderly : world.Orderly) {index : Nat}
    {given : List Answer}
    (records : ∀ connection, world.connections[index]? = some connection →
      connection.Records given)
    (unborn : world.connections[index]? = none → given = []) {event : Event}
    (attached : event ≠ .detach index) {connection : Connection}
    (found : (world.step event).1.connections[index]? = some connection) :
    connection.Records (given ++ world.answers index [event]) := by
  rw [answers, answers, List.append_nil]
  cases origin_of_found found with
  | kept untold found =>
      rw [untold, List.append_nil]
      exact records connection found
  | opened untold fresh new =>
      obtain rfl := unborn (List.getElem?_eq_none (Nat.le_of_eq fresh.symm))
      rw [untold, new]
      exact ⟨rfl, rfl⟩
  | told told reacts =>
      obtain ⟨listening, written⟩ := records _ (found_of_told told)
      obtain ⟨submitted, advances⟩ :=
        (orderly.reaction told).advances (attached_of_told told attached)
      rw [told, reacts]
      refine ⟨advances.listening.trans listening, ?_⟩
      rw [advances.written_of_listening listening, written, List.map_append]

/-- A connection has written the frames of its answers, in order, whatever happens to it. -/
theorem records_after {world : World} (orderly : world.Orderly) {index : Nat}
    {given : List Answer}
    (records : ∀ connection, world.connections[index]? = some connection →
      connection.Records given)
    (unborn : world.connections[index]? = none → given = []) {events : List Event}
    (attached : .detach index ∉ events) {connection : Connection}
    (found : (world.after events).connections[index]? = some connection) :
    connection.Records (given ++ world.answers index events) := by
  induction events generalizing world given with
  | nil =>
      rw [answers, List.append_nil]
      exact records connection found
  | cons event rest inductionHypothesis =>
      obtain ⟨attachedNow, attachedLater⟩ := List.ne_and_not_mem_of_not_mem_cons attached
      rw [answers_cons, ← List.append_assoc]
      refine inductionHypothesis (orderly.step event) ?_ ?_ attachedLater found
      · intro connection found
        exact records_step orderly records unborn (Ne.symm attachedNow) found
      · intro absent
        obtain ⟨before, -, gaveNothing⟩ := unborn_step absent
        rw [unborn before, gaveNothing]
        rfl

/-- A connection writes one frame for each of its answers. They are read back from their wire forms
as they were written exactly if no line of them holds a line end, and that is exactly if none of
the commands that the connection carried out has a line end in a text that its reply repeats: the
name of an unknown command, an unknown subcommand, or a parameter or a value of a setting that
cannot be changed to it. -/
theorem written_read_back_iff (services : Services) {events : List Event} {index : Nat}
    (genuine : ∀ event ∈ events, event.IsGenuine) (attached : .detach index ∉ events)
    {connection : Connection}
    (found : (after ⟨services, []⟩ events).connections[index]? = some connection)
    (few : ∀ frame ∈ connection.written, ∀ count ∈ frame.counts, count < Frame.countLimit)
    (limit : Nat) :
    connection.written = (answers ⟨services, []⟩ index events).map Answer.frame ∧
      (Frame.harvest limit (Frame.encodeEach connection.written) =
          ⟨connection.written, none, []⟩ ↔ ∀ frame ∈ connection.written, frame.LineSafe) ∧
      ((∀ frame ∈ connection.written, frame.LineSafe) ↔
        ∀ command ∈ executed ⟨services, []⟩ index events, ¬command.RepeatsLineEnd) := by
  have orderly := orderly_of_none services
  obtain ⟨-, written⟩ := records_after orderly nofun (fun _ => rfl) attached found
  rw [List.nil_append] at written
  refine ⟨written, ?_, ?_⟩
  · rw [Frame.harvest_encodeEach_iff]
    constructor
    · exact fun recoverable frame member => (recoverable frame member).lines
    · exact fun safe frame member =>
        (Frame.recoverable_iff frame).mpr ⟨safe frame member, few frame member⟩
  · rw [← lineSafe_answers_iff orderly nofun genuine index, written]
    exact List.forall_mem_map

/-- Line ends in octets that are echoed, in a key, and a lone half of one in a name: all replies are
read back. -/
theorem echoed_line_ends_read_back :
    let start : World := ⟨Services.start none false, []⟩
    let events : List Event :=
      [.connect, .receive 0 (Command.new "ECHO" [[13, 10]]), .receive 0 (Command.new "x\n" []),
        .receive 0 (Command.new "GET" [[13, 10]])]
    ∃ connection, (start.after events).connections[0]? = some connection ∧
      connection.written.length = 3 ∧
      Frame.harvest 1 (Frame.encodeEach connection.written) = ⟨connection.written, none, []⟩ := by
  intro start events
  obtain ⟨connection, found⟩ :
      ∃ connection, (start.after events).connections[0]? = some connection := ⟨_, rfl⟩
  have written : connection.written =
      [.bulk [13, 10], .error "ERR unknown command 'x\n'", .null] := by
    have same : (start.after events).connections[0]?.map Connection.written = some
      [.bulk [13, 10], .error "ERR unknown command 'x\n'", .null] := rfl
    rw [found] at same
    exact Option.some.inj same
  have few : ∀ frame ∈ connection.written, ∀ count ∈ frame.counts, count < Frame.countLimit := by
    rw [written]
    decide
  have genuine : ∀ event ∈ events, event.IsGenuine := by
    intro event member
    simp only [events, List.mem_cons, List.not_mem_nil, or_false] at member
    rcases member with rfl | rfl | rfl | rfl
    · exact trivial
    all_goals exact Command.isNamed_new _ _
  have attached : .detach 0 ∉ events := by simp [events]
  have repeatsNone : ∀ command ∈ executed start 0 events, ¬command.RepeatsLineEnd := by
    decide +kernel
  obtain ⟨-, readBack, safe⟩ :=
    written_read_back_iff (Services.start none false) genuine attached found few 1
  refine ⟨connection, found, ?_, readBack.mpr (safe.mpr repeatsNone)⟩
  rw [written]
  rfl

/-- The name of an unknown command goes back in a line as it came: the client reads two replies to
one command, and the second of them is what the name says. -/
theorem unknown_name_forges_reply :
    let start : World := ⟨Services.start none false, []⟩
    let events : List Event := [.connect, .receive 0 (Command.new "x\r\n+OK" [])]
    ∃ connection, (start.after events).connections[0]? = some connection ∧
      connection.written = [.error "ERR unknown command 'x\r\n+OK'"] ∧
      Frame.harvest 1 (Frame.encodeEach connection.written) =
        ⟨[.error "ERR unknown command 'x", .simple "OK'"], none, []⟩ := by
  intro start events
  obtain ⟨connection, found⟩ :
      ∃ connection, (start.after events).connections[0]? = some connection := ⟨_, rfl⟩
  have written : connection.written = [.error "ERR unknown command 'x\r\n+OK'"] := by
    have same : (start.after events).connections[0]?.map Connection.written =
        some [.error "ERR unknown command 'x\r\n+OK'"] := rfl
    rw [found] at same
    exact Option.some.inj same
  have sameWire : Frame.encodeEach [.error "ERR unknown command 'x\r\n+OK'"] =
      Frame.encodeEach [.error "ERR unknown command 'x", .simple "OK'"] := by
    decide +kernel
  refine ⟨connection, found, written, ?_⟩
  rw [written, sameWire, Frame.harvest_encodeEach_iff, List.forall_mem_cons,
    List.forall_mem_singleton]
  rw [Frame.recoverable_error, Frame.recoverable_simple]
  exact ⟨IsPlain.notHasLineEnd (by decide), IsPlain.notHasLineEnd (by decide)⟩

end World

end RespServer
