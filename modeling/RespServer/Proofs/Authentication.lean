import RespServer.Proofs.Run

/-!
Contract: what a connection that has not presented the secret can learn and change, and how a
connection becomes authenticated.

Owns:
- `Command.password?`, what a command presents as the secret;
- `executed`, the commands of a connection that pass the gates and are carried out;
- that a connection is authenticated exactly if one of them presented the secret, and stays so;
- that before that, its replies depend on public data only and the services keep everything but
  their statistics.

Does not own: what authenticated connections do.

## Two runs

The replies to a stranger are given by a function of what it said and of whether the server stops.
Two runs that agree on these agree on everything the client sees.
-/

namespace RespServer

/-- What a command presents as the secret: its only argument, or the second of two. -/
def Command.password? (command : Command) : Option Bytes :=
  match command.kind, command.arguments with
  | .auth, [password] | .auth, [_, password] => some password
  | _, _ => none

/-- Whether a command presents the secret, if there is one. -/
def Command.unlocks (secret? : Option Bytes) (command : Command) : Bool :=
  secret?.any fun secret => command.password? == some secret

/-! ## Requests -/

namespace Request

theorem ofCommand_auth {command : Command} (kind : command.kind = .auth) :
    ofCommand command =
      match command.password? with
      | some password => .ok (.auth password)
      | none => .error (.wrongNumberOfArguments command.name) := by
  obtain ⟨id, kind, name, arguments, started⟩ := command
  cases kind
  match arguments with
  | [] | [_] | [_, _] | _ :: _ :: _ :: _ => rfl

/-- Only the presentation of a secret changes what a connection may do. -/
theorem authenticated_run {request : Request} (other : request.owner? ≠ some .auth)
    (scene : Scene) :
    (request.run scene).2.authenticated = scene.authenticated := by
  have ofChange : ∀ change : Except Failure (Nat × Store),
      (changeOf change scene).2.authenticated = scene.authenticated := by
    intro change
    cases change <;> rfl
  have ofAdd : ∀ key increment, (runAdd key increment scene).2.authenticated =
      scene.authenticated := by
    intro key increment
    unfold runAdd
    split <;> rfl
  cases request with
  | auth password => exact absurd rfl other
  | append | removeFields => exact ofChange _
  | add key increment => exact ofAdd key increment
  | subtract key decrement =>
      unfold run
      dsimp only
      split
      · exact ofAdd key _
      · rfl
  | changeSetting parameter value =>
      unfold run runChangeSetting
      dsimp only
      repeat' split
      all_goals rfl
  | addFloat key increment =>
      unfold run runAddFloat
      dsimp only
      repeat' split
      all_goals rfl
  | take key =>
      unfold run runTake
      dsimp only
      split <;> rfl
  | set key value lifetime condition =>
      unfold run runSet
      dsimp only
      repeat' split
      all_goals rfl
  | expire key seconds =>
      unfold run runExpire
      dsimp only
      repeat' split
      all_goals rfl
  | ping payload => cases payload <;> rfl
  | select | setIfMissing =>
      unfold run
      dsimp only
      split <;> rfl
  | _ => rfl

end Request

/-- Carrying out a command authenticates exactly if it presents the secret. -/
theorem Command.authenticated_execute (command : Command) (scene : Scene) :
    (command.execute scene).2.authenticated =
      (scene.authenticated || command.unlocks scene.services.password) := by
  by_cases kind : command.kind = .auth
  · rw [execute, Request.ofCommand_auth kind, unlocks]
    cases presented : command.password? with
    | none =>
        cases scene.services.password <;> simp
    | some password =>
        dsimp only [Request.run, Request.runAuth]
        cases scene.services.password with
        | none => simp
        | some secret =>
            by_cases same : secret = password
            · simp [same]
            · simp [same, Ne.symm same]
  · have nothing : command.password? = none := by
      unfold password?
      split
      · exact absurd ‹_› kind
      · exact absurd ‹_› kind
      · rfl
    have locked : command.unlocks scene.services.password = false := by
      rw [unlocks, nothing]
      cases scene.services.password <;> rfl
    rw [locked, Bool.or_false, execute]
    cases read : Request.ofCommand command with
    | error cause => rfl
    | ok request =>
        have suits := Request.suits_of_ofCommand read
        exact Request.authenticated_run (fun owned => kind (suits.owner .auth owned)) scene

namespace Session

/-! ## Commands that are carried out -/

/-- The command that taking up an arrival carries out: one that no gate rejects. -/
def admitted? (session : Session) : Waiting → Option Command
  | .reply _ => none
  | .command command => if (session.gate? command.kind).isNone then some command else none

/-- The commands that draining a queue carries out, in order. -/
def drainExecuted : List Waiting → Session → List Command
  | [], _ => []
  | arrival :: rest, session =>
      (session.admitted? arrival).toList ++
        match session.takeUp arrival rest with
        | .answered next => if next.connection.isOpen then drainExecuted rest next else []
        | .inFlight _ | .aborted _ _ => []

/-- The commands that a connection carries out when it is told something. -/
def executedBy (session : Session) (input : Input) : List Command :=
  if session.connection.isOpen then
    match input with
    | .command arrived =>
        if session.connection.queue = [] then
          drainExecuted [.command (session.numbered arrived)] session.countCommand
        else []
    | .completion id result =>
        match takeHead? id session.connection.queue with
        | none => []
        | some (command, rest) =>
            let settled := session.settleHead command rest result
            if settled.connection.isOpen then drainExecuted rest settled else []
    | .failure _ | .close | .detach => []
  else []

/-- The secret stays what it is, and the connection is authenticated exactly if it was before or
one of the commands that were carried out presented the secret. -/
structure Access (before after : Session) (executed : List Command) : Prop where
  password : after.services.password = before.services.password
  authenticated : after.connection.authenticated =
    (before.connection.authenticated || executed.any (Command.unlocks before.services.password))

section Accesses

variable {session : Session}

theorem access_same (session : Session) : session.Access session [] :=
  ⟨rfl, by simp⟩

theorem Access.trans {first second third : Session} {earlier later : List Command}
    (begun : first.Access second earlier) (continued : second.Access third later) :
    first.Access third (earlier ++ later) where
  password := continued.password.trans begun.password
  authenticated := by
    rw [continued.authenticated, begun.authenticated, begun.password, List.any_append,
      Bool.or_assoc]

theorem access_withQueue (session : Session) (queue : List Waiting) :
    session.Access (session.withQueue queue) [] :=
  ⟨rfl, by simp [withQueue]⟩

theorem access_startCommand (session : Session) (kind : CommandKind) :
    session.Access (session.startCommand kind) [] :=
  ⟨rfl, by simp [startCommand]⟩

theorem access_endCommand (session : Session) (kind : CommandKind) :
    session.Access (session.endCommand kind) [] :=
  ⟨rfl, by simp [endCommand]⟩

theorem access_write (session : Session) (frame : Frame) :
    session.Access (session.write frame) [] := by
  unfold write
  split
  · exact ⟨rfl, by simp⟩
  · exact session.access_same

theorem access_close (session : Session) : session.Access session.close [] := by
  unfold close
  split
  · exact ⟨rfl, by simp⟩
  · exact session.access_same

theorem access_fail (session : Session) (cause : Failure) :
    session.Access (session.fail cause) [] := by
  unfold fail
  split
  · exact session.access_close
  · exact session.access_write _

theorem access_conclude (session : Session) (kind : CommandKind) (outcome : Outcome) :
    session.Access (session.conclude kind outcome).1 [] := by
  cases outcome with
  | reply frame =>
      unfold conclude
      dsimp only
      split
      · exact (session.access_write frame).trans (access_close _)
      · exact session.access_write frame
  | deferred => exact session.access_same
  | failed cause => exact session.access_fail cause
  | aborted => exact session.access_same

theorem access_perform (session : Session) (command : Command) :
    session.Access (session.perform command).2 [command] := by
  have continues := Command.continues_execute command
    ⟨session.services, session.connection.authenticated⟩
  have flag := Command.authenticated_execute command
    ⟨session.services, session.connection.authenticated⟩
  unfold perform
  split
  rename_i outcome scene executed
  rw [executed] at continues flag
  constructor
  · cases outcome <;> exact continues.password
  · rw [List.any_cons, List.any_nil, Bool.or_false]
    exact flag

theorem admitted?_of_rejected {command : Command} {rejection : Frame}
    (gate : session.gate? command.kind = some rejection) :
    session.admitted? (.command command) = none := by
  rw [admitted?, gate]
  rfl

theorem admitted?_of_passed {command : Command} (gate : session.gate? command.kind = none) :
    session.admitted? (.command command) = some command := by
  rw [admitted?, gate]
  rfl

theorem access_begin (session : Session) (command : Command) (rest : List Waiting) :
    session.Access (session.begin command rest).session
      (session.admitted? (.command command)).toList := by
  rw [begin]
  cases gate : session.gate? command.kind with
  | some rejection =>
      rw [admitted?_of_rejected gate]
      exact (session.access_withQueue rest).trans (access_write _ rejection)
  | none =>
      rw [admitted?_of_passed gate]
      have begun := (session.access_startCommand command.kind).trans
        (access_withQueue _ (.command { command with started := true } :: rest))
      have performed := begun.trans (access_perform _ command)
      dsimp only
      generalize ((session.startCommand command.kind).withQueue
        (.command { command with started := true } :: rest)).perform command = result at performed ⊢
      obtain ⟨outcome, next⟩ := result
      have settled : ∀ last : Session, (next.withQueue rest).Access last [] →
          session.Access (last.endCommand command.kind) [command] := fun last written =>
        ((performed.trans (next.access_withQueue rest)).trans written).trans
          (access_endCommand _ _)
      cases outcome with
      | reply frame => exact settled _ (access_write _ frame)
      | deferred work => exact performed
      | failed cause => exact settled _ (access_fail _ cause)
      | aborted reason => exact performed

theorem access_answer (session : Session) (command : Command) :
    session.Access (session.answer command).1 (session.admitted? (.command command)).toList := by
  rw [answer_eq]
  cases gate : session.gate? command.kind with
  | some rejection =>
      rw [admitted?_of_rejected gate]
      exact session.access_write rejection
  | none =>
      rw [admitted?_of_passed gate]
      have performed := (session.access_startCommand command.kind).trans (access_perform _ command)
      exact (performed.trans (access_endCommand _ command.kind)).trans (access_conclude _ _ _)

/-- Taking up an arrival carries out the command that the gates admit, and no other. -/
theorem access_takeUp (session : Session) (arrival : Waiting) (rest : List Waiting) :
    session.Access (session.takeUp arrival rest).session (session.admitted? arrival).toList := by
  cases arrival with
  | reply frame => exact (session.access_withQueue rest).trans (access_write _ frame)
  | command command =>
      rw [takeUp]
      split
      · exact session.access_begin command rest
      · have answered := (session.access_withQueue rest).trans (access_answer _ command)
        split
        · rename_i next result
          rw [result] at answered
          exact answered
        · rename_i next reason result
          rw [result] at answered
          exact answered

theorem access_drain (queue : List Waiting) (isOpen : session.connection.isOpen = true) :
    session.Access (drain queue session).1 (drainExecuted queue session) := by
  induction queue generalizing session with
  | nil => exact session.access_withQueue []
  | cons arrival rest inductionHypothesis =>
      have turn := access_takeUp session arrival rest
      rw [drain_cons isOpen, drainExecuted]
      cases taken : session.takeUp arrival rest with
      | inFlight next | aborted next reason =>
          rw [taken] at turn
          rw [List.append_nil]
          exact turn
      | answered next =>
          rw [taken] at turn
          dsimp only
          split
          · rename_i stillOpen
            exact turn.trans (inductionHypothesis stillOpen)
          · rw [List.append_nil]
            exact turn

theorem access_countCommand (session : Session) : session.Access session.countCommand [] :=
  ⟨rfl, by simp [countCommand]⟩

theorem access_settleHead (session : Session) (command : Command) (rest : List Waiting)
    (result : Except Failure Frame) :
    session.Access (session.settleHead command rest result) [] := by
  have replied : ∀ last : Session, (session.withQueue rest).Access last [] →
      session.Access (if command.started then last.endCommand command.kind else last) [] := by
    intro last written
    split
    · exact ((session.access_withQueue rest).trans written).trans (access_endCommand _ _)
    · exact (session.access_withQueue rest).trans written
  cases result with
  | ok frame => exact replied _ (access_write _ frame)
  | error cause => exact replied _ (access_fail _ cause)

theorem access_report (session : Session) (cause : Failure) :
    session.Access (session.report cause) [] := by
  unfold report
  split
  · exact session.access_close
  · split
    · exact session.access_write _
    · exact session.access_withQueue _

/-- Whatever a connection is told, it is authenticated by what it carries out only. -/
theorem access_respond (session : Session) (input : Input) :
    session.Access (session.respond input).1 (session.executedBy input) := by
  cases openness : session.connection.isOpen with
  | false =>
      have nothing : session.executedBy input = [] := if_neg (by simp [openness])
      rw [nothing]
      cases input with
      | command arrived =>
          rw [respond, receive_of_closed openness]
          exact session.access_countCommand
      | failure cause => exact session.access_report cause
      | completion id result =>
          rw [respond, complete, if_pos (by simp [openness])]
          exact session.access_same
      | close => exact session.access_close
      | detach => exact ⟨rfl, by simp [respond, detach]⟩
  | true =>
      unfold executedBy
      rw [if_pos openness]
      cases input with
      | command arrived =>
          rw [respond]
          dsimp only
          split
          · rename_i idle
            rw [receive_idle openness idle]
            exact session.access_countCommand.trans (access_drain _ openness)
          · rename_i busy
            rw [receive_busy openness busy]
            exact session.access_countCommand.trans (access_withQueue _ _)
      | failure cause => exact session.access_report cause
      | completion id result =>
          rw [respond]
          dsimp only
          cases head : takeHead? id session.connection.queue with
          | none =>
              rw [complete, if_neg (by simp [openness]), head]
              exact session.access_close
          | some found =>
              have settled := session.access_settleHead found.1 found.2 result
              rw [complete_inTurn openness head]
              dsimp only
              split
              · rename_i stillOpen
                exact settled.trans (access_drain _ stillOpen)
              · exact settled
      | close => exact session.access_close
      | detach => exact ⟨rfl, by simp [respond, detach]⟩

end Accesses

end Session

namespace World

/-! ## Runs -/

/-- The commands that a connection carried out during events, in order. -/
def executed (world : World) (index : Nat) : List Event → List Command
  | [] => []
  | event :: rest =>
      (match world.inputTo? index event with
        | none => []
        | some (session, input) => session.executedBy input)
        ++ (world.step event).1.executed index rest

theorem executed_cons (world : World) (index : Nat) (event : Event) (rest : List Event) :
    world.executed index (event :: rest) =
      world.executed index [event] ++ (world.step event).1.executed index rest := by
  simp only [executed, List.append_nil]

theorem password_of_delivery {world : World} {event : Event} {delivery : Delivery}
    (delivered : world.delivery? event = some delivery) :
    delivery.world.services.password = world.services.password := by
  cases event with
  | receive | accept | report | complete | close | detach =>
      cases delivered
      rfl
  | run position =>
      obtain ⟨job, completion, -, -, rfl⟩ := job_of_runDelivery? delivered
      rfl
  | connect | allow | stop | advance => cases delivered

/-- The secret never changes. -/
theorem password_step (world : World) (event : Event) :
    (world.step event).1.services.password = world.services.password := by
  rw [step]
  cases delivered : world.sweep.delivery? event with
  | none =>
      cases event with
      | receive | accept | report | complete | close | detach => cases delivered
      | run position =>
          rw [run_of_undelivered delivered]
          rfl
      | connect | allow | stop | advance => rfl
  | some delivery =>
      rw [apply_of_delivery delivered]
      have same := password_of_delivery delivered
      cases present : delivery.world.session? delivery.connection with
      | none =>
          rw [atConnection, present]
          exact same
      | some session =>
          rw [atConnection_eq present]
          refine (session.access_respond delivery.input).password.trans ?_
          rw [(session?_eq_some.mp present).2]
          exact same

/-- Whether a connection is authenticated; one that is not opened yet will be if no secret is
set. -/
def authenticated (world : World) (index : Nat) : Bool :=
  world.connections[index]?.elim world.services.password.isNone Connection.authenticated

theorem authenticated_step (world : World) (event : Event) (index : Nat) :
    (world.step event).1.authenticated index =
      (world.authenticated index ||
        (world.executed index [event]).any (Command.unlocks world.services.password)) := by
  unfold authenticated
  rw [executed, executed, List.append_nil, password_step]
  cases found : (world.step event).1.connections[index]? with
  | none =>
      obtain ⟨unborn, untold⟩ := untold_of_absent found
      rw [unborn, untold]
      exact (Bool.or_false _).symm
  | some connection =>
      cases origin_of_found found with
      | kept untold found =>
          rw [found, untold]
          exact (Bool.or_false _).symm
      | opened untold fresh new =>
          rw [List.getElem?_eq_none (Nat.le_of_eq fresh.symm), untold, new]
          exact (Bool.or_false _).symm
      | @told session input told reacts =>
          obtain ⟨delivery, delivered, -, -, present⟩ := delivery_of_told told
          have shared : session.services.password = world.services.password := by
            rw [(session?_eq_some.mp present).2]
            have same := password_of_delivery delivered
            exact same
          rw [found_of_told told, told, reacts]
          dsimp only [Option.elim]
          rw [(session.access_respond input).authenticated, shared]

/-- A connection is authenticated by what it carries out, and by nothing else. -/
theorem authenticated_after (world : World) (events : List Event) (index : Nat) :
    (world.after events).authenticated index =
      (world.authenticated index ||
        (world.executed index events).any (Command.unlocks world.services.password)) := by
  induction events generalizing world with
  | nil => exact (Bool.or_false _).symm
  | cons event rest inductionHypothesis =>
      have later := inductionHypothesis (world.step event).1
      rw [authenticated_step, password_step] at later
      rw [executed_cons, List.any_append, ← Bool.or_assoc]
      exact later

end World

/-! ## Strangers -/

/-- A command that does not present the secret, or a failure that does not break the connection. -/
def Input.IsForeign (secret : Bytes) : Input → Prop
  | .command arrived => arrived.password? ≠ some secret
  | .failure cause => cause.isIo = false
  | .completion _ _ | .close | .detach => False

namespace Session

/-- An idle connection that has not presented the secret. -/
structure Stranger (secret : Bytes) (session : Session) : Prop where
  password : session.services.password = some secret
  unauthenticated : session.connection.authenticated = false
  isOpen : session.connection.isOpen = true
  listening : session.connection.listening = true
  idle : session.connection.queue = []

/-- The reply to a command that presents no secret, or a wrong one. -/
def refusal (command : Command) : Frame :=
  if command.password?.isSome then
    .error "WRONGPASS invalid username-password pair or user is disabled."
  else (Failure.wrongNumberOfArguments command.name).reply

/-- What a stranger is told. It depends on what it said, and on whether the server stops. -/
def strangerReply (stopping : Bool) : Input → Frame
  | .command arrived =>
      if stopping then Failure.shuttingDown.reply
      else if arrived.kind ≠ .auth then notAuthenticated
      else refusal arrived
  | .failure cause => cause.reply
  | .completion _ _ | .close | .detach => .null

/-- The connection of a stranger after it was told the reply. -/
def strangerNext (stopping : Bool) (connection : Connection) (input : Input) : Connection :=
  { connection with
    nextId :=
      match input with
      | .command _ => connection.nextId + 1
      | _ => connection.nextId
    written := connection.written ++ [strangerReply stopping input] }

section Strangers

variable {secret : Bytes} {session : Session}

theorem Stranger.gate?_eq (stranger : session.Stranger secret) (kind : CommandKind) :
    session.gate? kind =
      if session.services.stopping then some Failure.shuttingDown.reply
      else if kind ≠ .auth then some notAuthenticated
      else none := by
  unfold gate?
  rw [stranger.unauthenticated]
  split
  · rfl
  · by_cases isAuth : kind = .auth
    · subst isAuth
      rfl
    · simp [isAuth]

/-- A command that a gate rejects is answered with the rejection, deferred or not. -/
theorem takeUp_of_rejected {command : Command} {rejection : Frame} (rest : List Waiting)
    (gate : session.gate? command.kind = some rejection) :
    session.takeUp (.command command) rest =
      .answered ((session.withQueue rest).write rejection) := by
  have behind : (session.withQueue rest).gate? command.kind = some rejection := gate
  rw [takeUp]
  split
  · rw [begin, gate]
  · rw [answer_eq, behind]

/-- The presentation of anything but the secret is refused, and changes nothing. -/
theorem execute_foreign {command : Command} (kind : command.kind = .auth)
    (foreign : command.password? ≠ some secret) (scene : Scene)
    (locked : scene.services.password = some secret) :
    ∃ outcome, command.execute scene = (outcome, scene) ∧
      outcome.response? = some (refusal command) := by
  rw [Command.execute, Request.ofCommand_auth kind, refusal]
  cases presented : command.password? with
  | none => exact ⟨_, rfl, rfl⟩
  | some password =>
      have wrong : ¬secret = password := by
        rintro rfl
        exact foreign presented
      refine ⟨.reply (.error "WRONGPASS invalid username-password pair or user is disabled."), ?_,
        rfl⟩
      dsimp only [Request.run]
      rw [Request.runAuth, locked]
      exact if_neg wrong

/-- A command that is answered and does not end the connection is concluded by writing. -/
theorem conclude_eq_write {kind : CommandKind} (stays : kind ≠ .quit) {outcome : Outcome}
    {frame : Frame} (response : outcome.response? = some frame) :
    session.conclude kind outcome = (session.write frame, none) := by
  cases outcome with
  | reply replied =>
      cases response
      unfold conclude
      dsimp only
      rw [if_neg stays]
  | failed cause =>
      have replies : cause.response? = some frame := response
      unfold conclude
      dsimp only
      rw [fail_eq, replies]
  | deferred | aborted => cases response

/-- A wrong presentation that the gates let pass changes nothing but the statistics. -/
theorem Stranger.answer_auth (stranger : session.Stranger secret) {command : Command}
    (kind : command.kind = .auth) (foreign : command.password? ≠ some secret)
    (gate : session.gate? command.kind = none) :
    session.answer command =
      (((session.startCommand .auth).endCommand .auth).write (refusal command), none) := by
  obtain ⟨outcome, executed, response⟩ := execute_foreign kind foreign
    ⟨(session.startCommand .auth).services,
      (session.startCommand .auth).connection.authenticated⟩ stranger.password
  have performed : (session.startCommand .auth).perform command =
      (outcome, session.startCommand .auth) := by
    rw [perform, executed]
    cases outcome with
    | deferred | aborted => cases response
    | reply | failed => rfl
  rw [answer_eq, gate]
  dsimp only
  rw [kind, performed]
  exact conclude_eq_write (by decide) response

/-- What a stranger says is answered in its turn with the reply for strangers. -/
theorem Stranger.takeUp_eq (stranger : session.Stranger secret) (command : Command)
    (foreign : command.password? ≠ some secret) :
    ∃ statistics,
      session.takeUp (.command command) [] =
        .answered (Session.write ⟨{ session.services with statistics := statistics },
          session.connection⟩ (strangerReply session.services.stopping (.command command))) := by
  have same : session.withQueue [] = session := by
    unfold withQueue
    rw [← stranger.idle]
  have gate := stranger.gate?_eq command.kind
  unfold strangerReply
  dsimp only
  split at gate
  · rename_i stopping
    refine ⟨session.services.statistics, ?_⟩
    rw [takeUp_of_rejected [] gate, same, if_pos stopping]
  · rename_i running
    split at gate
    · rename_i other
      refine ⟨session.services.statistics, ?_⟩
      rw [takeUp_of_rejected [] gate, same, if_neg running, if_pos other]
    · rename_i isAuth
      have kind : command.kind = .auth := Decidable.not_not.mp isAuth
      have answered := stranger.answer_auth kind foreign gate
      refine ⟨((session.startCommand .auth).endCommand .auth).services.statistics, ?_⟩
      rw [takeUp, kind, if_neg (by decide), same, answered, if_neg running, if_neg (by simp)]
      rfl

theorem write_of_listening (isOpen : session.connection.isOpen = true)
    (listening : session.connection.listening = true) (frame : Frame) :
    session.write frame =
      ⟨session.services,
        { session.connection with written := session.connection.written ++ [frame] }⟩ := by
  unfold write
  rw [isOpen, listening]
  rfl

/-- What a stranger says is answered at once, and leaves the services except for statistics. -/
theorem Stranger.respond_eq (stranger : session.Stranger secret) {input : Input}
    (foreign : input.IsForeign secret) :
    ∃ statistics,
      session.respond input =
        (⟨{ session.services with statistics := statistics },
          strangerNext session.services.stopping session.connection input⟩, none) := by
  obtain ⟨password, unauthenticated, isOpen, listening, idle⟩ := stranger
  cases input with
  | command arrived =>
      have counted : session.countCommand.Stranger secret :=
        ⟨password, unauthenticated, isOpen, listening, idle⟩
      obtain ⟨statistics, taken⟩ :=
        counted.takeUp_eq (session.numbered arrived) foreign
      refine ⟨statistics, ?_⟩
      rw [respond, receive_idle isOpen idle, drain_singleton counted.isOpen, taken]
      dsimp only
      rw [write_of_listening (by exact isOpen) (by exact listening)]
      rfl
  | failure cause =>
      have whole : cause.isIo = false := foreign
      refine ⟨session.services.statistics, ?_⟩
      rw [respond, report, whole, if_neg Bool.false_ne_true, if_pos idle,
        write_of_listening isOpen listening]
      rfl
  | completion | close | detach => exact foreign.elim

theorem Stranger.respond (stranger : session.Stranger secret) {input : Input}
    (foreign : input.IsForeign secret) : (session.respond input).1.Stranger secret := by
  obtain ⟨statistics, responds⟩ := stranger.respond_eq foreign
  obtain ⟨password, unauthenticated, isOpen, listening, idle⟩ := stranger
  rw [responds]
  exact ⟨password, unauthenticated, isOpen, listening, idle⟩

end Strangers

/-- The session after it was told one thing after the other. -/
def hear (session : Session) (inputs : List Input) : Session :=
  inputs.foldl (fun reached input => (reached.respond input).1) session

/-- Whatever a stranger says, only its own connection and the statistics change, and the
connection does so by a function of what it said and of whether the server stops. -/
theorem Stranger.hear_eq {secret : Bytes} {session : Session} (stranger : session.Stranger secret)
    {inputs : List Input} (foreign : ∀ input ∈ inputs, input.IsForeign secret) :
    ∃ statistics,
      session.hear inputs =
        ⟨{ session.services with statistics := statistics },
          inputs.foldl (strangerNext session.services.stopping) session.connection⟩ := by
  induction inputs generalizing session with
  | nil => exact ⟨session.services.statistics, rfl⟩
  | cons input rest inductionHypothesis =>
      obtain ⟨first, later⟩ := List.forall_mem_cons.mp foreign
      obtain ⟨between, responds⟩ := stranger.respond_eq first
      obtain ⟨statistics, heard⟩ := inductionHypothesis (stranger.respond first) later
      refine ⟨statistics, ?_⟩
      rw [responds] at heard
      rw [hear, List.foldl_cons, responds]
      exact heard

theorem Stranger.hear {secret : Bytes} {session : Session} (stranger : session.Stranger secret)
    {inputs : List Input} (foreign : ∀ input ∈ inputs, input.IsForeign secret) :
    (session.hear inputs).Stranger secret := by
  induction inputs generalizing session with
  | nil => exact stranger
  | cons input rest inductionHypothesis =>
      obtain ⟨first, later⟩ := List.forall_mem_cons.mp foreign
      exact inductionHypothesis (stranger.respond first) later

theorem stranger_new {services : Services} {secret : Bytes}
    (password : services.password = some secret) (index : Nat) :
    (Session.mk services (Connection.new index false)).Stranger secret :=
  ⟨password, rfl, rfl, rfl, rfl⟩

end Session

namespace World

/-- Two servers with the same secret, of which both stop or neither, look the same to a client that
does not present the secret: its connection is in the same state, with the same replies written,
and never authenticated; and of each server nothing has changed but the statistics. No connection
ever loses its authentication; and if a secret is set, those are authenticated that have carried
out a command which presents it, and no others. -/
theorem strangers_learn_and_change_nothing :
    (∀ (secret : Bytes) (left right : Services) (index : Nat) (inputs : List Input),
      left.password = some secret → right.password = some secret →
      left.stopping = right.stopping → (∀ input ∈ inputs, input.IsForeign secret) →
      let first := Session.hear ⟨left, Connection.new index false⟩ inputs
      let second := Session.hear ⟨right, Connection.new index false⟩ inputs
      first.connection = second.connection ∧ first.connection.authenticated = false ∧
        (∃ statistics, first.services = { left with statistics := statistics }) ∧
        ∃ statistics, second.services = { right with statistics := statistics }) ∧
    (∀ (world : World) (event : Event) (index : Nat) (before later : Connection),
      world.connections[index]? = some before →
      (world.step event).1.connections[index]? = some later →
      before.authenticated = true → later.authenticated = true) ∧
    (∀ (services : Services) (secret : Bytes) (events : List Event) (index : Nat)
        (connection : Connection),
      services.password = some secret →
      (after ⟨services, []⟩ events).connections[index]? = some connection →
      (connection.authenticated = true ↔
        ∃ command ∈ executed ⟨services, []⟩ index events, command.password? = some secret)) := by
  refine ⟨?_, ?_, ?_⟩
  · intro secret left right index inputs leftSecret rightSecret sameStopping foreign first second
    have stranger := Session.stranger_new leftSecret index
    obtain ⟨leftStatistics, leftHeard⟩ := stranger.hear_eq foreign
    obtain ⟨rightStatistics, rightHeard⟩ :=
      (Session.stranger_new rightSecret index).hear_eq foreign
    have firstIs : first = _ := leftHeard
    have secondIs : second = _ := rightHeard
    refine ⟨?_, (stranger.hear foreign).unauthenticated, ⟨leftStatistics, ?_⟩,
      ⟨rightStatistics, ?_⟩⟩
    · rw [firstIs, secondIs, sameStopping]
    · rw [firstIs]
    · rw [secondIs]
  · intro world event index before later found foundLater authenticated
    have flag := world.authenticated_step event index
    rw [World.authenticated, World.authenticated, found, foundLater] at flag
    dsimp only [Option.elim] at flag
    rw [flag, authenticated, Bool.true_or]
  · intro services secret events index connection password found
    have flag := authenticated_after ⟨services, []⟩ events index
    have fresh : World.authenticated ⟨services, []⟩ index = false := by
      rw [World.authenticated, password]
      rfl
    rw [fresh, Bool.false_or, World.authenticated, found, password] at flag
    dsimp only [Option.elim] at flag
    rw [flag, List.any_eq_true]
    simp only [Command.unlocks, Option.any_some, beq_iff_eq]

/-- A client that names another word, a user without the secret, or nothing, on two servers of
which one holds keys; and one that presents the secret as the second argument. -/
theorem wrong_word_learns_nothing :
    let left := Services.start (some [1]) false
    let right := { left with store := left.store.set "key" [2], allowUnsupported := true }
    let inputs : List Input :=
      [.command (Command.new "AUTH" [[2]]), .command (Command.new "DBSIZE" []),
        .command (Command.new "AUTH" [[1], [3]]), .command (Command.new "GETDEL" [[107]]),
        .failure (.internal "lost"), .command (Command.new "QUIT" [])]
    (Session.hear ⟨left, Connection.new 0 false⟩ inputs).connection =
        (Session.hear ⟨right, Connection.new 0 false⟩ inputs).connection ∧
      ∀ connection : Connection,
        (after ⟨right, []⟩
            [.connect, .receive 0 (Command.new "AUTH" [[117], [1]])]).connections[0]? =
          some connection → connection.authenticated = true := by
  intro left right inputs
  obtain ⟨same, -, opened⟩ := strangers_learn_and_change_nothing
  refine ⟨(same [1] left right 0 inputs rfl rfl rfl ?_).1, ?_⟩
  · intro input member
    simp only [inputs, List.mem_cons, List.not_mem_nil, or_false] at member
    rcases member with rfl | rfl | rfl | rfl | rfl | rfl
    all_goals
      unfold Input.IsForeign
      decide
  · intro connection found
    refine (opened right [1] _ 0 connection rfl found).mpr ?_
    exact ⟨_, List.mem_cons_self, rfl⟩

end World

end RespServer
