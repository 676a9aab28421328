import RespServer.Frame.Stream
import RespServer.Server.Connection
import RespServer.Server.Execution

/-!
Contract: the order in which a connection's arrivals are answered.

Owns:
- the gates that a command passes before it runs;
- arrivals: commands, failures, completions and the end of the connection;
- the draining of the queue behind a deferred command.

Does not own: several connections and the worker pool's choice of jobs (`World`).

A command that is not deferred runs at once if nothing waits. A deferred command stays at the head
of the queue until its completion is reported; everything that arrives behind it waits. So replies
leave in the order of arrival.
-/

namespace RespServer

/-- A session after a step, and why the step broke off, if it did. A step that breaks off leaves
what it has done so far. -/
abbrev Progress := Session × Option Abort

namespace Session

/-! ## Gates -/

/-- The reply to a command that may not run yet. -/
def notAuthenticated : Frame :=
  .error "NOAUTH Authentication required."

/-- The reply to a command that runs only with a setting. -/
def notSupported (kind : CommandKind) : Frame :=
  .failure
    (kind.name
      ++ " is not supported. To enable all unsupported commands restart with "
      ++ "'--enable-unsupported-commands' or run "
      ++ "'CONFIG SET enable-unsupported-commands yes'. "
      ++ "Unsupported commands have not been fully tested.")

/-- The reply to a command that does nothing. -/
def notImplemented (kind : CommandKind) : Frame :=
  .failure (kind.name ++ " is not implemented.")

/-- The reply to a command that must not run, if any. A server that stops runs nothing; without
the secret only its presentation runs. -/
def gate? (session : Session) (kind : CommandKind) : Option Frame :=
  if session.services.stopping then some Failure.shuttingDown.reply
  else if !session.connection.authenticated && kind ≠ .auth then some notAuthenticated
  else if !kind.isSupported && !session.services.allowUnsupported then some (notSupported kind)
  else if !kind.isImplemented then some (notImplemented kind)
  else none

/-! ## Running a command -/

/-- Carries out a command; what it defers is handed to the worker pool. -/
def perform (session : Session) (command : Command) : Outcome × Session :=
  let (outcome, scene) :=
    command.execute ⟨session.services, session.connection.authenticated⟩
  let services :=
    match outcome with
    | .deferred work => scene.services.submit ⟨session.connection.index, command.id, work⟩
    | _ => scene.services
  (outcome, ⟨services, { session.connection with authenticated := scene.authenticated }⟩)

/-- Answers a command that is not deferred. The end of the connection is answered first. -/
def answer (session : Session) (command : Command) : Progress :=
  match session.gate? command.kind with
  | some rejection => (session.write rejection, none)
  | none =>
      let (outcome, session) := (session.startCommand command.kind).perform command
      let session := session.endCommand command.kind
      match outcome with
      | .reply frame =>
          let session := session.write frame
          (if command.kind = .quit then session.close else session, none)
      | .deferred _ => (session, none)
      | .failed cause => (session.fail cause, none)
      | .aborted reason => (session, some reason)

inductive Begun where
  /-- The worker pool does the work; the command stays at the head of the queue. -/
  | inFlight (session : Session)
  /-- The command was answered at once and is gone from the queue. -/
  | answered (session : Session)
  | aborted (session : Session) (reason : Abort)

/-- Takes up a deferred command, behind which the rest of the queue waits. -/
def begin (session : Session) (command : Command) (rest : List Waiting) : Begun :=
  match session.gate? command.kind with
  | some rejection => .answered ((session.withQueue rest).write rejection)
  | none =>
      let started := { command with started := true }
      let (outcome, session) :=
        ((session.startCommand command.kind).withQueue (.command started :: rest)).perform command
      match outcome with
      | .deferred _ => .inFlight session
      | .reply frame =>
          .answered (((session.withQueue rest).write frame).endCommand command.kind)
      | .failed cause =>
          .answered (((session.withQueue rest).fail cause).endCommand command.kind)
      | .aborted reason => .aborted session reason

/-- Answers what waits, from the front, until a deferred command is in flight or nothing waits.
Once the connection is closed nothing is answered any more. -/
def drain : List Waiting → Session → Progress
  | [], session => (session.withQueue [], none)
  | .reply frame :: rest, session => drain rest ((session.withQueue rest).write frame)
  | .command command :: rest, session =>
      if command.kind.isDeferred then
        match session.begin command rest with
        | .inFlight session => (session, none)
        | .answered session =>
            if session.connection.isOpen then drain rest session else (session, none)
        | .aborted session reason => (session, some reason)
      else
        match (session.withQueue rest).answer command with
        | (session, some reason) => (session, some reason)
        | (session, none) =>
            if session.connection.isOpen then drain rest session else (session, none)

/-! ## Arrivals -/

/-- A command arrives. It gets the next number even if the connection is closed and it is
discarded. -/
def receive (session : Session) (command : Command) : Progress :=
  let command := { command with id := session.connection.nextId }
  let session :=
    { session with
      connection := { session.connection with nextId := session.connection.nextId + 1 } }
  if !session.connection.isOpen then (session, none)
  else if session.connection.queue ≠ [] then (session.enqueue (.command command), none)
  else if command.kind.isDeferred then
    match session.begin command [] with
    | .inFlight session => (session, none)
    | .answered session => (session, none)
    | .aborted session reason => (session, some reason)
  else session.answer command

/-- A failure outside of commands is reported. Its reply waits for its turn like that of a
command; a broken connection is closed at once. -/
def report (session : Session) (cause : Failure) : Session :=
  if cause.isIo then session.close
  else if session.connection.queue = [] then session.write cause.reply
  else session.enqueue (.reply cause.reply)

/-- The display of what stands at the head of a queue. -/
def headDisplay : List Waiting → String
  | [] => "nothing"
  | head :: _ => head.display

/-- The rest of a queue whose head is the command with a number. -/
def takeHead? (id : CommandId) : List Waiting → Option (Command × List Waiting)
  | .command command :: rest => if command.id = id then some (command, rest) else none
  | _ => none

/-- The completion of a command is reported. It must be the one at the head of the queue, since
otherwise the order of replies is lost: then the connection is closed and the step breaks off. A
completion for a closed connection is discarded. -/
def complete (session : Session) (id : CommandId) (result : Except Failure Frame) : Progress :=
  if !session.connection.isOpen then (session, none)
  else match takeHead? id session.connection.queue with
    | none => (session.close, some (.outOfTurn id (headDisplay session.connection.queue)))
    | some (command, rest) =>
        let session := session.withQueue rest
        let session :=
          match result with
          | .ok frame => session.write frame
          | .error cause => session.fail cause
        let session := if command.started then session.endCommand command.kind else session
        if session.connection.isOpen then drain rest session else (session, none)

/-- Nobody takes the replies any more. -/
def detach (session : Session) : Session :=
  { session with connection := { session.connection with listening := false } }

/-! ## Frames and octets -/

/-- A frame arrives: a command, or a failure if it is none. -/
def accept (session : Session) (frame : Frame) : Progress :=
  match Command.ofFrame? frame with
  | .ok command => session.receive command
  | .error cause => (session.report (.command cause), none)

inductive FeedEnd where
  /-- So many octets wait for more. -/
  | waiting (left : Nat)
  | failed
  | aborted (reason : Abort)
deriving DecidableEq

structure Fed where
  frames : Nat
  ending : FeedEnd
deriving DecidableEq

/-- Reads frames from a buffer, each of which arrives, until none comes out of it. -/
def consume (session : Session) (buffer : Bytes) : Fed × Session :=
  match read : Frame.next? Frame.defaultLimit buffer with
  | .error cause => (⟨0, .failed⟩, (session.withBuffer []).report (.protocol cause))
  | .ok none => (⟨0, .waiting buffer.length⟩, session.withBuffer buffer)
  | .ok (some (frame, unread)) =>
      have := Frame.length_of_next? read
      match (session.withBuffer unread).accept frame with
      | (session, some reason) => (⟨1, .aborted reason⟩, session)
      | (session, none) =>
          let (fed, session) := session.consume unread
          ({ fed with frames := fed.frames + 1 }, session)
termination_by buffer.length

def feed (session : Session) (chunk : Bytes) : Fed × Session :=
  session.consume (session.connection.buffer ++ chunk)

end Session

end RespServer
