import RespServer.Server.Dispatch

/-!
Contract: the server as if it did one thing at a time.

Owns:
- the arrivals of a connection;
- the interpreter that answers each of them before it looks at the next: it checks the gates,
  carries the command out, and does deferred work on the spot.

Does not own: the queue and the worker pool, whose effect is compared with this.
-/

namespace RespServer

inductive Arrival where
  | command (command : Command)
  | failure (cause : Failure)

namespace Session

/-- Carries out a command; work that it would defer is done at once, and its failure is one of
deferred work. -/
def performAtOnce (session : Session) (command : Command) : Outcome × Session :=
  let (outcome, scene) :=
    command.execute ⟨session.services, session.connection.authenticated⟩
  let withScene (scene : Scene) : Session :=
    ⟨scene.services, { session.connection with authenticated := scene.authenticated }⟩
  match outcome with
  | .deferred work =>
      let (result, store) := work.run scene.services.store
      let session := withScene (scene.withStore store)
      match result.report with
      | some (.ok frame) => (.reply frame, session)
      | some (.error cause) => (.failed cause, session)
      | none => (.aborted .endlessSearch, session)
  | outcome => (outcome, withScene scene)

def answerAtOnce (session : Session) (command : Command) : Progress :=
  match session.gate? command.kind with
  | some rejection => (session.write rejection, none)
  | none =>
      let (outcome, session) := (session.startCommand command.kind).performAtOnce command
      let session := session.endCommand command.kind
      match outcome with
      | .reply frame =>
          let session := session.write frame
          (if command.kind = .quit then session.close else session, none)
      | .deferred _ => (session, none)
      | .failed cause => (session.fail cause, none)
      | .aborted reason => (session, some reason)

/-- Answers an arrival before the next is looked at. -/
def handle (session : Session) : Arrival → Progress
  | .failure cause => (session.fail cause, none)
  | .command command =>
      let command := { command with id := session.connection.nextId }
      let session :=
        { session with
          connection := { session.connection with nextId := session.connection.nextId + 1 } }
      if session.connection.isOpen then session.answerAtOnce command else (session, none)

/-- Answers arrivals in order, up to one that breaks off. -/
def handleEach (session : Session) : List Arrival → Progress
  | [] => (session, none)
  | arrival :: rest =>
      match session.handle arrival with
      | (session, none) => session.handleEach rest
      | aborted => aborted

end Session

end RespServer
