import RespServer.Failure.Reply
import RespServer.Server.Services

/-!
Contract: one connection and its turn with the services.

Owns:
- the type `Connection` with its queue of arrivals that wait for their answers;
- the type `Session`, a connection together with the services;
- writing a reply, and closing.

Does not own: the order in which the queue is answered (`Server.Dispatch`).
-/

namespace RespServer

/-- An arrival that waits for its turn to be answered. -/
inductive Waiting where
  | command (command : Command)
  /-- The reply to a failure that was reported while a command was in flight. -/
  | reply (frame : Frame)
deriving DecidableEq

namespace Waiting

/-- The command whose time is running, if this is one. -/
def startedKind? : Waiting → Option CommandKind
  | .command arrived => if arrived.started then some arrived.kind else none
  | .reply _ => none

def display : Waiting → String
  | .command arrived => arrived.display
  | .reply frame => "reply " ++ frame.display

end Waiting

structure Connection where
  index : Nat
  /-- Whether the client has presented the secret, or none is set. -/
  authenticated : Bool
  nextId : CommandId
  /-- The arrivals that are not answered, the first first. While it is not empty, its head is in
  flight. -/
  queue : List Waiting
  isOpen : Bool
  /-- Whether someone still takes the replies. -/
  listening : Bool
  /-- The replies written, the first first. -/
  written : List Frame
  /-- What was received and not yet read as frames. -/
  buffer : Bytes
deriving DecidableEq

def Connection.new (index : Nat) (authenticated : Bool) : Connection :=
  { index := index
    authenticated := authenticated
    nextId := 1
    queue := []
    isOpen := true
    listening := true
    written := []
    buffer := [] }

/-- A connection with the services that it shares. -/
structure Session where
  services : Services
  connection : Connection

namespace Session

def withQueue (session : Session) (queue : List Waiting) : Session :=
  { session with connection := { session.connection with queue := queue } }

def enqueue (session : Session) (waiting : Waiting) : Session :=
  session.withQueue (session.connection.queue ++ [waiting])

def withBuffer (session : Session) (buffer : Bytes) : Session :=
  { session with connection := { session.connection with buffer := buffer } }

def startCommand (session : Session) (kind : CommandKind) : Session :=
  { session with services := session.services.startCommand kind }

def endCommand (session : Session) (kind : CommandKind) : Session :=
  { session with services := session.services.endCommand kind }

/-- Writes a reply; once the connection is closed, or nobody takes replies, it is lost. -/
def write (session : Session) (frame : Frame) : Session :=
  if session.connection.isOpen && session.connection.listening then
    { session with
      connection := { session.connection with written := session.connection.written ++ [frame] } }
  else session

/-- Counts the end of the commands in a queue whose time is running. -/
def endStarted (statistics : Statistics) (queue : List Waiting) : Statistics :=
  (queue.filterMap Waiting.startedKind?).foldl Statistics.endCommand statistics

/-- Closes the connection, unless it is closed already: what waits is never answered, and the
client is no longer counted. -/
def close (session : Session) : Session :=
  if session.connection.isOpen then
    { services :=
        { session.services with
          statistics :=
            (endStarted session.services.statistics session.connection.queue).removeClient }
      connection := { session.connection with queue := [], isOpen := false } }
  else session

/-- Answers a failure; a broken connection is closed instead. -/
def fail (session : Session) (cause : Failure) : Session :=
  if cause.isIo then session.close else session.write cause.reply

end Session

end RespServer
