import RespServer.Server.FrameReader
import RespServer.Server.World

/-!
Contract: the life of a connection that reads a byte stream.

Owns:
- one turn of the loop that reads a frame and lets it arrive;
- the end of the loop: the connection is closed, the server stops, or the stream ends.

Does not own: when a turn is taken, relative to the jobs of the worker pool, and the listener that
accepts clients.

A failed reading is reported like any failure, and the stream ends with it. The loop ends for good
when a command breaks off during its turn; the connection is then neither read nor closed.
-/

namespace RespServer

/-- The reading loop of a connection. -/
structure Handler where
  connection : Nat
  reader : FrameReader
  finished : Bool
deriving DecidableEq

namespace Handler

def new (connection limit : Nat) : Handler :=
  ⟨connection, FrameReader.new limit, false⟩

def append (handler : Handler) (chunk : Bytes) : Handler :=
  { handler with reader := handler.reader.append chunk }

/-- The peer sends nothing more. -/
def finish (handler : Handler) : Handler :=
  { handler with reader := handler.reader.finish }

/-- Whether the loop ends before it reads: the connection is closed or the server stops. -/
def mustEnd (handler : Handler) (world : World) : Bool :=
  world.services.stopping || !(world.connections[handler.connection]?).any Connection.isOpen

/-- The end of the loop: the connection is closed. -/
def leave (handler : Handler) (world : World) : Handler × World :=
  ({ handler with finished := true },
    (world.atConnection handler.connection fun session => (session.close, none)).1)

def poll (handler : Handler) (world : World) : Handler × World :=
  if handler.finished then (handler, world)
  else if handler.mustEnd world then handler.leave world
  else match handler.reader.next with
    | (.waiting, _) => (handler, world)
    | (.finished, _) => handler.leave world
    | (.failed cause, reader) =>
        ({ handler with reader := reader },
          (world.atConnection handler.connection fun session => (session.report cause, none)).1)
    | (.frame frame, reader) =>
        let (world, abort) :=
          world.atConnection handler.connection fun session => session.accept frame
        ({ handler with reader := reader, finished := abort.isSome }, world)

/-- So many turns, after each of which the worker pool runs all its jobs. -/
def drive : (turns : Nat) → Handler → World → Handler × World
  | 0, handler, world => (handler, world)
  | turns + 1, handler, world =>
      let (handler, world) := handler.poll world
      let (_, world, _) := world.runAll
      drive turns handler world

/-- Turns until the loop waits for octets or has ended. Each frame or failure takes a turn, and
so does the end. -/
def settle (handler : Handler) (world : World) : Handler × World :=
  drive (handler.reader.measure + 2) handler world

end Handler

end RespServer
