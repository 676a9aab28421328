import RespServer.Server.Dispatch

/-!
Contract: a server with all its connections, and the events that move it.

Owns:
- the type `World`;
- the events and one step for each;
- the worker pool, which begins its jobs in any order.

Does not own: the reading of a byte stream (`Handler`).

Before every event the keys whose deadline is reached are removed.

A search that does not end shows as a step that breaks off with `endlessSearch`. Its job keeps the
store for ever, and its command the connection, so that no run goes on behind such a step as far as
it needs either.
-/

namespace RespServer

structure World where
  services : Services
  /-- All connections in the order of their opening. -/
  connections : List Connection

namespace World

def start (password : Option Bytes) (allowUnsupported : Bool) : World :=
  ⟨Services.start password allowUnsupported, []⟩

def withStore (world : World) (store : Store) : World :=
  { world with services := { world.services with store := store } }

def withPubSub (world : World) (pubsub : PubSub) : World :=
  { world with services := { world.services with pubsub := pubsub } }

def sweep (world : World) : World :=
  world.withStore world.services.store.sweep

def session? (world : World) (index : Nat) : Option Session :=
  (world.connections[index]?).map fun connection => ⟨world.services, connection⟩

/-- The world after a session of one of its connections. -/
def withSession (world : World) (index : Nat) (session : Session) : World :=
  ⟨session.services, world.connections.set index session.connection⟩

/-- Changes the session of a connection; without such a connection nothing happens. -/
def atConnection (world : World) (index : Nat) (change : Session → Progress) :
    World × Option Abort :=
  match world.session? index with
  | none => (world, none)
  | some session =>
      let (session, abort) := change session
      (world.withSession index session, abort)

/-! ## The worker pool -/

/-- How many arrivals wait and jobs are queued. -/
def backlog (world : World) : Nat :=
  world.connections.foldl (fun total connection => total + connection.queue.length)
    world.services.jobs.length

/-- Begins the job at a position and runs it to its end: the work changes the store, and its
completion is reported to its connection. Work that never ends never gives the store back, so that
the world is the one in which it began. None if there is no such job. -/
def runJob? (world : World) (position : Nat) : Option (World × Option Abort) :=
  match world.services.jobs[position]? with
  | none => none
  | some job =>
      let (result, store) := job.work.run world.services.store
      match result.report with
      | none => some (world, some .endlessSearch)
      | some completion =>
          let taken :=
            { world with
              services :=
                { world.services with
                  store := store
                  jobs := world.services.jobs.eraseIdx position } }
          some (taken.atConnection job.connection fun session =>
            session.complete job.command completion)

/-- Runs the first job so often, and counts the jobs that were run. -/
def runJobs : (limit : Nat) → World → Nat × World × Option Abort
  | 0, world => (0, world, none)
  | limit + 1, world =>
      match world.runJob? 0 with
      | none => (0, world, none)
      | some (world, some reason) => (0, world, some reason)
      | some (world, none) =>
          let (count, world, abort) := runJobs limit world
          (count + 1, world, abort)

/-- Runs the first job until none is queued. Every completion answers an arrival or is discarded
with its job, so that the backlog bounds the number of jobs. -/
def runAll (world : World) : Nat × World × Option Abort :=
  runJobs world.backlog world

/-! ## Events -/

def connect (world : World) : World :=
  let connection := Connection.new world.connections.length world.services.password.isNone
  { services := { world.services with statistics := world.services.statistics.addClient }
    connections := world.connections ++ [connection] }

inductive Event where
  | connect
  | receive (connection : Nat) (command : Command)
  /-- A frame arrives, a command or not. -/
  | accept (connection : Nat) (frame : Frame)
  /-- A failure outside of commands is reported. -/
  | report (connection : Nat) (cause : Failure)
  | run (position : Nat)
  /-- A completion is reported, by a job or by anyone else. -/
  | complete (connection : Nat) (id : CommandId) (result : Except Failure Frame)
  | close (connection : Nat)
  /-- Nobody takes the replies of a connection any more. -/
  | detach (connection : Nat)
  /-- The setting for unsupported commands is changed from outside. -/
  | allow (allowed : Bool)
  | stop
  | advance (duration : Duration)

/-- What happens at an event, expiry aside. -/
def apply (world : World) : Event → World × Option Abort
  | .connect => (world.connect, none)
  | .receive connection command => world.atConnection connection fun session =>
      session.receive command
  | .accept connection frame => world.atConnection connection fun session =>
      session.accept frame
  | .report connection cause => world.atConnection connection fun session =>
      (session.report cause, none)
  | .run position => (world.runJob? position).getD (world, none)
  | .complete connection id result => world.atConnection connection fun session =>
      session.complete id result
  | .close connection => world.atConnection connection fun session => (session.close, none)
  | .detach connection => world.atConnection connection fun session => (session.detach, none)
  | .allow allowed =>
      ({ world with services := { world.services with allowUnsupported := allowed } }, none)
  | .stop => ({ world with services := { world.services with stopping := true } }, none)
  | .advance duration => (world.withStore (world.services.store.advance duration), none)

/-- One step: expiry first, then the event. -/
def step (world : World) (event : Event) : World × Option Abort :=
  world.sweep.apply event

/-- Octets are received on a connection; none if there is no such connection. -/
def feed? (world : World) (connection : Nat) (chunk : Bytes) : Option (Session.Fed × World) :=
  (world.session? connection).map fun session =>
    let (fed, session) := session.feed chunk
    (fed, world.withSession connection session)

end World

end RespServer
