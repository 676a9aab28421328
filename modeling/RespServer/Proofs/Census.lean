import RespServer.Proofs.Course

/-!
Contract: a client is counted exactly while its connection is open.

Owns:
- `census`, what the counters of clients say apart from one connection;
- that nothing that a connection is told changes it.

Does not own: the counters of commands (`Proofs.Counting`).
-/

namespace RespServer

/-- Ending commands counts no client. -/
theorem Statistics.clients_endEach (kinds : List CommandKind) (statistics : Statistics) :
    (kinds.foldl endCommand statistics).clients = statistics.clients
      ∧ (kinds.foldl endCommand statistics).connections = statistics.connections := by
  induction kinds generalizing statistics with
  | nil => exact ⟨rfl, rfl⟩
  | cons kind rest inductionHypothesis => exact inductionHypothesis _

namespace Session

/-- What the counters of clients say apart from this connection: the other clients, and all
connections so far. -/
def census (session : Session) : UInt64 × UInt64 :=
  (session.services.statistics.clients - session.connection.isOpen.toUInt64,
    session.services.statistics.connections)

theorem census_write (session : Session) (frame : Frame) :
    (session.write frame).census = session.census := by
  unfold write
  split <;> rfl

/-- The client is taken off the count when its connection closes. -/
theorem census_close (session : Session) : session.close.census = session.census := by
  obtain ⟨clients, connections⟩ := Statistics.clients_endEach
    (session.connection.queue.filterMap Waiting.startedKind?) session.services.statistics
  unfold close
  split
  · rename_i isOpen
    refine Prod.ext ?_ connections
    unfold census
    rw [isOpen]
    change (endStarted _ _).clients - 1 - 0 = _ - 1
    rw [UInt64.sub_zero]
    exact congrArg (· - 1) clients
  · rfl

/-- Carrying out a command leaves the counters, the openness and the queue. -/
theorem perform_frame (session : Session) (command : Command) :
    (session.perform command).2.services.statistics = session.services.statistics
      ∧ (session.perform command).2.connection.isOpen = session.connection.isOpen
      ∧ (session.perform command).2.connection.queue = session.connection.queue := by
  have continues := Command.continues_execute command
    ⟨session.services, session.connection.authenticated⟩
  unfold perform
  split
  rename_i outcome scene executed
  rw [executed] at continues
  refine ⟨?_, rfl, rfl⟩
  cases outcome <;> exact continues.statistics

theorem census_perform (session : Session) (command : Command) :
    (session.perform command).2.census = session.census := by
  obtain ⟨statistics, openness, -⟩ := session.perform_frame command
  unfold census
  rw [statistics, openness]

theorem kept_census : Kept fun before after => after.census = before.census where
  same _ := rfl
  trans earlier later := later.trans earlier
  withQueue _ _ := rfl
  countCommand _ := rfl
  startCommand _ _ := rfl
  endCommand _ _ := rfl
  perform := census_perform
  write := census_write
  close := census_close
  detach _ := rfl

/-- Whatever a connection is told, the other clients stay counted. -/
theorem Course.census {session : Session} {input : Input} {progress : Progress}
    {carried : List Carried} (course : session.Course input progress carried) :
    progress.1.census = session.census :=
  course.keeps kept_census

end Session

end RespServer
