import Mathlib.Algebra.GroupWithZero.Nat
import RespServer.Main
import RespServer.Proofs.ReadingLoop

/-!
Contract: loops that go on until nothing is left to do.

Owns:
- the backlog of a server as a sum, and that every job that is run lowers it;
- that running all jobs leaves none, unless a step breaks off, and is a run of events;
- that settling a reading loop reads all that was received, and is a life of the loop;
- that the server does so with every chunk from its client.

Does not own: what the events of these runs answer (`Proofs.Ordering`, `Proofs.StreamEnd`).

A job that is run takes its command from the head of a queue. What is drained behind it may submit
one job and keep one command at the head, so two are gone before at most one job comes.
-/

namespace RespServer

namespace Session

/-- How many jobs are queued, and arrivals of this connection wait. -/
def backlog (session : Session) : Nat :=
  session.services.jobs.length + session.connection.queue.length

/-- Draining submits one job at most, and then leaves a part of the queue. -/
theorem Drained.backlog_le {queue : List Waiting} {begun : Session} {progress : Progress}
    (drained : Drained queue begun progress) :
    progress.1.backlog ≤ begun.services.jobs.length + queue.length + 1 := by
  unfold backlog
  cases drained with
  | settled answered advances isOpen left | closed answered advances isClosed left =>
      rw [advances.jobs, left, List.append_nil, List.length_nil]
      omega
  | inFlight done work split deferred answered advances isOpen left
  | aborted done split atOnce execution answered advances isOpen left =>
      rw [advances.jobs, left, split]
      simp only [List.length_append, List.length_cons, List.length_nil]
      omega

/-- A completion adds nothing to what is left to do. -/
theorem backlog_completion {session : Session} {id : CommandId} {result : Except Failure Frame}
    (emptied : session.connection.isOpen = false → session.connection.queue = []) :
    (session.respond (.completion id result)).1.backlog ≤ session.backlog := by
  have reaction := reaction_respond (.completion id result) emptied
  generalize session.respond (.completion id result) = progress at reaction
  cases reaction with
  | closed nothing silent advances isClosed left
  | outOfTurn told isOpen missing silent advances isClosed left =>
      unfold backlog
      rw [advances.jobs, left, List.append_nil, List.length_nil]
      omega
  | waits arrival arrives | taken arrival arrives =>
      unfold arrival? at arrives
      split at arrives <;> cases arrives
  | @resumed begun command rest frame result told wasOpen head answers advances isOpen =>
      have drained := (drained_drain rest isOpen).backlog_le
      rw [advances.jobs, List.append_nil] at drained
      have queued : session.backlog = session.services.jobs.length + (rest.length + 1) := by
        rw [backlog, head, List.length_cons]
      rw [queued]
      exact drained
  | detached told => cases told

end Session

namespace World

/-! ## The worker pool -/

theorem backlog_eq (world : World) :
    world.backlog = world.services.jobs.length
      + (world.connections.map fun connection => connection.queue.length).sum := by
  have accumulated : ∀ (connections : List Connection) (total : Nat),
      connections.foldl (fun total connection => total + connection.queue.length) total =
        total + (connections.map fun connection => connection.queue.length).sum := by
    intro connections
    induction connections with
    | nil => exact fun total => rfl
    | cons connection rest inductionHypothesis =>
        intro total
        rw [List.foldl_cons, inductionHypothesis, List.map_cons, List.sum_cons, Nat.add_assoc]
  exact accumulated _ _

/-- In a world without due keys, running a job is an event. -/
theorem step_run {world : World} (current : world.services.store.Current) {position : Nat}
    {progress : World × Option Abort} (ran : world.runJob? position = some progress) :
    world.step (.run position) = progress := by
  rw [step, sweep_of_current current, apply, ran]
  rfl

/-- What a session of one connection adds to the backlog it adds to that of the world. -/
theorem backlog_withSession {world : World} {index : Nat} {session : Session}
    (present : world.session? index = some session) (next : Session) :
    (world.withSession index next).backlog + session.backlog = next.backlog + world.backlog := by
  obtain ⟨here, services⟩ := session?_eq_some.mp present
  obtain ⟨inside, same⟩ := List.getElem?_eq_some_iff.mp here
  obtain ⟨front, back, before, -, after⟩ := @List.exists_of_set _ _ next.connection _ inside
  rw [same] at before
  rw [backlog_eq, backlog_eq, withSession, after, before, Session.backlog, Session.backlog,
    services]
  simp only [List.map_append, List.map_cons, List.sum_append_nat, List.sum_cons]
  omega

/-- A connection that is told of a completion adds nothing to the backlog. -/
theorem backlog_atConnection {world : World} (orderly : world.Orderly) (index : Nat)
    (id : CommandId) (result : Except Failure Frame) :
    (world.atConnection index fun session => session.complete id result).1.backlog
      ≤ world.backlog := by
  cases present : world.session? index with
  | none =>
      simp only [atConnection, present, Nat.le_refl]
  | some session =>
      have told := @Session.backlog_completion session id result
        (orderly.emptied (session?_eq_some.mp present).1)
      have sum := backlog_withSession present (session.complete id result).1
      change (session.complete id result).1.backlog ≤ _ at told
      rw [atConnection, present]
      change (world.withSession index (session.complete id result).1).backlog ≤ _
      omega

theorem backlog_withoutJob {world : World} {position : Nat} {job : Job}
    (found : world.services.jobs[position]? = some job) (store : Store) :
    (world.withoutJob position store).backlog + 1 = world.backlog := by
  obtain ⟨inside, -⟩ := List.getElem?_eq_some_iff.mp found
  have fewer := List.length_eraseIdx_of_lt inside
  rw [backlog_eq, backlog_eq, withoutJob]
  dsimp only
  omega

/-- A job that is run lowers the backlog, unless its search does not end. -/
theorem backlog_runJob? {world next : World} (orderly : world.Orderly) {position : Nat}
    {abort : Option Abort} (ran : world.runJob? position = some (next, abort)) :
    next.backlog < world.backlog ∨ next = world ∧ abort = some .endlessSearch := by
  unfold runJob? at ran
  split at ran
  · cases ran
  · rename_i job found
    dsimp only at ran
    split at ran
    · cases ran
      exact Or.inr ⟨rfl, rfl⟩
    · rename_i completion report
      have left := backlog_withoutJob found (job.work.run world.services.store).2
      have inOrder :
          (world.withoutJob position (job.work.run world.services.store).2).Orderly :=
        ⟨orderly.numbered, orderly.emptied⟩
      have told := backlog_atConnection inOrder job.connection job.command completion
      have reached := congrArg (fun progress => progress.1.backlog) (Option.some.inj ran)
      change World.backlog (World.atConnection (world.withoutJob position _) _ _).1 = next.backlog
        at reached
      exact Or.inl (by omega)

theorem Swept.runJob {world next : World} (swept : world.Swept) {position : Nat}
    {abort : Option Abort} (ran : world.runJob? position = some (next, abort)) : next.Swept := by
  have reached : world.after [.run position] = next :=
    congrArg Prod.fst (step_run swept.current ran)
  rw [← reached]
  exact swept.after _

/-- Running jobs is a run of events; the job that breaks off is one of them. -/
theorem runJobs_eq_after {world : World} (swept : world.Swept) (limit : Nat) :
    (runJobs limit world).2.1 =
      world.after (List.replicate
        ((runJobs limit world).1 + (runJobs limit world).2.2.isSome.toNat) (.run 0)) := by
  induction limit generalizing world with
  | zero => rfl
  | succ limit inductionHypothesis =>
      rw [runJobs]
      cases ran : world.runJob? 0 with
      | none => rfl
      | some progress =>
          obtain ⟨next, abort⟩ := progress
          have stepped := congrArg Prod.fst (step_run swept.current ran)
          cases abort with
          | some reason => exact stepped.symm
          | none =>
              have later := inductionHypothesis (swept.runJob ran)
              have reached : world.after [.run 0] = next := stepped
              dsimp only
              rw [later, Nat.add_right_comm, List.replicate_succ, ← reached]
              rfl

/-- Each job that is counted has lowered the backlog. -/
theorem count_runJobs {world : World} (swept : world.Swept) (limit : Nat) :
    (runJobs limit world).1 + (runJobs limit world).2.1.backlog ≤ world.backlog := by
  induction limit generalizing world with
  | zero => exact Nat.le_of_eq (Nat.zero_add _)
  | succ limit inductionHypothesis =>
      rw [runJobs]
      cases ran : world.runJob? 0 with
      | none => exact Nat.le_of_eq (Nat.zero_add _)
      | some progress =>
          obtain ⟨next, abort⟩ := progress
          cases abort with
          | some reason =>
              dsimp only
              rcases backlog_runJob? swept.orderly ran with lower | ⟨rfl, -⟩
              · omega
              · omega
          | none =>
              rcases backlog_runJob? swept.orderly ran with lower | ⟨-, endless⟩
              · have later := inductionHypothesis (swept.runJob ran)
                change (runJobs limit next).1 + 1 + (runJobs limit next).2.1.backlog ≤ _
                omega
              · cases endless

/-- So many jobs as the backlog are enough. -/
theorem jobs_runJobs {world : World} (swept : world.Swept) {limit : Nat}
    (enough : world.backlog ≤ limit) (whole : (runJobs limit world).2.2 = none) :
    (runJobs limit world).2.1.services.jobs = [] := by
  induction limit generalizing world with
  | zero =>
      have none : world.backlog = 0 := Nat.le_zero.mp enough
      rw [backlog_eq] at none
      exact List.length_eq_zero_iff.mp (Nat.eq_zero_of_add_eq_zero_right none)
  | succ limit inductionHypothesis =>
      rw [runJobs] at whole ⊢
      cases ran : world.runJob? 0 with
      | none =>
          dsimp only
          unfold runJob? at ran
          cases jobs : world.services.jobs with
          | nil => rfl
          | cons job rest =>
              rw [jobs] at ran
              dsimp only [List.getElem?_cons_zero] at ran
              split at ran <;> cases ran
      | some progress =>
          obtain ⟨next, abort⟩ := progress
          rw [ran] at whole
          cases abort with
          | some reason => cases whole
          | none =>
              rcases backlog_runJob? swept.orderly ran with lower | ⟨-, endless⟩
              · exact inductionHypothesis (swept.runJob ran) (by omega) whole
              · cases endless

/-- Running all jobs is a run of events. It counts the jobs that were run to their end, each of
which has lowered the backlog, and leaves no job unless one breaks off. -/
theorem runAll_empties {world reached : World} (swept : world.Swept) {count : Nat}
    {abort : Option Abort} (ran : world.runAll = (count, reached, abort)) :
    reached = world.after (List.replicate (count + abort.isSome.toNat) (.run 0))
      ∧ count + reached.backlog ≤ world.backlog
      ∧ (abort = none → reached.services.jobs = []) := by
  have parts : (runJobs world.backlog world).1 = count
      ∧ (runJobs world.backlog world).2.1 = reached
      ∧ (runJobs world.backlog world).2.2 = abort := by
    change runJobs world.backlog world = _ at ran
    rw [ran]
    exact ⟨rfl, rfl, rfl⟩
  obtain ⟨rfl, rfl, rfl⟩ := parts
  exact ⟨runJobs_eq_after swept _, count_runJobs swept _, jobs_runJobs swept (Nat.le_refl _)⟩

/-- Of two counts on two connections, and a ping behind one of them, two are jobs. -/
example :
    let events : List Event :=
      [.connect, .receive 0 (Command.new "DBSIZE" []), .receive 0 (Command.new "PING" []),
        .connect, .receive 1 (Command.new "DBSIZE" [])]
    let (count, reached, abort) := ((World.start none false).after events).runAll
    count = 2 ∧ reached.services.jobs = [] ∧ abort = none := by
  decide +kernel

end World

namespace Handler

open World

/-! ## Reading loops -/

/-- The loop has ended, or waits for octets. -/
def Rests (handler : Handler) : Prop :=
  handler.finished = true ∨ handler.reader.next.1 = .waiting

section Turns

variable {handler : Handler} {world : World} {next : Handler × World} {events : List World.Event}

/-- A turn of a loop that does not rest uses something up. -/
theorem Turn.progresses (turn : handler.Turn world next events) (busy : ¬handler.Rests) :
    next.1.Rests ∨ next.1.reader.measure < handler.reader.measure := by
  cases turn with
  | ended finished => exact absurd (Or.inl finished) busy
  | leaves => exact Or.inl (Or.inl rfl)
  | waits unfinished attends waiting => exact absurd (Or.inr waiting) busy
  | reports unfinished attends read | accepts unfinished attends read =>
      have yields : handler.reader.next.1 ≠ .waiting ∧ handler.reader.next.1 ≠ .finished := by
        rw [read]
        exact ⟨nofun, nofun⟩
      have lower := FrameReader.measure_next yields
      rw [read] at lower
      exact Or.inr lower

theorem Turn.rests (turn : handler.Turn world next events) (rests : handler.Rests) :
    next.1.Rests := by
  cases turn with
  | ended | waits => exact rests
  | leaves => exact Or.inl rfl
  | reports unfinished attends read | accepts unfinished attends read =>
      rcases rests with finished | waiting
      · rw [unfinished] at finished
        cases finished
      · rw [read] at waiting
        cases waiting

end Turns

theorem drive_succ (turns : Nat) (handler : Handler) (world : World) :
    drive (turns + 1) handler world =
      drive turns (handler.poll world).1 (handler.poll world).2.runAll.2.1 :=
  rfl

/-- The world when all jobs have been run behind a turn. -/
theorem swept_runAll_poll {world : World} (swept : world.Swept) (handler : Handler) :
    (handler.poll world).2.runAll.2.1.Swept := by
  have polled : (handler.poll world).2.Swept := by
    rw [(turn_poll swept.current handler).world_eq]
    exact swept.after _
  rcases ran : (handler.poll world).2.runAll with ⟨count, reached, abort⟩
  change reached.Swept
  rw [(runAll_empties polled ran).1]
  exact polled.after _

/-- After more turns than there is to read the loop rests. -/
theorem rests_drive {world : World} (swept : world.Swept) {turns : Nat} {handler : Handler}
    (enough : handler.Rests ∨ handler.reader.measure < turns) :
    (drive turns handler world).1.Rests := by
  induction turns generalizing handler world with
  | zero => exact enough.resolve_right (Nat.not_lt_zero _)
  | succ turns inductionHypothesis =>
      have turn := turn_poll swept.current handler
      rw [drive_succ]
      apply inductionHypothesis (swept_runAll_poll swept handler)
      by_cases rests : handler.Rests
      · exact Or.inl (turn.rests rests)
      · have lower := enough.resolve_left rests
        rcases turn.progresses rests with rests | fewer
        · exact Or.inl rests
        · exact Or.inr (Nat.lt_of_lt_of_le fewer (Nat.le_of_lt_succ lower))

theorem live_append (handler : Handler) (world : World) (earlier later : List Happening) :
    handler.live world (earlier ++ later) =
      (handler.live world earlier).1.live (handler.live world earlier).2 later := by
  induction earlier generalizing handler world with
  | nil => rfl
  | cons first rest inductionHypothesis => exact inductionHypothesis _ _

/-- Events around a loop leave it as it is. -/
theorem live_events (handler : Handler) (world : World) (events : List World.Event) :
    handler.live world (events.map .event) = (handler, world.after events) := by
  induction events generalizing world with
  | nil => rfl
  | cons event rest inductionHypothesis => exact inductionHypothesis _

theorem received_events (events : List World.Event) (later : List Happening) :
    received (events.map .event ++ later) = received later := by
  induction events with
  | nil => rfl
  | cons event rest inductionHypothesis => exact inductionHypothesis

theorem turns_events (events : List World.Event) (later : List Happening) :
    turns (events.map .event ++ later) = turns later := by
  induction events with
  | nil => rfl
  | cons event rest inductionHypothesis => exact inductionHypothesis

/-- A turn with the jobs that are run behind it. -/
theorem live_turn {world : World} (swept : world.Swept) (handler : Handler) :
    ∃ count, handler.live world (.turn :: (List.replicate count (.run 0)).map .event) =
      ((handler.poll world).1, (handler.poll world).2.runAll.2.1) := by
  have polled := swept_happen swept handler .turn
  rcases ran : (handler.poll world).2.runAll with ⟨count, reached, abort⟩
  refine ⟨count + abort.isSome.toNat, ?_⟩
  rw [live, live_events, (runAll_empties polled ran).1]
  rfl

/-- Driving a loop is a life of it in which nothing is received. -/
theorem drive_eq_live {world : World} (swept : world.Swept) (count : Nat) (handler : Handler) :
    ∃ happenings : List Happening, received happenings = [] ∧ turns happenings = count
      ∧ drive count handler world = handler.live world happenings := by
  induction count generalizing handler world with
  | zero => exact ⟨[], rfl, rfl, rfl⟩
  | succ count inductionHypothesis =>
      obtain ⟨jobs, first⟩ := live_turn swept handler
      obtain ⟨later, nothing, counted, same⟩ :=
        inductionHypothesis (swept_runAll_poll swept handler) (handler.poll world).1
      refine ⟨.turn :: (List.replicate jobs (.run 0)).map .event ++ later, ?_, ?_, ?_⟩
      · rw [List.cons_append, received, received_events, nothing]
      · rw [List.cons_append, turns, turns_events, counted]
      · rw [drive_succ, same, live_append, first]

/-- Settling a loop ends it or reads all that was received. It is a life of the loop in which
nothing is received, so that what holds of every life holds of it. -/
theorem settle_rests {world : World} (swept : world.Swept) (handler : Handler) :
    (handler.settle world).1.Rests ∧
      ∃ happenings : List Happening, received happenings = []
        ∧ handler.settle world = handler.live world happenings := by
  obtain ⟨happenings, nothing, -, same⟩ := drive_eq_live swept (handler.reader.measure + 2) handler
  exact ⟨rests_drive swept (Or.inr (by omega)), happenings, nothing, same⟩

end Handler

namespace CommandLine

/-- Whatever time has passed and whatever chunk has arrived, the server reads all of it or the loop
has ended. It is a life of the loop in which this chunk is received. -/
theorem advance_rests {world : World} (swept : world.Swept) (handler : Handler)
    (elapsed : Duration) (chunk : Bytes) :
    (advance handler world elapsed chunk).1.Rests ∧
      ∃ happenings : List Handler.Happening, Handler.received happenings = chunk
        ∧ advance handler world elapsed chunk = handler.live world happenings := by
  obtain ⟨rests, happenings, nothing, same⟩ :=
    Handler.settle_rests (swept.after [.advance elapsed]) (handler.append chunk)
  refine ⟨rests, .event (.advance elapsed) :: .octets chunk :: happenings, ?_, same⟩
  rw [Handler.received, Handler.received, nothing, List.append_nil]

/-- The end of the connection between two pings: the second is not answered. -/
example :
    let chunk := Bytes.ofText "*1\r\n$4\r\nPING\r\n*1\r\n$4\r\nQUIT\r\n*1\r\n$4\r\nPING\r\n"
    let (handler, reached) := advance (Handler.new 0 100) (World.start none false).connect 0 chunk
    handler.finished = true ∧ repliesAfter reached 0 = [.simple "PONG", .ok] := by
  decide +kernel

/-- A ping and octets that are no frame: the loop ends behind the reply to the failure. -/
example :
    let chunk := Bytes.ofText "*1\r\n$4\r\nPING\r\n?oops\r\n"
    let (handler, reached) := advance (Handler.new 0 100) (World.start none false).connect 0 chunk
    handler.finished = true ∧ repliesAfter reached 0 =
      [.simple "PONG", .failure "The command received by the server was improperly formatted"] := by
  decide +kernel

end CommandLine

end RespServer
