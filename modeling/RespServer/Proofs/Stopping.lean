import RespServer.Proofs.Closing
import RespServer.Proofs.Ordering
import RespServer.Proofs.Pool

/-!
Contract: a server that has been asked to stop carries out nothing any more.

Owns:
- what turns, queues and inputs lead to once the server stops;
- `Ages`, how a store changes by expiry and by given jobs, and `Winds`, what becomes of the services
  in a run after the server was asked to stop;
- what is answered in such a run.

Does not own: jobs that the pool has begun before (`Work.run`), and when connections close.

The server may be asked to stop in the middle of a queue, or while a connection waits for a job.
Nothing is looked at but the gate that every command passes in its turn, wherever it waited.
-/

namespace RespServer

/-- The frame that answers an arrival once the server stops. -/
def Waiting.dismissal : Waiting → Frame
  | .command _ => Failure.shuttingDown.reply
  | .reply frame => frame

def Waiting.dismissed (waiting : Waiting) : Answer :=
  ⟨waiting.asArrived, waiting.dismissal⟩

namespace Session

/-! ## Turns and queues -/

section Queues

variable {session : Session} (stopping : session.services.stopping = true)
include stopping

theorem gate?_of_stopping (kind : CommandKind) :
    session.gate? kind = some Failure.shuttingDown.reply := by
  rw [gate?, if_pos stopping]

theorem carried?_of_stopping (arrival : Waiting) : session.carried? arrival = none := by
  cases arrival with
  | reply frame => rfl
  | command command => rw [carried?, admitted?_of_rejected (gate?_of_stopping stopping _)]; rfl

theorem replyTo?_of_stopping (arrival : Waiting) :
    session.replyTo? arrival = some arrival.dismissal := by
  cases arrival with
  | reply frame => rfl
  | command command => rw [replyTo?, gate?_of_stopping stopping]; rfl

/-- Every turn is answered at once, whatever the command is. -/
theorem takeUp_of_stopping (arrival : Waiting) (rest : List Waiting) :
    session.takeUp arrival rest = .answered ((session.withQueue rest).write arrival.dismissal) := by
  cases arrival with
  | reply frame => rfl
  | command command => exact takeUp_of_rejected rest (gate?_of_stopping stopping _)

end Queues

/-- A session that has answered a queue without carrying anything out. -/
def dismiss (session : Session) (queue : List Waiting) : Session :=
  { session with
    connection :=
      { session.connection with
        queue := []
        written := session.connection.written ++
          if session.connection.listening then queue.map Waiting.dismissal else [] } }

theorem dismiss_cons {session : Session} (isOpen : session.connection.isOpen = true)
    (arrival : Waiting) (rest : List Waiting) :
    ((session.withQueue rest).write arrival.dismissal).dismiss rest =
      session.dismiss (arrival :: rest) := by
  unfold write dismiss withQueue
  cases listening : session.connection.listening <;> simp [isOpen, listening]

/-- A queue is answered to its end, and nothing of it is carried out. -/
theorem drain_of_stopping (queue : List Waiting) {session : Session}
    (stopping : session.services.stopping = true) (isOpen : session.connection.isOpen = true) :
    drain queue session = (session.dismiss queue, none)
      ∧ drainCarried queue session = []
      ∧ drainAnswers queue session = queue.map Waiting.dismissed := by
  induction queue generalizing session with
  | nil =>
      refine ⟨?_, rfl, rfl⟩
      rw [drain, dismiss, List.map_nil, ite_self, List.append_nil]
      rfl
  | cons arrival rest inductionHypothesis =>
      have next : ((session.withQueue rest).write arrival.dismissal).connection.isOpen = true := by
        rw [isOpen_write]
        exact isOpen
      have still : ((session.withQueue rest).write arrival.dismissal).services.stopping = true := by
        rw [services_write]
        exact stopping
      obtain ⟨drained, carried, answers⟩ := inductionHypothesis still next
      rw [drain_cons isOpen, drainCarried, drainAnswers, carried?_of_stopping stopping,
        replyTo?_of_stopping stopping, takeUp_of_stopping stopping]
      dsimp only
      rw [if_pos next, if_pos next, if_pos next, drained, carried, answers, dismiss_cons isOpen]
      exact ⟨rfl, rfl, rfl⟩

/-- A turn in which the server is asked to stop is the last one of its queue that carries anything
out. -/
theorem drain_of_stopped {session next : Session} {arrival : Waiting} {rest : List Waiting}
    (isOpen : session.connection.isOpen = true)
    (taken : session.takeUp arrival rest = .answered next)
    (stopping : next.services.stopping = true) (stillOpen : next.connection.isOpen = true) :
    drain (arrival :: rest) session = (next.dismiss rest, none)
      ∧ drainCarried (arrival :: rest) session = (session.carried? arrival).toList := by
  obtain ⟨drained, carried, -⟩ := drain_of_stopping rest stopping stillOpen
  rw [drain_cons isOpen, drainCarried, taken]
  dsimp only
  rw [if_pos stillOpen, if_pos stillOpen, drained, carried, List.append_nil]
  exact ⟨rfl, rfl⟩

/-! ## Inputs -/

/-- The second session has the services of the first, statistics aside, and the same rights. -/
structure Rests (before after : Session) : Prop where
  services : after.services = { before.services with statistics := after.services.statistics }
  authenticated : after.connection.authenticated = before.connection.authenticated

theorem Rests.trans {first second third : Session} (earlier : first.Rests second)
    (later : second.Rests third) : first.Rests third := by
  refine ⟨?_, later.authenticated.trans earlier.authenticated⟩
  rw [later.services, earlier.services]

theorem rests_write (session : Session) (frame : Frame) : session.Rests (session.write frame) := by
  unfold write
  split <;> exact ⟨rfl, rfl⟩

theorem rests_close (session : Session) : session.Rests session.close := by
  unfold close
  split <;> exact ⟨rfl, rfl⟩

theorem rests_fail (session : Session) (cause : Failure) : session.Rests (session.fail cause) := by
  unfold fail
  split
  · exact session.rests_close
  · exact session.rests_write _

theorem rests_settleHead (session : Session) (command : Command) (rest : List Waiting)
    (result : Except Failure Frame) : session.Rests (session.settleHead command rest result) := by
  have popped : session.Rests (session.withQueue rest) := ⟨rfl, rfl⟩
  have replied : ∀ last : Session, (session.withQueue rest).Rests last →
      session.Rests (if command.started then last.endCommand command.kind else last) := by
    intro last rests
    have counted : last.Rests (last.endCommand command.kind) := ⟨rfl, rfl⟩
    split
    · exact (popped.trans rests).trans counted
    · exact popped.trans rests
  cases result with
  | ok frame => exact replied _ (rests_write _ frame)
  | error cause => exact replied _ (rests_fail _ cause)

/-- Whatever a connection is told once the server stops, it carries out nothing, and the services
stay what they are but for the statistics. -/
theorem Course.rests {session : Session} {input : Input} {progress : Progress}
    {carried : List Carried} (course : session.Course input progress carried)
    (stopping : session.services.stopping = true) :
    session.Rests progress.1 ∧ carried = [] := by
  cases course with
  | counted | discarded | detached | enqueued | replyEnqueued => exact ⟨⟨rfl, rfl⟩, rfl⟩
  | replied => exact ⟨session.rests_write _, rfl⟩
  | closed | outOfTurn => exact ⟨session.rests_close, rfl⟩
  | broken => exact ⟨session.rests_settleHead _ _ _, rfl⟩
  | taken isOpen idle arrived =>
      have begun : session.countCommand.services.stopping = true := stopping
      have stillOpen : session.countCommand.connection.isOpen = true := isOpen
      obtain ⟨drained, carried, -⟩ :=
        drain_of_stopping [.command (session.numbered arrived)] begun stillOpen
      rw [drained, carried]
      exact ⟨⟨rfl, rfl⟩, rfl⟩
  | @resumed command rest result frame isOpen head reply =>
      have settled := session.rests_settleHead command rest result
      have still : (session.settleHead command rest result).services.stopping = true := by
        rw [settled.services]
        exact stopping
      obtain ⟨drained, carried, -⟩ :=
        drain_of_stopping rest still (settleHead_of_reply isOpen _ _ reply).2
      rw [drained, carried]
      exact ⟨settled.trans ⟨rfl, rfl⟩, rfl⟩

/-- Once the server stops, what is answered is dismissed, but for the command whose completion is
reported. -/
theorem answersTo_of_stopping {session : Session} (stopping : session.services.stopping = true)
    {input : Input} {answer : Answer} (answered : answer ∈ session.answersTo input) :
    (∃ waiting : Waiting, answer = waiting.dismissed) ∨
      ∃ command rest result, session.connection.queue = .command command :: rest
        ∧ input = .completion command.id result
        ∧ answer.arrival = (Waiting.command command).asArrived := by
  unfold answersTo at answered
  split at answered
  · rename_i isOpen
    split at answered
    · rename_i arrived
      have begun : session.countCommand.services.stopping = true := stopping
      have stillOpen : session.countCommand.connection.isOpen = true := isOpen
      split at answered
      · rw [(drain_of_stopping _ begun stillOpen).2.2] at answered
        obtain ⟨waiting, -, same⟩ := List.mem_map.mp answered
        exact Or.inl ⟨waiting, same.symm⟩
      · cases answered
    · rename_i cause
      split at answered
      · obtain ⟨frame, -, same⟩ := Option.map_eq_some_iff.mp (Option.mem_toList.mp answered)
        exact Or.inl ⟨.reply frame, same.symm⟩
      · cases answered
    · rename_i id result
      split at answered
      · rename_i command rest frame queue reply
        split at answered
        · rename_i sameId
          rcases List.mem_cons.mp answered with rfl | behind
          · exact Or.inr ⟨command, rest, result, queue, by rw [sameId], rfl⟩
          · have still : (session.settleHead command rest result).services.stopping = true := by
              rw [(session.rests_settleHead command rest result).services]
              exact stopping
            have stillOpen := (settleHead_of_reply isOpen command rest reply).2
            rw [(drain_of_stopping rest still stillOpen).2.2] at behind
            obtain ⟨waiting, -, same⟩ := List.mem_map.mp behind
            exact Or.inl ⟨waiting, same.symm⟩
        · cases answered
      · cases answered
    · cases answered
    · cases answered
  · cases answered

end Session

/-! ## Services -/

/-- From one store to another only expiry and the work of these jobs, one after the other, lead. -/
inductive Store.Ages : Store → List Job → Store → Prop where
  | same (store : Store) : Ages store [] store
  | sweep {before after : Store} {ran : List Job} (earlier : Ages before ran after) :
      Ages before ran after.sweep
  | advance {before after : Store} {ran : List Job} (earlier : Ages before ran after)
      (duration : Duration) : Ages before ran (after.advance duration)
  | work {before after : Store} {ran : List Job} (earlier : Ages before ran after) (job : Job) :
      Ages before (ran ++ [job]) (job.work.run after).2

theorem Store.Ages.trans {first second third : Store} {earlier later : List Job}
    (begun : Ages first earlier second) (continued : Ages second later third) :
    Ages first (earlier ++ later) third := by
  induction continued with
  | same =>
      rw [List.append_nil]
      exact begun
  | sweep _ inductionHypothesis => exact inductionHypothesis.sweep
  | advance _ duration inductionHypothesis => exact inductionHypothesis.advance duration
  | work _ job inductionHypothesis =>
      rw [← List.append_assoc]
      exact inductionHypothesis.work job

/-- The setting for unsupported commands after it was changed from outside. -/
def World.Event.allowed (current : Bool) : Event → Bool
  | .allow allowed => allowed
  | _ => current

/-- What becomes of the services, statistics aside, once the server stops: jobs that were there
before leave the pool and do their work, and no other job comes. -/
structure Services.Winds (before : Services) (events : List World.Event) (ran : List Job)
    (after : Services) : Prop where
  stopping : after.stopping = true
  store : before.store.Ages ran after.store
  jobs : (ran ++ after.jobs).Perm before.jobs
  pubsub : after.pubsub = before.pubsub
  allowUnsupported :
    after.allowUnsupported = events.foldl World.Event.allowed before.allowUnsupported
  password : after.password = before.password

section Services

variable {services : Services}

theorem winds_same (stopping : services.stopping = true) : services.Winds [] [] services :=
  ⟨stopping, .same _, List.Perm.refl _, rfl, rfl, rfl⟩

theorem Services.Winds.trans {first second third : Services} {before after : List World.Event}
    {earlier later : List Job} (begun : first.Winds before earlier second)
    (continued : second.Winds after later third) :
    first.Winds (before ++ after) (earlier ++ later) third := by
  refine ⟨continued.stopping, begun.store.trans continued.store, ?_,
    continued.pubsub.trans begun.pubsub, ?_, continued.password.trans begun.password⟩
  · rw [List.append_assoc]
    exact (continued.jobs.append_left earlier).trans begun.jobs
  · rw [continued.allowUnsupported, begun.allowUnsupported, List.foldl_append]

/-- No job is new. -/
theorem Services.Winds.mem_jobsOf {before after : Services} {events : List World.Event}
    {ran : List Job} (winds : before.Winds events ran after) {index : Nat} {job : Job}
    (queued : job ∈ after.jobsOf index) : job ∈ before.jobsOf index := by
  obtain ⟨member, own⟩ := List.mem_filter.mp queued
  exact List.mem_filter.mpr ⟨winds.jobs.mem_iff.mp (List.mem_append_right _ member), own⟩

/-- Where a connection has one job at most, it runs one at most. -/
theorem Services.Winds.few {before after : Services} {events : List World.Event}
    {ran : List Job} (winds : before.Winds events ran after) {index : Nat}
    (few : (before.jobsOf index).length ≤ 1) :
    (ran.filter fun job => job.connection = index).length ≤ 1 := by
  have same := (winds.jobs.filter fun job => job.connection = index).length_eq
  rw [List.filter_append, List.length_append] at same
  unfold jobsOf at few
  omega

/-- Statistics do not count. -/
theorem Services.Winds.counted {before after : Services} {events : List World.Event}
    {ran : List Job} (winds : before.Winds events ran after) {next : Services}
    (same : next = { after with statistics := next.statistics }) :
    before.Winds events ran next := by
  rw [same]
  exact ⟨winds.stopping, winds.store, winds.jobs, winds.pubsub, winds.allowUnsupported,
    winds.password⟩

end Services

namespace World

/-! ## Steps -/

variable {world : World}

theorem winds_of_sweep (stopping : world.services.stopping = true) {event : Event}
    (unchanged : ∀ current, event.allowed current = current) :
    world.services.Winds [event] [] world.sweep.services :=
  ⟨stopping, (Store.Ages.same _).sweep, List.Perm.refl _, rfl, (unchanged _).symm, rfl⟩

/-- A job has left the pool and has done its work, or only expired keys are gone. -/
theorem winds_of_delivery (stopping : world.services.stopping = true) {event : Event}
    {delivery : Delivery} (delivered : world.sweep.delivery? event = some delivery) :
    ∃ ran, world.services.Winds [event] ran delivery.world.services := by
  cases event with
  | receive | accept | report | complete | close | detach =>
      cases delivered
      exact ⟨[], winds_of_sweep stopping fun _ => rfl⟩
  | run position =>
      obtain ⟨job, completion, found, -, rfl⟩ := job_of_runDelivery? delivered
      obtain ⟨front, back, pool, left⟩ := eraseIdx_of_getElem? found
      refine ⟨[job], stopping, (Store.Ages.same _).sweep.work job, ?_, rfl, rfl, rfl⟩
      change ([job] ++ world.sweep.services.jobs.eraseIdx position).Perm world.sweep.services.jobs
      rw [pool] at left ⊢
      rw [left]
      change (job :: (front ++ back)).Perm _
      exact List.perm_middle.symm
  | connect | allow | stop | advance => cases delivered

theorem winds_of_undelivered (stopping : world.services.stopping = true) {event : Event}
    (undelivered : world.sweep.delivery? event = none) :
    world.services.Winds [event] [] (world.step event).1.services := by
  have swept : world.services.store.Ages [] world.services.store.sweep := (Store.Ages.same _).sweep
  cases event with
  | receive | accept | report | complete | close | detach => cases undelivered
  | run position =>
      rw [step, run_of_undelivered undelivered]
      exact winds_of_sweep stopping fun _ => rfl
  | connect => exact (winds_of_sweep stopping fun _ => rfl).counted rfl
  | allow allowed => exact ⟨stopping, swept, List.Perm.refl _, rfl, rfl, rfl⟩
  | stop => exact ⟨rfl, swept, List.Perm.refl _, rfl, rfl, rfl⟩
  | advance duration => exact ⟨stopping, swept.advance duration, List.Perm.refl _, rfl, rfl, rfl⟩

theorem stopping_of_told (stopping : world.services.stopping = true) {index : Nat} {event : Event}
    {session : Session} {input : Input}
    (told : world.inputTo? index event = some (session, input)) :
    session.services.stopping = true := by
  obtain ⟨delivery, delivered, -, -, present⟩ := delivery_of_told told
  obtain ⟨ran, winds⟩ := winds_of_delivery stopping delivered
  rw [(session?_eq_some.mp present).2]
  exact winds.stopping

theorem Orderly.winds_step (orderly : world.Orderly) (stopping : world.services.stopping = true)
    (event : Event) : ∃ ran, world.services.Winds [event] ran (world.step event).1.services := by
  cases delivered : world.sweep.delivery? event with
  | none => exact ⟨[], winds_of_undelivered stopping delivered⟩
  | some delivery =>
      obtain ⟨ran, winds⟩ := winds_of_delivery stopping delivered
      refine ⟨ran, ?_⟩
      cases present : delivery.world.session? delivery.connection with
      | none =>
          rw [World.step, apply_of_delivery delivered, atConnection, present]
          exact winds
      | some session =>
          have told := told_of_delivery delivered present
          obtain ⟨rests, -⟩ := (orderly.course told).rests (stopping_of_told stopping told)
          have same := rests.services
          rw [(session?_eq_some.mp present).2] at same
          rw [step_of_told told]
          exact winds.counted same

theorem Orderly.executed_step (orderly : world.Orderly) (stopping : world.services.stopping = true)
    (index : Nat) (event : Event) : world.executed index [event] = [] := by
  rw [executed, executed, List.append_nil]
  cases telling : world.inputTo? index event with
  | none => rfl
  | some told =>
      obtain ⟨session, input⟩ := told
      obtain ⟨-, nothing⟩ := (orderly.course telling).rests (stopping_of_told stopping telling)
      dsimp only
      rw [← Session.map_command_carriedBy, nothing, List.map_nil]

/-- The answer dismisses an arrival, or it answers the command of one of the jobs. -/
def IsLast (jobs : List Job) (answer : Answer) : Prop :=
  (∃ waiting : Waiting, answer = waiting.dismissed) ∨
    ∃ command, ∃ job ∈ jobs, command.id = job.command
      ∧ answer.arrival = (Waiting.command command).asArrived

theorem Orderly.answers_step (orderly : world.Orderly) (stopping : world.services.stopping = true)
    (index : Nat) {event : Event} (regular : event.isRegular = true) :
    ∀ answer ∈ world.answers index [event], IsLast (world.services.jobsOf index) answer := by
  rw [answers, answers, List.append_nil]
  cases telling : world.inputTo? index event with
  | none =>
      intro answer answered
      cases answered
  | some told =>
      obtain ⟨session, input⟩ := told
      intro answer answered
      rcases Session.answersTo_of_stopping (stopping_of_told stopping telling) answered with
        dismissed | ⟨command, rest, result, -, rfl, same⟩
      · exact Or.inl dismissed
      · have supply := supply_of_told orderly regular telling
        generalize world.services.jobsOf index = jobs at supply ⊢
        generalize session.ownJobs = own at supply
        generalize said : Input.completion command.id result = input at supply
        cases supply with
        | arrival fresh noCompletion unchanged => exact absurd said.symm (noCompletion _ _)
        | @job job result front back own pool left =>
            obtain ⟨sameId, -⟩ := Input.completion.inj said
            refine Or.inr ⟨command, job, ?_, sameId, same⟩
            rw [pool]
            exact List.mem_append_right _ List.mem_cons_self

/-! ## Runs -/

/-- What becomes of a server during events after it was asked to stop. -/
structure Dwindles (world : World) (events : List Event) (ran : List Job) : Prop where
  winds : world.services.Winds events ran (world.after events).services
  nothing : ∀ index, world.executed index events = []
  last : ∀ index, ∀ answer ∈ world.answers index events,
    IsLast (world.services.jobsOf index) answer

theorem Orderly.dwindles (orderly : world.Orderly) (stopping : world.services.stopping = true)
    {events : List Event} (regular : ∀ event ∈ events, event.isRegular = true) :
    ∃ ran, world.Dwindles events ran := by
  induction events generalizing world with
  | nil => exact ⟨[], winds_same stopping, fun _ => rfl, fun _ => nofun⟩
  | cons event rest inductionHypothesis =>
      obtain ⟨regularNow, regularLater⟩ := List.forall_mem_cons.mp regular
      obtain ⟨first, winds⟩ := orderly.winds_step stopping event
      obtain ⟨others, later⟩ :=
        inductionHypothesis (orderly.step event) winds.stopping regularLater
      refine ⟨first ++ others, winds.trans later.winds, fun index => ?_, fun index answer => ?_⟩
      · rw [executed_cons, orderly.executed_step stopping, later.nothing index]
        rfl
      · rw [answers_cons, List.mem_append]
        rintro (answered | answered)
        · exact orderly.answers_step stopping index regularNow answer answered
        · rcases later.last index answer answered with
            dismissed | ⟨command, job, queued, sameId, same⟩
          · exact Or.inl dismissed
          · exact Or.inr ⟨command, job, winds.mem_jobsOf queued, sameId, same⟩

/-- Once a server was asked to stop, by a command on any connection or from outside, every turn on
every connection is answered at once with the error that says so, whatever the command is and
wherever it waited; what stands behind the turn that stopped the server is answered so as well.
From then on no connection carries out anything, and no job is submitted. Only the command of a job
that was there is still answered otherwise, and there is one for each connection at most. Expiry
aside, the store changes by the work of these jobs only. The channels, the secret and the rights of
connections stay, and the setting for unsupported commands changes from outside only. -/
theorem stopping_is_final {services : Services} (idle : services.jobs = []) {events : List Event}
    (regular : ∀ event ∈ events, event.isRegular = true)
    (stopping : (after ⟨services, []⟩ events).services.stopping = true) {later : List Event}
    (regularLater : ∀ event ∈ later, event.isRegular = true) :
    let stopped := after ⟨services, []⟩ events
    let world := stopped.after later
    (∀ (session : Session) (arrival : Waiting) (rest : List Waiting),
      session.services.stopping = true →
        session.carried? arrival = none
          ∧ session.takeUp arrival rest =
            .answered ((session.withQueue rest).write arrival.dismissal)) ∧
    (∀ {session next : Session} {arrival : Waiting} {rest : List Waiting},
      session.connection.isOpen = true → session.takeUp arrival rest = .answered next →
        next.services.stopping = true → next.connection.isOpen = true →
          Session.drain (arrival :: rest) session = (next.dismiss rest, none)
            ∧ Session.drainCarried (arrival :: rest) session =
              (session.carried? arrival).toList) ∧
    (∀ index, stopped.executed index later = []
      ∧ world.authenticated index = stopped.authenticated index
      ∧ ∀ answer ∈ stopped.answers index later,
          IsLast (stopped.services.jobsOf index) answer) ∧
    ∃ ran : List Job, stopped.services.Winds later ran world.services
      ∧ ∀ index, (ran.filter fun job => job.connection = index).length ≤ 1 := by
  intro stopped world
  have fit : stopped.Fit := (fit_of_none idle).after regular
  obtain ⟨ran, dwindles⟩ := fit.orderly.dwindles stopping regularLater
  refine ⟨fun session arrival rest stops => ?_, Session.drain_of_stopped, fun index => ?_,
    ran, dwindles.winds, fun index => dwindles.winds.few (fit.few index)⟩
  · exact ⟨Session.carried?_of_stopping stops arrival,
      Session.takeUp_of_stopping stops arrival rest⟩
  · refine ⟨dwindles.nothing index, ?_, dwindles.last index⟩
    have rights := stopped.authenticated_after later index
    rw [dwindles.nothing index, List.any_nil, Bool.or_false] at rights
    exact rights

/-- A connection waits for a count with a value and a second count behind it, while another one
stops the server. The first count is answered, and nothing else is carried out. -/
theorem count_answered_after_stop :
    let start : World := ⟨Services.start none false, []⟩
    let events : List Event :=
      [.connect, .connect, .receive 0 (Command.new "DBSIZE" []),
        .receive 0 (Command.new "SET" (["key", "value"].map Bytes.ofText)),
        .receive 0 (Command.new "DBSIZE" []), .receive 1 (Command.new "SHUTDOWN" [])]
    let later : List Event := [.run 0, .receive 1 (Command.new "QUIT" [])]
    let stopped := start.after events
    stopped.executed 0 later = [] ∧ stopped.executed 1 later = []
      ∧ ∃ first second, (stopped.after later).connections = [first, second]
        ∧ first.written =
          [.count 0, Failure.shuttingDown.reply, Failure.shuttingDown.reply]
        ∧ second.written = [.ok, Failure.shuttingDown.reply] ∧ second.isOpen = true := by
  obtain ⟨-, -, nothing, -⟩ := @stopping_is_final (Services.start none false) rfl
    [.connect, .connect, .receive 0 (Command.new "DBSIZE" []),
      .receive 0 (Command.new "SET" (["key", "value"].map Bytes.ofText)),
      .receive 0 (Command.new "DBSIZE" []), .receive 1 (Command.new "SHUTDOWN" [])]
    (by decide) rfl [.run 0, .receive 1 (Command.new "QUIT" [])] (by decide)
  exact ⟨(nothing 0).1, (nothing 1).1, _, _, rfl, rfl, rfl, rfl⟩

end World

end RespServer
