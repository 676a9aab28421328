import RespServer.Proofs.InFlight
import RespServer.Proofs.Run

/-!
Contract: the jobs of all connections over whole runs.

Owns:
- regular events, and what they supply to a connection: arrivals, and completions by jobs;
- that the queue of every connection fits its jobs, after every run of regular events;
- that a queue waits for a job unless a command broke off before it, and that the fatal branch of
  completions is never taken.

Does not own: what a single reaction makes of a queue (`Proofs.InFlight`).
-/

namespace RespServer

namespace World

/-! ## What events supply -/

/-- Whether an event is one of a server that nobody else interferes with: commands arrive before
they are started, and only jobs report completions. -/
def Event.isRegular : Event → Bool
  | .receive _ command => !command.started
  | .complete _ _ _ => false
  | _ => true

/-- What a regular event tells the owner of some of the jobs: an arrival, or the completion of a
job that has left the pool. -/
inductive Supply (before after : List Job) (owner : Nat) : Input → Prop where
  | arrival {input : Input}
      (fresh : ∀ arrived, input = .command arrived → arrived.started = false)
      (noCompletion : ∀ id result, input ≠ .completion id result) (same : after = before) :
      Supply before after owner input
  | job {job : Job} {result : Except Failure Frame} {front back : List Job}
      (own : job.connection = owner) (pool : before = front ++ job :: back)
      (left : after = front ++ back) :
      Supply before after owner (.completion job.command result)

theorem eraseIdx_of_getElem? {jobs : List Job} {position : Nat} {job : Job}
    (found : jobs[position]? = some job) :
    ∃ front back, jobs = front ++ job :: back ∧ jobs.eraseIdx position = front ++ back := by
  obtain ⟨inside, here⟩ := List.getElem?_eq_some_iff.mp found
  refine ⟨jobs.take position, jobs.drop (position + 1), ?_, List.eraseIdx_eq_take_drop_succ ..⟩
  rw [← here, List.getElem_cons_drop, List.take_append_drop]

theorem supply_of_delivery {world : World} {event : Event} {delivery : Delivery}
    (regular : event.isRegular = true) (delivered : world.delivery? event = some delivery) :
    Supply world.services.jobs delivery.world.services.jobs delivery.connection
      delivery.input := by
  cases event with
  | receive connection command =>
      cases delivered
      have unstarted : command.started = false := by simpa [Event.isRegular] using regular
      refine .arrival ?_ nofun rfl
      intro arrived same
      cases same
      exact unstarted
  | accept connection frame =>
      cases delivered
      dsimp only
      unfold Input.ofFrame
      split
      · rename_i command read
        refine .arrival ?_ nofun rfl
        intro arrived same
        cases same
        exact started_of_ofFrame? read
      · exact .arrival nofun nofun rfl
  | run position =>
      obtain ⟨job, completion, found, -, rfl⟩ := job_of_runDelivery? delivered
      obtain ⟨front, back, pool, left⟩ := eraseIdx_of_getElem? found
      exact .job rfl pool left
  | report | close | detach =>
      cases delivered
      exact .arrival nofun nofun rfl
  | complete => cases regular
  | connect | allow | stop | advance => cases delivered

/-! ## The jobs of one connection at a step -/

theorem Supply.jobs_of_other {before after : Services} {owner index : Nat} {input : Input}
    (supply : Supply before.jobs after.jobs owner input) (other : owner ≠ index) :
    after.jobsOf index = before.jobsOf index := by
  unfold Services.jobsOf
  cases supply with
  | arrival fresh noCompletion same => rw [same]
  | @job job result front back own pool left =>
      have foreign : ¬ job.connection = index := by
        rw [own]
        exact other
      rw [pool, left, List.filter_append, List.filter_append, List.filter_cons_of_neg]
      simpa using foreign

/-- What an input leaves of the jobs of the connection that is told. -/
theorem Supply.jobs_of_owner {before after : Services} {owner : Nat} {input : Input}
    (supply : Supply before.jobs after.jobs owner input) :
    Supply (before.jobsOf owner) (after.jobsOf owner) owner input := by
  unfold Services.jobsOf
  cases supply with
  | arrival fresh noCompletion same =>
      apply Supply.arrival fresh noCompletion
      rw [same]
  | @job job result front back own pool left =>
      apply Supply.job own
      · rw [pool, List.filter_append, List.filter_cons_of_pos]
        simpa using own
      · rw [left, List.filter_append]

theorem only_of_few {front back : List Job} {job : Job}
    (few : (front ++ job :: back).length ≤ 1) : front = [] ∧ back = [] := by
  rw [List.length_append, List.length_cons] at few
  refine ⟨List.length_eq_zero_iff.mp ?_, List.length_eq_zero_iff.mp ?_⟩
  · omega
  · omega

theorem Supply.nothing {after : List Job} {owner : Nat} {input : Input}
    (supply : Supply [] after owner input) : after = [] := by
  cases supply with
  | arrival fresh noCompletion same => exact same
  | job own pool left => exact absurd pool.symm (by simp)

section Supplied

variable {session : Session} {before : List Job} {owner : Nat} {input : Input}

theorem Supply.fits (supply : Supply before session.ownJobs owner input)
    (fits : Fits session.connection before)
    (reaction : session.Reaction input (session.respond input)) :
    Fits (session.respond input).1.connection (session.respond input).1.ownJobs := by
  cases supply with
  | arrival fresh noCompletion same =>
      rw [← same] at fits
      exact reaction.fits_of_arrival fits fresh noCompletion
  | job own pool left =>
      obtain ⟨rfl, rfl⟩ := only_of_few (pool ▸ fits.few)
      rw [pool] at fits
      exact reaction.fits_of_completion fits left

theorem Supply.stranded_iff (supply : Supply before session.ownJobs owner input)
    (fits : Fits session.connection before)
    (reaction : session.Reaction input (session.respond input)) :
    Stranded (session.respond input).1.connection (session.respond input).1.ownJobs ↔
      Stranded session.connection before ∧ (session.respond input).1.connection.isOpen = true
        ∨ Session.leavesBehind (session.respond input) = true := by
  cases supply with
  | arrival fresh noCompletion same =>
      rw [← same] at fits ⊢
      exact reaction.stranded_of_arrival fits noCompletion
  | job own pool left =>
      obtain ⟨rfl, rfl⟩ := only_of_few (pool ▸ fits.few)
      rw [reaction.stranded_of_completion left]
      constructor
      · exact Or.inr
      · rintro (⟨⟨-, -, empty⟩, -⟩ | leaves)
        · rw [pool] at empty
          cases empty
        · exact leaves

/-- A job reports for the head of its queue. -/
theorem Supply.inTurn (supply : Supply before session.ownJobs owner input)
    (fits : Fits session.connection before)
    (reaction : session.Reaction input (session.respond input)) (id : CommandId) (head : String) :
    (session.respond input).2 ≠ some (.outOfTurn id head) := by
  generalize reached : session.respond input = progress at reaction
  cases reaction with
  | closed | waits | detached => exact nofun
  | outOfTurn told isOpen missing silent advances isClosed queue =>
      cases supply with
      | arrival fresh noCompletion same => exact absurd told (noCompletion _ _)
      | job own pool left =>
          obtain ⟨rfl, rfl⟩ := only_of_few (pool ▸ fits.few)
          rw [pool] at fits
          cases told
          obtain ⟨command, rest, queue, sameId, -⟩ :=
            fits.head_of_job isOpen (List.mem_singleton_self _)
          rw [queue, Session.takeHead?, if_pos sameId] at missing
          cases missing
  | taken arrival arrives idle answers advances isOpen =>
      exact (Session.drained_drain _ isOpen).inTurn id head
  | resumed told wasOpen found answers advances isOpen =>
      exact (Session.drained_drain _ isOpen).inTurn id head

end Supplied

/-! ## All connections -/

theorem supply_of_told {world : World} {index : Nat} {event : Event} {session : Session}
    {input : Input} (orderly : world.Orderly) (regular : event.isRegular = true)
    (told : world.inputTo? index event = some (session, input)) :
    Supply (world.services.jobsOf index) session.ownJobs index input := by
  obtain ⟨delivery, delivered, rfl, rfl, present⟩ := delivery_of_told told
  have supply : Supply world.services.jobs session.services.jobs delivery.connection
      delivery.input := by
    rw [(session?_eq_some.mp present).2]
    have supply := supply_of_delivery regular delivered
    exact supply
  rw [Session.ownJobs, orderly.numbered (found_of_told told)]
  exact supply.jobs_of_owner

/-- A step that tells a connection nothing leaves its jobs. -/
theorem jobsOf_of_untold {world : World} {index : Nat} {event : Event} (orderly : world.Orderly)
    (regular : event.isRegular = true) (untold : world.inputTo? index event = none)
    (unowned : world.connections[index]? = none → world.services.jobsOf index = []) :
    (world.step event).1.services.jobsOf index = world.services.jobsOf index := by
  cases delivered : world.sweep.delivery? event with
  | none =>
      unfold Services.jobsOf
      rw [step, (apply_of_undelivered delivered).2]
      rfl
  | some delivery =>
      have supply := supply_of_delivery regular delivered
      rw [step, apply_of_delivery delivered]
      cases present : delivery.world.session? delivery.connection with
      | none =>
          rw [atConnection, present]
          by_cases here : delivery.connection = index
          · have absent : world.connections[index]? = none := by
              rw [← here]
              rw [session?, connections_of_delivery delivered] at present
              exact Option.map_eq_none_iff.mp present
            have owned := supply.jobs_of_owner
            rw [here] at owned
            change Supply (world.services.jobsOf index) _ _ _ at owned
            rw [unowned absent] at owned ⊢
            exact owned.nothing
          · exact supply.jobs_of_other here
      | some session =>
          have told := told_of_delivery delivered present
          have elsewhere := elsewhere_of_untold untold delivered present
          obtain ⟨submitted, jobs, own⟩ := (orderly.keeps told).jobs
          rw [atConnection_eq present]
          have kept : delivery.world.services.jobsOf index = world.services.jobsOf index :=
            supply.jobs_of_other elsewhere
          rw [← kept, ← (session?_eq_some.mp present).2]
          apply Services.jobsOf_append_other jobs
          intro job member
          rw [own job member, orderly.numbered (found_of_told told)]
          exact elsewhere

/-- How the queues of all connections and the pool fit together. -/
structure Fit (world : World) : Prop where
  orderly : world.Orderly
  fits : ∀ {index : Nat} {connection : Connection},
    world.connections[index]? = some connection →
      Fits connection (world.services.jobsOf index)
  unowned : ∀ {index : Nat},
    world.connections[index]? = none → world.services.jobsOf index = []

theorem fit_of_none {services : Services} (idle : services.jobs = []) : Fit ⟨services, []⟩ where
  orderly := orderly_of_none services
  fits := nofun
  unowned := by
    intro index absent
    unfold Services.jobsOf
    rw [idle]
    rfl

/-- The jobs of a connection after it was told something. -/
theorem Fit.ownJobs_of_told {world : World} (fit : world.Fit) {index : Nat} {event : Event}
    {session : Session} {input : Input}
    (told : world.inputTo? index event = some (session, input)) :
    (session.respond input).1.ownJobs = (world.step event).1.services.jobsOf index := by
  rw [Session.ownJobs, (fit.orderly.keeps told).index, fit.orderly.numbered (found_of_told told),
    step_of_told told]

theorem Fit.step {world : World} (fit : world.Fit) {event : Event}
    (regular : event.isRegular = true) : (world.step event).1.Fit where
  orderly := fit.orderly.step event
  fits := by
    intro index connection found
    cases origin_of_found found with
    | kept untold found =>
        rw [jobsOf_of_untold fit.orderly regular untold fit.unowned]
        exact fit.fits found
    | opened untold fresh new =>
        rw [jobsOf_of_untold fit.orderly regular untold fit.unowned,
          fit.unowned (List.getElem?_eq_none (Nat.le_of_eq fresh.symm)), new]
        exact fits_new _ _
    | told told reacts =>
        rw [← fit.ownJobs_of_told told, reacts]
        exact (supply_of_told fit.orderly regular told).fits (fit.fits (found_of_told told))
          (fit.orderly.reaction told)
  unowned := by
    intro index absent
    obtain ⟨unborn, untold⟩ := untold_of_absent absent
    rw [jobsOf_of_untold fit.orderly regular untold fit.unowned]
    exact fit.unowned unborn

theorem Fit.after {world : World} (fit : world.Fit) {events : List Event}
    (regular : ∀ event ∈ events, event.isRegular = true) : (world.after events).Fit := by
  induction events generalizing world with
  | nil => exact fit
  | cons event rest inductionHypothesis =>
      obtain ⟨regularNow, regularLater⟩ := List.forall_mem_cons.mp regular
      exact inductionHypothesis (fit.step regularNow) regularLater

/-! ## Stranded queues -/

/-- Whether a command of a connection breaks off at an event while others wait behind it. -/
def strandsAt (world : World) (index : Nat) (event : Event) : Bool :=
  match world.inputTo? index event with
  | none => false
  | some (session, input) => Session.leavesBehind (session.respond input)

/-- Whether a command of a connection breaks off during events while others wait behind it. -/
def strands (world : World) (index : Nat) : List Event → Bool
  | [] => false
  | event :: rest => world.strandsAt index event || (world.step event).1.strands index rest

theorem Fit.stranded_step {world : World} (fit : world.Fit) {index : Nat} {stranded : Prop}
    (known : ∀ connection, world.connections[index]? = some connection →
      connection.isOpen = true → (Stranded connection (world.services.jobsOf index) ↔ stranded))
    (unborn : world.connections[index]? = none → ¬ stranded)
    {event : Event} (regular : event.isRegular = true) {connection : Connection}
    (found : (world.step event).1.connections[index]? = some connection)
    (isOpen : connection.isOpen = true) :
    Stranded connection ((world.step event).1.services.jobsOf index) ↔
      stranded ∨ world.strandsAt index event = true := by
  unfold strandsAt
  cases origin_of_found found with
  | kept untold found =>
      rw [jobsOf_of_untold fit.orderly regular untold fit.unowned, untold]
      rw [known connection found isOpen]
      exact ⟨Or.inl, fun either => either.resolve_right nofun⟩
  | opened untold fresh new =>
      have before := unborn (List.getElem?_eq_none (Nat.le_of_eq fresh.symm))
      rw [untold]
      constructor
      · rintro ⟨-, waits, -⟩
        rw [new] at waits
        exact absurd rfl waits
      · rintro (earlier | now)
        · exact absurd earlier before
        · cases now
  | @told session input told reacts =>
      have supply := supply_of_told fit.orderly regular told
      have reaction := fit.orderly.reaction told
      rw [reacts] at isOpen ⊢
      rw [← fit.ownJobs_of_told told, told,
        supply.stranded_iff (fit.fits (found_of_told told)) reaction,
        known _ (found_of_told told) (reaction.wasOpen isOpen)]
      constructor
      · rintro (⟨earlier, -⟩ | now)
        · exact Or.inl earlier
        · exact Or.inr now
      · rintro (earlier | now)
        · exact Or.inl ⟨earlier, isOpen⟩
        · exact Or.inr now

theorem Fit.stranded_after {world : World} (fit : world.Fit) {index : Nat} {stranded : Prop}
    (known : ∀ connection, world.connections[index]? = some connection →
      connection.isOpen = true → (Stranded connection (world.services.jobsOf index) ↔ stranded))
    (unborn : world.connections[index]? = none → ¬ stranded)
    {events : List Event} (regular : ∀ event ∈ events, event.isRegular = true)
    {connection : Connection} (found : (world.after events).connections[index]? = some connection)
    (isOpen : connection.isOpen = true) :
    Stranded connection ((world.after events).services.jobsOf index) ↔
      stranded ∨ world.strands index events = true := by
  induction events generalizing world stranded with
  | nil =>
      show Stranded connection (world.services.jobsOf index) ↔ stranded ∨ false = true
      rw [known connection found isOpen]
      exact ⟨Or.inl, fun either => either.resolve_right nofun⟩
  | cons event rest inductionHypothesis =>
      obtain ⟨regularNow, regularLater⟩ := List.forall_mem_cons.mp regular
      rw [strands, Bool.or_eq_true, ← or_assoc]
      apply inductionHypothesis (fit.step regularNow)
      · intro connection found isOpen
        exact fit.stranded_step known unborn regularNow found isOpen
      · intro absent
        obtain ⟨before, untold⟩ := untold_of_absent absent
        rintro (earlier | now)
        · exact unborn before earlier
        · rw [strandsAt, untold] at now
          cases now
      · exact regularLater
      · exact found

/-! ## Heads in flight -/

/-- The head of a queue is a deferred command that was started, and its job is still in the
pool. -/
def HeadInFlight (services : Services) (connection : Connection) : Prop :=
  ∃ command rest work, connection.queue = .command command :: rest ∧ command.started = true
    ∧ command.kind.isDeferred = true
    ∧ ⟨connection.index, command.id, work⟩ ∈ services.jobs

theorem Fit.headInFlight_iff {world : World} (fit : world.Fit) {index : Nat}
    {connection : Connection} (found : world.connections[index]? = some connection)
    (isOpen : connection.isOpen = true) :
    (connection.queue ≠ [] → HeadInFlight world.services connection) ↔
      ¬ Stranded connection (world.services.jobsOf index) := by
  constructor
  · rintro waitsForJob ⟨-, waits, empty⟩
    obtain ⟨command, rest, work, -, -, -, member⟩ := waitsForJob waits
    have owned : ⟨connection.index, command.id, work⟩ ∈ world.services.jobsOf index := by
      apply List.mem_filter.mpr
      refine ⟨member, decide_eq_true ?_⟩
      exact fit.orderly.numbered found
    rw [empty] at owned
    cases owned
  · intro notStranded waits
    cases fit.fits found with
    | closed isClosed few => exact absurd isOpen (by simp [isClosed])
    | @inFlight command rest work isOpen queue started deferred unstarted job =>
        have owned : ⟨connection.index, command.id, work⟩ ∈ world.services.jobsOf index := by
          rw [job]
          exact List.mem_singleton_self _
        exact ⟨command, rest, work, queue, started, deferred, (List.mem_filter.mp owned).1⟩
    | resting isOpen unstarted none => exact absurd ⟨isOpen, waits, none⟩ notStranded

/-- In a run of regular events the queue of an open connection waits for the job of its head,
unless during the run a command of the connection broke off while others waited behind it. In
that case the queue waits, and no job of the connection is left to take it up. -/
theorem queue_waits_for_job_iff {services : Services} (idle : services.jobs = [])
    {events : List Event} (regular : ∀ event ∈ events, event.isRegular = true) (index : Nat)
    {connection : Connection}
    (found : (after ⟨services, []⟩ events).connections[index]? = some connection)
    (isOpen : connection.isOpen = true) :
    ((connection.queue ≠ [] → HeadInFlight (after ⟨services, []⟩ events).services connection) ↔
        strands ⟨services, []⟩ index events = false)
      ∧ (strands ⟨services, []⟩ index events = true →
          connection.queue ≠ []
            ∧ (after ⟨services, []⟩ events).services.jobsOf index = []) := by
  have start : Fit ⟨services, []⟩ := fit_of_none idle
  have stranded : Stranded connection ((after ⟨services, []⟩ events).services.jobsOf index) ↔
      False ∨ strands ⟨services, []⟩ index events = true :=
    start.stranded_after nofun (fun _ => id) regular found isOpen
  rw [false_or] at stranded
  constructor
  · rw [(start.after regular).headInFlight_iff found isOpen, stranded]
    rw [Bool.not_eq_true]
  · intro strands
    exact (stranded.mpr strands).2

/-- A count of keys is in flight, and a ping waits for it. -/
theorem ping_waits_for_count :
    let start : World := World.start none false
    let events : List Event :=
      [.connect, .receive 0 (Command.new "DBSIZE" []), .receive 0 (Command.new "PING" [])]
    ∃ connection, (start.after events).connections[0]? = some connection
      ∧ connection.queue.length = 2
      ∧ (connection.queue ≠ [] → HeadInFlight (start.after events).services connection) := by
  refine ⟨_, rfl, rfl, ?_⟩
  exact (queue_waits_for_job_iff rfl (by decide) 0 rfl rfl).1.mpr rfl

/-- A deadline that the clock cannot show breaks off behind a count of keys, and the ping behind it
waits for nothing. -/
theorem ping_waits_for_nothing :
    let start : World := World.start none false
    let events : List Event :=
      [.connect, .receive 0 (Command.new "DBSIZE" []),
        .receive 0 (Command.new "EXPIRE" [Bytes.ofText "k", Bytes.ofText "9223372036854775807"]),
        .receive 0 (Command.new "PING" []), .run 0]
    ∃ connection, (∀ event ∈ events, event.isRegular = true)
      ∧ (start.after events).connections[0]? = some connection
      ∧ connection.isOpen = true ∧ connection.queue ≠ []
      ∧ ¬ HeadInFlight (start.after events).services connection := by
  refine ⟨_, by decide, rfl, rfl, nofun, ?_⟩
  rintro ⟨command, rest, work, -, -, -, member⟩
  have empty : ((World.start none false).after
      [.connect, .receive 0 (Command.new "DBSIZE" []),
        .receive 0 (Command.new "EXPIRE" [Bytes.ofText "k", Bytes.ofText "9223372036854775807"]),
        .receive 0 (Command.new "PING" []), .run 0]).services.jobs = [] := rfl
  rw [empty] at member
  cases member

/-! ## Jobs and heads -/

/-- No job of the pool ever reports out of turn. -/
theorem Fit.inTurn {world : World} (fit : world.Fit) {event : Event}
    (regular : event.isRegular = true) (id : CommandId) (head : String) :
    (world.step event).2 ≠ some (.outOfTurn id head) := by
  intro aborted
  cases delivered : world.sweep.delivery? event with
  | none => cases abort_of_undelivered delivered aborted
  | some delivery =>
      cases present : delivery.world.session? delivery.connection with
      | none =>
          rw [World.step, apply_of_delivery delivered, atConnection, present] at aborted
          cases aborted
      | some session =>
          have told := told_of_delivery delivered present
          rw [step_of_told told] at aborted
          exact (supply_of_told fit.orderly regular told).inTurn (fit.fits (found_of_told told))
            (fit.orderly.reaction told) id head aborted

theorem Fit.few {world : World} (fit : world.Fit) (index : Nat) :
    (world.services.jobsOf index).length ≤ 1 := by
  cases found : world.connections[index]? with
  | none =>
      rw [fit.unowned found]
      exact Nat.zero_le 1
  | some connection => exact (fit.fits found).few

end World

/-- Only a command whose work is deferred is deferred, and it submits one job. -/
theorem Session.perform_of_deferred {session : Session} {command : Command} {work : Work}
    (outcome : (session.perform command).1 = .deferred work) :
    command.kind.isDeferred = true
      ∧ (session.perform command).2.services.jobs =
          session.services.jobs ++ [⟨session.connection.index, command.id, work⟩] := by
  cases kindOf : command.kind.isDeferred with
  | true =>
      refine ⟨rfl, ?_⟩
      rcases perform_deferred session kindOf with ⟨cause, -, done⟩ | ⟨submitted, -, done⟩
      · rw [done] at outcome
        cases outcome
      · rw [done] at outcome ⊢
        cases outcome
        rfl
  | false =>
      have ending := (Command.settles_execute kindOf
        ⟨session.services, session.connection.authenticated⟩).isAtOnce
      rw [perform_atOnce session kindOf] at outcome
      rw [outcome] at ending
      cases ending

/-- A command whose work is deferred is never answered at once with a reply. -/
theorem Session.perform_ne_reply (session : Session) {command : Command}
    (deferred : command.kind.isDeferred = true) (frame : Frame) :
    (session.perform command).1 ≠ .reply frame := by
  rcases perform_deferred session deferred with ⟨cause, -, done⟩ | ⟨work, -, done⟩
  · rw [done]
    exact nofun
  · rw [done]
    exact nofun

namespace World

/-- In a run of regular events each connection has at most one job. If the connection is open, the
job is the one of the command at the head of its queue, which was started, and nothing else in the
queue was. So no job ever reports out of turn. Only commands whose work is deferred are deferred;
they submit one job, and are never answered at once with a reply. -/
theorem job_reports_for_head {services : Services} (idle : services.jobs = [])
    {events : List Event} (regular : ∀ event ∈ events, event.isRegular = true) :
    (∀ index, ((after ⟨services, []⟩ events).services.jobsOf index).length ≤ 1)
      ∧ (∀ (index : Nat) (connection : Connection) (job : Job),
          (after ⟨services, []⟩ events).connections[index]? = some connection →
          connection.isOpen = true →
          job ∈ (after ⟨services, []⟩ events).services.jobsOf index →
            ∃ command rest, connection.queue = .command command :: rest
              ∧ command.id = job.command ∧ command.kind.isDeferred = true
              ∧ command.started = true ∧ ∀ waiting ∈ rest, waiting.startedKind? = none)
      ∧ (∀ event : Event, event.isRegular = true →
          ∀ id head, ((after ⟨services, []⟩ events).step event).2 ≠ some (.outOfTurn id head))
      ∧ ∀ (session : Session) (command : Command),
          (∀ work, (session.perform command).1 = .deferred work →
            command.kind.isDeferred = true
              ∧ (session.perform command).2.services.jobs =
                  session.services.jobs ++ [⟨session.connection.index, command.id, work⟩])
          ∧ (command.kind.isDeferred = true → ∀ frame, (session.perform command).1 ≠ .reply frame)
    := by
  have fit : (after ⟨services, []⟩ events).Fit := (fit_of_none idle).after regular
  refine ⟨fit.few, ?_, ?_, ?_⟩
  · intro index connection job found isOpen owned
    exact (fit.fits found).head_of_job isOpen owned
  · intro event regularEvent id head
    exact fit.inTurn regularEvent id head
  · intro session command
    exact ⟨fun work outcome => Session.perform_of_deferred outcome, session.perform_ne_reply⟩

/-- Two connections count keys at the same time. -/
theorem two_counts_in_flight :
    let start : World := World.start none false
    let events : List Event :=
      [.connect, .connect, .receive 0 (Command.new "DBSIZE" []), .receive 0 (Command.new "PING" []),
        .receive 1 (Command.new "DBSIZE" [])]
    (start.after events).services.jobs.length = 2
      ∧ ((start.after events).services.jobsOf 0).length ≤ 1
      ∧ ∀ id head, ((start.after events).step (.run 1)).2 ≠ some (.outOfTurn id head) := by
  refine ⟨rfl, ?_, ?_⟩
  · exact (job_reports_for_head rfl (by decide)).1 0
  · exact (job_reports_for_head rfl (by decide)).2.2.1 (.run 1) rfl

end World

end RespServer
