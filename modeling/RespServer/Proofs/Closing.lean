import RespServer.Proofs.Census
import RespServer.Proofs.InFlight

/-!
Contract: closing a connection is final.

Owns:
- what a closed connection makes of whatever it is told, and what becomes of it in a run;
- `discharges`, how many clients a connection takes off the count during events.

Does not own: why a connection closes (`Proofs.Course`).

A connection closes in the middle of its queue, with a completion, from outside, or because a
completion came out of turn. All of that is the same to what follows: nothing waits any more, and a
closed connection answers nothing. Only a job that was submitted before still finds its way to it.
-/

namespace RespServer

/-- The second connection differs from the first only in the number of its next command and in
whether someone takes its replies. -/
def Connection.Resembles (connection other : Connection) : Prop :=
  other = { connection with nextId := other.nextId, listening := other.listening }

theorem Connection.Resembles.trans {first second third : Connection}
    (earlier : first.Resembles second) (later : second.Resembles third) :
    first.Resembles third := by
  unfold Resembles at earlier later ⊢
  rw [later, earlier]

namespace Session

/-! ## Closed connections -/

/-- What a closed connection leaves of itself and of the services. -/
structure Silent (session : Session) (input : Input) (progress : Progress)
    (carried : List Carried) : Prop where
  services : progress.1.services = session.services
  whole : progress.2 = none
  resembles : session.connection.Resembles progress.1.connection
  listening : input ≠ .detach →
    progress.1.connection.listening = session.connection.listening
  nothing : carried = []

theorem Course.silent_of_closed {session : Session} {input : Input} {progress : Progress}
    {carried : List Carried} (course : session.Course input progress carried)
    (isClosed : session.connection.isOpen = false) :
    session.Silent input progress carried := by
  cases course with
  | counted => exact ⟨rfl, rfl, rfl, fun _ => rfl, rfl⟩
  | discarded => exact ⟨rfl, rfl, rfl, fun _ => rfl, rfl⟩
  | detached => exact ⟨rfl, rfl, rfl, fun attached => absurd rfl attached, rfl⟩
  | enqueued isOpen | replyEnqueued isOpen | replied isOpen | closed isOpen | outOfTurn isOpen
  | broken isOpen | taken isOpen | resumed isOpen =>
      rw [isClosed] at isOpen
      cases isOpen

/-- A turn that closes the connection is the last one: what waits behind it is dropped. -/
theorem drain_of_closing {session next : Session} {arrival : Waiting} {rest : List Waiting}
    (isOpen : session.connection.isOpen = true)
    (taken : session.takeUp arrival rest = .answered next)
    (isClosed : next.connection.isOpen = false) :
    drain (arrival :: rest) session = (next, none)
      ∧ drainCarried (arrival :: rest) session = (session.carried? arrival).toList := by
  have shut : ¬next.connection.isOpen = true := Bool.eq_false_iff.mp isClosed
  rw [drain_cons isOpen, drainCarried, taken]
  dsimp only
  rw [if_neg shut, if_neg shut, List.append_nil]
  exact ⟨rfl, rfl⟩

/-! ## Clients taken off the count -/

/-- How many clients are taken off the count when a connection is told something. -/
def discharged (session : Session) (input : Input) : Nat :=
  (session.services.statistics.clients
    - (session.respond input).1.services.statistics.clients).toNat

/-- One client for a connection that closes, and none for any other. -/
theorem Course.discharged {session : Session} {input : Input} {carried : List Carried}
    (course : session.Course input (session.respond input) carried) :
    session.discharged input + (!session.connection.isOpen).toNat =
      (!(session.respond input).1.connection.isOpen).toNat := by
  have clients : (session.respond input).1.services.statistics.clients
        - (session.respond input).1.connection.isOpen.toUInt64 =
      session.services.statistics.clients - session.connection.isOpen.toUInt64 :=
    congrArg Prod.fst course.census
  unfold Session.discharged
  cases was : session.connection.isOpen with
  | false =>
      have silent := course.silent_of_closed was
      have closed : (session.respond input).1.connection.isOpen = false := by
        rw [silent.resembles]
        exact was
      rw [silent.services, closed, UInt64.sub_self]
      rfl
  | true =>
      rw [was] at clients
      generalize session.services.statistics.clients = before at clients ⊢
      generalize (session.respond input).1.services.statistics.clients = after at clients ⊢
      cases openness : (session.respond input).1.connection.isOpen with
      | true =>
          rw [openness] at clients
          have same : before - after = 0 := by grind
          rw [same]
          rfl
      | false =>
          rw [openness] at clients
          change after - 0 = before - 1 at clients
          have one : before - after = 1 := by grind
          rw [one]
          rfl

end Session

namespace World

/-! ## Runs -/

/-- How many clients a connection takes off the count during events. -/
def discharges (world : World) (index : Nat) : List Event → Nat
  | [] => 0
  | event :: rest =>
      (match world.inputTo? index event with
        | none => 0
        | some (session, input) => session.discharged input)
        + (world.step event).1.discharges index rest

/-- Whether a connection was opened and is closed. -/
def isShut (world : World) (index : Nat) : Bool :=
  world.connections[index]?.any fun connection => !connection.isOpen

theorem isShut_of_found {world : World} {index : Nat} {connection : Connection}
    (found : world.connections[index]? = some connection) :
    world.isShut index = !connection.isOpen := by
  rw [isShut, found]
  rfl

theorem discharges_step {world : World} (orderly : world.Orderly) (index : Nat) (event : Event) :
    world.discharges index [event] + (world.isShut index).toNat =
      ((world.step event).1.isShut index).toNat := by
  rw [discharges, discharges, Nat.add_zero]
  cases present : (world.step event).1.connections[index]? with
  | none =>
      obtain ⟨absent, untold⟩ := untold_of_absent present
      rw [untold, isShut, isShut, absent, present]
      rfl
  | some connection =>
      rw [isShut_of_found present]
      cases origin_of_found present with
      | kept untold found =>
          rw [untold, isShut_of_found found]
          exact Nat.zero_add _
      | opened untold unborn new =>
          rw [untold, isShut, List.getElem?_eq_none (Nat.le_of_eq unborn.symm), new]
          rfl
      | told told reacts =>
          rw [told, isShut_of_found (found_of_told told), reacts]
          exact (orderly.course told).discharged

/-- A connection takes one client off the count when it closes, and none otherwise. -/
theorem discharges_after {world : World} (orderly : world.Orderly) (index : Nat)
    (events : List Event) :
    world.discharges index events + (world.isShut index).toNat =
      ((world.after events).isShut index).toNat := by
  induction events generalizing world with
  | nil => exact Nat.zero_add _
  | cons event rest inductionHypothesis =>
      have now := discharges_step orderly index event
      have later := inductionHypothesis (orderly.step event)
      rw [discharges, discharges, Nat.add_zero] at now
      rw [discharges]
      change _ = (((world.step event).1.after rest).isShut index).toNat
      omega

/-! ### What becomes of a closed connection -/

theorem jobs_of_delivery {world : World} {event : Event} {delivery : Delivery}
    (delivered : world.delivery? event = some delivery) :
    delivery.world.services.jobs.Sublist world.services.jobs := by
  cases event with
  | receive | accept | report | complete | close | detach =>
      cases delivered
      exact List.Sublist.refl _
  | run position =>
      obtain ⟨job, completion, -, -, rfl⟩ := job_of_runDelivery? delivered
      exact List.eraseIdx_sublist _ _
  | connect | allow | stop | advance => cases delivered

/-- The services that a connection is told with: a job has done its work and has left the pool, or
only expired keys are gone. -/
theorem services_of_told {world : World} {index : Nat} {event : Event} {session : Session}
    {input : Input} (told : world.inputTo? index event = some (session, input)) :
    session.services = world.sweep.services ∨
      ∃ position job, event = .run position ∧ world.services.jobs[position]? = some job
        ∧ job.connection = index
        ∧ session.services =
          (world.withoutJob position (job.work.run world.sweep.services.store).2).services := by
  obtain ⟨delivery, delivered, rfl, rfl, present⟩ := delivery_of_told told
  rw [(session?_eq_some.mp present).2]
  cases event with
  | receive | accept | report | complete | close | detach =>
      cases delivered
      exact Or.inl rfl
  | run position =>
      obtain ⟨job, completion, found, report, rfl⟩ := job_of_runDelivery? delivered
      exact Or.inr ⟨position, job, rfl, found, rfl, rfl⟩
  | connect | allow | stop | advance => cases delivered

/-- What becomes of a closed connection during events: it stays as it is but for the numbers it
gives, it carries out nothing, and its jobs only get fewer. -/
structure Fate (world : World) (index : Nat) (connection : Connection) (events : List Event) :
    Prop where
  stays : ∃ last, (world.after events).connections[index]? = some last
    ∧ connection.Resembles last
  nothing : world.executed index events = []
  jobs : ((world.after events).services.jobsOf index).Sublist (world.services.jobsOf index)

section Fates

variable {world : World} {index : Nat} {connection : Connection}

theorem found_of_untold (found : world.connections[index]? = some connection) {event : Event}
    (untold : world.inputTo? index event = none) :
    (world.step event).1.connections[index]? = some connection := by
  have inside := (List.getElem?_eq_some_iff.mp found).1
  have still := Nat.lt_of_lt_of_le inside (world.length_le_step event)
  rw [List.getElem?_eq_getElem still]
  cases origin_of_found (List.getElem?_eq_getElem still) with
  | kept untold same => rw [← found, same]
  | opened untold unborn new => exact absurd unborn (Nat.ne_of_lt inside)
  | told told reacts =>
      rw [untold] at told
      cases told

/-- Other connections submit jobs of their own only. -/
theorem jobs_of_untold (orderly : world.Orderly) {event : Event}
    (untold : world.inputTo? index event = none) :
    ((world.step event).1.services.jobsOf index).Sublist (world.services.jobsOf index) := by
  unfold Services.jobsOf
  cases delivered : world.sweep.delivery? event with
  | none =>
      rw [step, (apply_of_undelivered delivered).2]
      exact List.Sublist.refl _
  | some delivery =>
      have fewer := (jobs_of_delivery delivered).filter fun job => job.connection = index
      rw [step, apply_of_delivery delivered]
      cases present : delivery.world.session? delivery.connection with
      | none =>
          rw [atConnection, present]
          exact fewer
      | some session =>
          have told := told_of_delivery delivered present
          have elsewhere := elsewhere_of_untold untold delivered present
          obtain ⟨submitted, jobs, own⟩ := (orderly.keeps told).jobs
          have foreign : ∀ job ∈ submitted, job.connection ≠ index := by
            intro job member
            rw [own job member, orderly.numbered (found_of_told told)]
            exact elsewhere
          have kept := Services.jobsOf_append_other jobs foreign
          rw [(session?_eq_some.mp present).2] at kept
          rw [atConnection_eq present]
          unfold Services.jobsOf at kept
          rw [kept]
          exact fewer

theorem fate_step (orderly : world.Orderly)
    (found : world.connections[index]? = some connection) (isClosed : connection.isOpen = false)
    (event : Event) : world.Fate index connection [event] := by
  cases telling : world.inputTo? index event with
  | none =>
      refine ⟨⟨connection, found_of_untold found telling, rfl⟩, ?_,
        jobs_of_untold orderly telling⟩
      rw [executed, telling]
      rfl
  | some told =>
      obtain ⟨session, input⟩ := told
      have present := found_of_told telling
      have same : session.connection = connection := Option.some.inj (present.symm.trans found)
      subst same
      have silent := (orderly.course telling).silent_of_closed isClosed
      have inside := (List.getElem?_eq_some_iff.mp present).1
      refine ⟨⟨_, ?_, silent.resembles⟩, ?_, ?_⟩
      · change (world.step event).1.connections[index]? = _
        rw [step_of_told telling, List.getElem?_set_self inside]
      · rw [executed, telling]
        dsimp only
        rw [← Session.map_command_carriedBy, silent.nothing]
        rfl
      · change ((world.step event).1.services.jobsOf index).Sublist _
        obtain ⟨delivery, delivered, -, -, reached⟩ := delivery_of_told telling
        rw [step_of_told telling, silent.services, (session?_eq_some.mp reached).2]
        exact (jobs_of_delivery delivered).filter _

/-- What becomes of a connection once it is closed. -/
theorem fate_after (orderly : world.Orderly)
    (found : world.connections[index]? = some connection) (isClosed : connection.isOpen = false)
    (events : List Event) : world.Fate index connection events := by
  induction events generalizing world connection with
  | nil => exact ⟨⟨connection, found, rfl⟩, rfl, List.Sublist.refl _⟩
  | cons event rest inductionHypothesis =>
      have now := fate_step orderly found isClosed event
      obtain ⟨next, reached, resembles⟩ := now.stays
      have stillClosed : next.isOpen = false := by
        rw [resembles]
        exact isClosed
      have later := inductionHypothesis (orderly.step event) reached stillClosed
      obtain ⟨last, present, same⟩ := later.stays
      refine ⟨⟨last, present, resembles.trans same⟩, ?_, later.jobs.trans now.jobs⟩
      rw [executed_cons, now.nothing, later.nothing]
      rfl

end Fates

/-- Closing is final, however a connection closes. A turn that closes it is the last one of its
queue. From then on its queue is empty, nothing is written to it, and it carries out nothing; one
client was taken off the count for it and no other ever is; its jobs only get fewer. Whatever it is
told does not break off, and leaves it as it is but for the number of its next command. The counters
stay the same, and so do all services, expiry apart, unless a job that was submitted before does its
work on the store. -/
theorem closing_is_final (services : Services) {events : List Event} {index : Nat}
    {connection : Connection}
    (found : (after ⟨services, []⟩ events).connections[index]? = some connection)
    (isClosed : connection.isOpen = false) (later : List Event) :
    let closed := after ⟨services, []⟩ events
    let world := closed.after later
    (∀ {session next : Session} {arrival : Waiting} {rest : List Waiting},
      session.connection.isOpen = true → session.takeUp arrival rest = .answered next →
        next.connection.isOpen = false →
          Session.drain (arrival :: rest) session = (next, none)
            ∧ Session.drainCarried (arrival :: rest) session =
              (session.carried? arrival).toList) ∧
    (∃ last, world.connections[index]? = some last ∧ last.isOpen = false ∧ last.queue = []
      ∧ last.written = connection.written ∧ connection.Resembles last) ∧
    closed.executed index later = [] ∧
    discharges ⟨services, []⟩ index (events ++ later) = 1 ∧
    (world.services.jobsOf index).Sublist (closed.services.jobsOf index) ∧
    ∀ event session input, world.inputTo? index event = some (session, input) →
      (input ≠ .detach → ∃ number, world.step event =
        (⟨session.services,
          world.connections.set index { session.connection with nextId := number }⟩, none))
        ∧ session.services.statistics = world.services.statistics
        ∧ (session.services = world.sweep.services ∨
          ∃ position job, event = .run position ∧ job ∈ closed.services.jobsOf index
            ∧ session.services =
              (world.withoutJob position
                (job.work.run world.sweep.services.store).2).services) := by
  intro closed world
  have start := orderly_of_none services
  have orderly : closed.Orderly := start.after events
  have fate := fate_after orderly found isClosed later
  obtain ⟨last, present, resembles⟩ := fate.stays
  have stillClosed : last.isOpen = false := by
    rw [resembles]
    exact isClosed
  have empty := (orderly.after later).emptied present stillClosed
  refine ⟨Session.drain_of_closing, ⟨last, present, stillClosed, empty, ?_, resembles⟩,
    fate.nothing, ?_, fate.jobs, ?_⟩
  · rw [resembles]
  · have total := discharges_after start index (events ++ later)
    have same : after ⟨services, []⟩ (events ++ later) = world := by
      unfold world closed after
      rw [List.foldl_append]
    rw [same, isShut_of_found present, stillClosed] at total
    exact total
  · intro event session input told
    have here : session.connection = last :=
      Option.some.inj ((found_of_told told).symm.trans present)
    have silent := ((orderly.after later).course told).silent_of_closed
      (by rw [here]; exact stillClosed)
    refine ⟨fun attached => ⟨(session.respond input).1.connection.nextId, ?_⟩, ?_, ?_⟩
    · have kept : (session.respond input).1.connection =
          { session.connection with nextId := (session.respond input).1.connection.nextId } := by
        have resembles := silent.resembles
        rw [Connection.Resembles, silent.listening attached] at resembles
        exact resembles
      rw [step_of_told told, silent.services, silent.whole, ← kept]
    · obtain ⟨delivery, delivered, -, -, reached⟩ := delivery_of_told told
      have same := statistics_of_delivery delivered
      rw [(session?_eq_some.mp reached).2]
      exact same
    · rcases services_of_told told with same | ⟨position, job, ran, pooled, own, same⟩
      · exact Or.inl same
      · refine Or.inr ⟨position, job, ran, fate.jobs.mem ?_, same⟩
        exact List.mem_filter.mpr ⟨List.mem_of_getElem? pooled, decide_eq_true own⟩

/-- A connection quits behind a count, and what waits behind that is dropped; what arrives later
and a completion that nobody asked for change nothing. -/
theorem quit_drops_what_waits :
    let start : World := ⟨Services.start none false, []⟩
    let events : List Event :=
      [.connect, .receive 0 (Command.new "DBSIZE" []), .receive 0 (Command.new "QUIT" []),
        .receive 0 (Command.new "SET" (["key", "value"].map Bytes.ofText)), .run 0]
    let later : List Event :=
      [.receive 0 (Command.new "PING" []), .complete 0 9 (.ok .null), .close 0]
    (start.after events).executed 0 later = [] ∧ start.discharges 0 (events ++ later) = 1
      ∧ ∃ last, ((start.after events).after later).connections[0]? = some last
        ∧ last.queue = [] ∧ last.written = [.count 0, .ok] := by
  obtain ⟨-, ⟨last, present, -, empty, written, -⟩, nothing, once, -⟩ := @closing_is_final
    (Services.start none false)
    [.connect, .receive 0 (Command.new "DBSIZE" []), .receive 0 (Command.new "QUIT" []),
      .receive 0 (Command.new "SET" (["key", "value"].map Bytes.ofText)), .run 0]
    0 _ rfl rfl
    [.receive 0 (Command.new "PING" []), .complete 0 9 (.ok .null), .close 0]
  exact ⟨nothing, once, last, present, empty, written⟩

end World

end RespServer
