import RespServer.Proofs.Delivery
import RespServer.Server.World

/-!
Contract: events as inputs of single connections, and runs.

Owns:
- `delivery?` and `inputTo?`, what an event tells which connection;
- `Origin`, where a connection stands after a step, and what a step leaves of the jobs of each;
- `after`, the world after a sequence of events, and `Orderly`, which all of them keep;
- that expiry has nothing left to do after a step.

Does not own: what holds of the queue of a connection over a whole run.

## Why inputs

A command, a frame, a failure, a job and a stray completion reach a connection in different events.
Each of them tells one connection one thing. So a statement about all runs needs one step for each
input of a connection and none for the events.
-/

namespace RespServer

namespace World

/-! ## Deliveries -/

/-- What is told to a connection, and the world in which it is told. -/
structure Delivery where
  world : World
  connection : Nat
  input : Input

/-- The world after a job has left the pool and has done its work on the store. -/
def withoutJob (world : World) (position : Nat) (store : Store) : World :=
  { world with
    services :=
      { world.services with
        store := store
        jobs := world.services.jobs.eraseIdx position } }

/-- What the job at a position reports; nothing if there is none or its work never ends. -/
def runDelivery? (world : World) (position : Nat) : Option Delivery :=
  world.services.jobs[position]?.bind fun job =>
    (job.work.run world.services.store).1.report.map fun completion =>
      { world := world.withoutJob position (job.work.run world.services.store).2
        connection := job.connection
        input := .completion job.command completion }

/-- What an event tells a connection, if it tells one anything. -/
def delivery? (world : World) : Event → Option Delivery
  | .receive connection command => some ⟨world, connection, .command command⟩
  | .accept connection frame => some ⟨world, connection, .ofFrame frame⟩
  | .report connection cause => some ⟨world, connection, .failure cause⟩
  | .run position => world.runDelivery? position
  | .complete connection id result => some ⟨world, connection, .completion id result⟩
  | .close connection => some ⟨world, connection, .close⟩
  | .detach connection => some ⟨world, connection, .detach⟩
  | .connect | .allow _ | .stop | .advance _ => none

/-- The connection that an event opens, if it opens one. -/
def opened (world : World) : Event → List Connection
  | .connect => [Connection.new world.connections.length world.services.password.isNone]
  | _ => []

theorem respond_ofFrame (session : Session) (frame : Frame) :
    session.respond (.ofFrame frame) = session.accept frame := by
  unfold Input.ofFrame Session.accept
  cases Command.ofFrame? frame <;> rfl

/-- A job that reports was in the pool, and its work has come to an end. -/
theorem job_of_runDelivery? {world : World} {position : Nat} {delivery : Delivery}
    (delivered : world.runDelivery? position = some delivery) :
    ∃ job completion, world.services.jobs[position]? = some job
      ∧ (job.work.run world.services.store).1.report = some completion
      ∧ delivery =
          ⟨world.withoutJob position (job.work.run world.services.store).2, job.connection,
            .completion job.command completion⟩ := by
  unfold runDelivery? at delivered
  obtain ⟨job, found, reported⟩ := Option.bind_eq_some_iff.mp delivered
  obtain ⟨completion, report, rfl⟩ := Option.map_eq_some_iff.mp reported
  exact ⟨job, completion, found, report, rfl⟩

theorem apply_of_delivery {world : World} {event : Event} {delivery : Delivery}
    (delivered : world.delivery? event = some delivery) :
    world.apply event =
      delivery.world.atConnection delivery.connection fun session =>
        session.respond delivery.input := by
  cases event with
  | receive | report | complete | close | detach =>
      cases delivered
      rfl
  | accept connection frame =>
      cases delivered
      simp only [respond_ofFrame]
      rfl
  | run position =>
      obtain ⟨job, completion, found, report, rfl⟩ := job_of_runDelivery? delivered
      rw [apply, runJob?, found]
      dsimp only
      rw [report]
      rfl
  | connect | allow | stop | advance => cases delivered

/-- A job that is not there or never ends leaves everything as it is. -/
theorem run_of_undelivered {world : World} {position : Nat}
    (undelivered : world.runDelivery? position = none) :
    (world.apply (.run position)).1 = world := by
  rw [apply, runJob?]
  cases found : world.services.jobs[position]? with
  | none => rfl
  | some job =>
      rw [runDelivery?, found, Option.bind_some] at undelivered
      dsimp only
      rw [Option.map_eq_none_iff.mp undelivered]
      rfl

/-- An event that tells nobody anything leaves the connections and the jobs. -/
theorem apply_of_undelivered {world : World} {event : Event}
    (undelivered : world.delivery? event = none) :
    (world.apply event).1.connections = world.connections ++ world.opened event
      ∧ (world.apply event).1.services.jobs = world.services.jobs := by
  cases event with
  | receive | accept | report | complete | close | detach => cases undelivered
  | run position =>
      rw [run_of_undelivered undelivered]
      exact ⟨(List.append_nil _).symm, rfl⟩
  | connect => exact ⟨rfl, rfl⟩
  | allow | stop | advance => exact ⟨(List.append_nil _).symm, rfl⟩

theorem abort_of_undelivered {world : World} {event : Event}
    (undelivered : world.delivery? event = none) {reason : Abort}
    (aborted : (world.apply event).2 = some reason) : reason = .endlessSearch := by
  cases event with
  | receive | accept | report | complete | close | detach => cases undelivered
  | run position =>
      have undelivered : world.runDelivery? position = none := undelivered
      rw [apply, runJob?] at aborted
      cases found : world.services.jobs[position]? with
      | none =>
          rw [found] at aborted
          cases aborted
      | some job =>
          rw [runDelivery?, found, Option.bind_some] at undelivered
          rw [found] at aborted
          dsimp only at aborted
          rw [Option.map_eq_none_iff.mp undelivered] at aborted
          exact (Option.some.inj aborted).symm
  | connect | allow | stop | advance => cases aborted

/-! ## One connection at a step -/

/-- The session of a connection that is told something at an event, and what it is told. -/
def inputTo? (world : World) (index : Nat) (event : Event) : Option (Session × Input) :=
  match world.sweep.delivery? event with
  | none => none
  | some delivery =>
      if delivery.connection = index then
        (delivery.world.session? index).map fun session => (session, delivery.input)
      else none

theorem connections_of_delivery {world : World} {event : Event} {delivery : Delivery}
    (delivered : world.delivery? event = some delivery) :
    delivery.world.connections = world.connections := by
  cases event with
  | receive | accept | report | complete | close | detach =>
      cases delivered
      rfl
  | run position =>
      obtain ⟨job, completion, -, -, rfl⟩ := job_of_runDelivery? delivered
      rfl
  | connect | allow | stop | advance => cases delivered

theorem session?_eq_some {world : World} {index : Nat} {session : Session} :
    world.session? index = some session ↔
      world.connections[index]? = some session.connection ∧ session.services = world.services := by
  constructor
  · intro found
    obtain ⟨connection, present, rfl⟩ := Option.map_eq_some_iff.mp found
    exact ⟨present, rfl⟩
  · rintro ⟨present, shared⟩
    rw [session?, present, ← shared]
    rfl

theorem atConnection_eq {world : World} {index : Nat} {session : Session}
    (present : world.session? index = some session) (change : Session → Progress) :
    world.atConnection index change =
      (⟨(change session).1.services, world.connections.set index (change session).1.connection⟩,
        (change session).2) := by
  rw [atConnection, present]
  rfl

/-- The delivery behind what a connection is told. -/
theorem delivery_of_told {world : World} {index : Nat} {event : Event} {session : Session}
    {input : Input} (told : world.inputTo? index event = some (session, input)) :
    ∃ delivery : Delivery, world.sweep.delivery? event = some delivery
      ∧ delivery.connection = index ∧ delivery.input = input
      ∧ delivery.world.session? index = some session := by
  unfold inputTo? at told
  split at told
  · cases told
  · rename_i delivery delivered
    split at told
    · obtain ⟨found, present, same⟩ := Option.map_eq_some_iff.mp told
      cases same
      exact ⟨delivery, delivered, ‹_›, rfl, present⟩
    · cases told

theorem told_of_delivery {world : World} {event : Event} {delivery : Delivery} {session : Session}
    (delivered : world.sweep.delivery? event = some delivery)
    (present : delivery.world.session? delivery.connection = some session) :
    world.inputTo? delivery.connection event = some (session, delivery.input) := by
  rw [inputTo?, delivered]
  dsimp only
  rw [if_pos rfl, present]
  rfl

/-- What is told to a connection that is there is told to another one. -/
theorem elsewhere_of_untold {world : World} {index : Nat} {event : Event} {delivery : Delivery}
    {session : Session} (untold : world.inputTo? index event = none)
    (delivered : world.sweep.delivery? event = some delivery)
    (present : delivery.world.session? delivery.connection = some session) :
    delivery.connection ≠ index := by
  rintro rfl
  rw [told_of_delivery delivered present] at untold
  cases untold

theorem found_of_told {world : World} {index : Nat} {event : Event} {session : Session}
    {input : Input} (told : world.inputTo? index event = some (session, input)) :
    world.connections[index]? = some session.connection := by
  obtain ⟨delivery, delivered, -, -, present⟩ := delivery_of_told told
  have found := (session?_eq_some.mp present).1
  rw [connections_of_delivery delivered] at found
  exact found

/-- No connection is ever forgotten. -/
theorem length_le_step (world : World) (event : Event) :
    world.connections.length ≤ (world.step event).1.connections.length := by
  cases delivered : world.sweep.delivery? event with
  | none =>
      rw [step, (apply_of_undelivered delivered).1, List.length_append]
      exact Nat.le_add_right _ _
  | some delivery =>
      have kept : delivery.world.connections.length = world.connections.length := by
        rw [connections_of_delivery delivered]
        rfl
      rw [step, apply_of_delivery delivered]
      cases present : delivery.world.session? delivery.connection with
      | none =>
          rw [atConnection, present]
          exact Nat.le_of_eq kept.symm
      | some session =>
          rw [atConnection_eq present, List.length_set]
          exact Nat.le_of_eq kept.symm

/-- The step of a connection that is told something. -/
theorem step_of_told {world : World} {index : Nat} {event : Event} {session : Session}
    {input : Input} (told : world.inputTo? index event = some (session, input)) :
    world.step event =
      (⟨(session.respond input).1.services,
        world.connections.set index (session.respond input).1.connection⟩,
        (session.respond input).2) := by
  obtain ⟨delivery, delivered, rfl, rfl, present⟩ := delivery_of_told told
  rw [step, apply_of_delivery delivered, atConnection_eq present,
    connections_of_delivery delivered]
  rfl

/-- A connection that is not there after a step was not there before and is told nothing. -/
theorem untold_of_absent {world : World} {index : Nat} {event : Event}
    (absent : (world.step event).1.connections[index]? = none) :
    world.connections[index]? = none ∧ world.inputTo? index event = none := by
  have unborn : world.connections[index]? = none :=
    List.getElem?_eq_none
      (Nat.le_trans (world.length_le_step event) (List.getElem?_eq_none_iff.mp absent))
  have untold : world.inputTo? index event = none := by
    cases telling : world.inputTo? index event with
    | none => rfl
    | some told =>
        rw [found_of_told telling] at unborn
        cases unborn
  exact ⟨unborn, untold⟩

/-- Where a connection comes from that is there after a step. -/
inductive Origin (world : World) (event : Event) (index : Nat) (connection : Connection) :
    Prop where
  | kept (untold : world.inputTo? index event = none)
      (found : world.connections[index]? = some connection) :
      Origin world event index connection
  | opened (untold : world.inputTo? index event = none) (fresh : index = world.connections.length)
      (new : connection = Connection.new index world.services.password.isNone) :
      Origin world event index connection
  | told {session : Session} {input : Input}
      (told : world.inputTo? index event = some (session, input))
      (reacts : connection = (session.respond input).1.connection) :
      Origin world event index connection

theorem origin_of_found {world : World} {event : Event} {index : Nat} {connection : Connection}
    (found : (world.step event).1.connections[index]? = some connection) :
    Origin world event index connection := by
  cases telling : world.inputTo? index event with
  | some told =>
      obtain ⟨session, input⟩ := told
      have inside := (List.getElem?_eq_some_iff.mp (found_of_told telling)).1
      rw [step_of_told telling, List.getElem?_set_self inside] at found
      exact .told telling (Option.some.inj found).symm
  | none =>
      cases delivered : world.sweep.delivery? event with
      | none =>
          rw [step, (apply_of_undelivered delivered).1] at found
          change (world.connections ++ world.sweep.opened event)[index]? = _ at found
          by_cases inside : index < world.connections.length
          · rw [List.getElem?_append_left inside] at found
            exact .kept telling found
          · have outside := Nat.le_of_not_lt inside
            rw [List.getElem?_append_right outside] at found
            cases event with
            | connect =>
                have within := (List.getElem?_eq_some_iff.mp found).1
                have fresh : index = world.connections.length :=
                  Nat.le_antisymm (Nat.sub_eq_zero_iff_le.mp (Nat.lt_one_iff.mp within)) outside
                subst fresh
                rw [Nat.sub_self] at found
                exact .opened telling rfl (Option.some.inj found).symm
            | _ => cases found
      | some delivery =>
          rw [step, apply_of_delivery delivered] at found
          cases present : delivery.world.session? delivery.connection with
          | none =>
              rw [atConnection, present, connections_of_delivery delivered] at found
              exact .kept telling found
          | some session =>
              have elsewhere := elsewhere_of_untold telling delivered present
              rw [atConnection_eq present, List.getElem?_set_ne elsewhere,
                connections_of_delivery delivered] at found
              exact .kept telling found

theorem attached_of_told {world : World} {index : Nat} {event : Event} {session : Session}
    {input : Input} (told : world.inputTo? index event = some (session, input))
    (attached : event ≠ .detach index) : input ≠ .detach := by
  rintro rfl
  obtain ⟨delivery, delivered, here, said, -⟩ := delivery_of_told told
  cases event with
  | receive | report | complete | close =>
      cases delivered
      cases said
  | accept connection frame =>
      cases delivered
      unfold Input.ofFrame at said
      split at said <;> cases said
  | run position =>
      obtain ⟨job, completion, -, -, rfl⟩ := job_of_runDelivery? delivered
      cases said
  | detach connection =>
      cases delivered
      exact attached (congrArg Event.detach here)
  | connect | allow | stop | advance => cases delivered

/-- Whether a command breaks off that is carried out at an event. -/
def breaksOff (world : World) (event : Event) : Bool :=
  (world.sweep.delivery? event).isSome && (world.step event).2.any Abort.isExecution

/-- What a connection makes of an input at an event at which no command breaks off. -/
theorem whole_of_told {world : World} {index : Nat} {event : Event} {session : Session}
    {input : Input} (told : world.inputTo? index event = some (session, input))
    (whole : world.breaksOff event = false) :
    ∀ reason, (session.respond input).2 = some reason → reason.isExecution = false := by
  intro reason aborted
  obtain ⟨delivery, delivered, -⟩ := delivery_of_told told
  rw [breaksOff, delivered, step_of_told told, aborted] at whole
  exact whole

/-! ## Runs -/

/-- The world after a sequence of events, whether they break off or not. -/
def after (world : World) (events : List Event) : World :=
  events.foldl (fun reached event => (reached.step event).1) world

theorem length_le_after (world : World) (events : List Event) :
    world.connections.length ≤ (world.after events).connections.length := by
  induction events generalizing world with
  | nil => exact Nat.le_refl _
  | cons event rest inductionHypothesis =>
      exact Nat.le_trans (world.length_le_step event) (inductionHypothesis (world.step event).1)

/-- Connections carry their numbers, and closed ones have no queue. -/
structure Orderly (world : World) : Prop where
  numbered : ∀ {index : Nat} {connection : Connection},
    world.connections[index]? = some connection → connection.index = index
  emptied : ∀ {index : Nat} {connection : Connection},
    world.connections[index]? = some connection →
      connection.isOpen = false → connection.queue = []

theorem orderly_of_none (services : Services) : Orderly ⟨services, []⟩ :=
  ⟨nofun, nofun⟩

theorem Orderly.reaction {world : World} (orderly : world.Orderly) {index : Nat} {event : Event}
    {session : Session} {input : Input}
    (told : world.inputTo? index event = some (session, input)) :
    session.Reaction input (session.respond input) :=
  Session.reaction_respond input (orderly.emptied (found_of_told told))

theorem Orderly.keeps {world : World} (orderly : world.Orderly) {index : Nat} {event : Event}
    {session : Session} {input : Input}
    (told : world.inputTo? index event = some (session, input)) :
    session.Keeps (session.respond input).1 :=
  (orderly.reaction told).keeps (orderly.emptied (found_of_told told))

theorem Orderly.step {world : World} (orderly : world.Orderly) (event : Event) :
    (world.step event).1.Orderly := by
  constructor
  · intro index connection found
    cases origin_of_found found with
    | kept untold found => exact orderly.numbered found
    | opened untold fresh new => rw [new, Connection.new]
    | told told reacts =>
        rw [reacts, (orderly.keeps told).index]
        exact orderly.numbered (found_of_told told)
  · intro index connection found isClosed
    cases origin_of_found found with
    | kept untold found => exact orderly.emptied found isClosed
    | opened untold fresh new =>
        rw [new] at isClosed
        cases isClosed
    | told told reacts =>
        rw [reacts] at isClosed ⊢
        exact (orderly.keeps told).emptied isClosed

theorem Orderly.after {world : World} (orderly : world.Orderly) (events : List Event) :
    (world.after events).Orderly := by
  induction events generalizing world with
  | nil => exact orderly
  | cons event rest inductionHypothesis => exact inductionHypothesis (orderly.step event)

/-! ## Expiry -/

theorem sweep_of_current {world : World} (current : world.services.store.Current) :
    world.sweep = world := by
  unfold sweep withStore
  rw [Store.sweep_of_current current]

theorem current_of_delivery {world : World} (current : world.services.store.Current)
    {event : Event} {delivery : Delivery} (delivered : world.delivery? event = some delivery) :
    delivery.world.services.store.Current := by
  cases event with
  | receive | accept | report | complete | close | detach =>
      cases delivered
      exact current
  | run position =>
      obtain ⟨job, completion, -, -, rfl⟩ := job_of_runDelivery? delivered
      exact (Work.edits_run job.work _).current current
  | connect | allow | stop | advance => cases delivered

/-- After every step no deadline is reached. -/
theorem Orderly.current_step {world : World} (orderly : world.Orderly) (event : Event) :
    (world.step event).1.services.store.Current := by
  have swept : world.sweep.services.store.Current := Store.current_sweep _
  cases delivered : world.sweep.delivery? event with
  | some delivery =>
      have worked := current_of_delivery swept delivered
      cases present : delivery.world.session? delivery.connection with
      | none =>
          rw [World.step, apply_of_delivery delivered, atConnection, present]
          exact worked
      | some session =>
          have told := told_of_delivery delivered present
          rw [step_of_told told]
          apply (orderly.keeps told).edits.current
          rw [(session?_eq_some.mp present).2]
          exact worked
  | none =>
      cases event with
      | receive | accept | report | complete | close | detach => cases delivered
      | run position =>
          rw [World.step, run_of_undelivered delivered]
          exact swept
      | connect | allow | stop => exact swept
      | advance duration => exact Store.current_sweep _

end World

end RespServer
