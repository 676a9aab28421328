import RespServer.Proofs.Mirror
import RespServer.Proofs.Run

/-!
Contract: a server that defers work does what a server does that answers each arrival at once.

Owns:
- the events of one connection that a run consists of, and the arrivals in them;
- `Simulates`, that a server mirrors the session ahead after every such event;
- that both are the same once no job is left.

Does not own: how a session stands to the one ahead (`Proofs.Mirror`).
-/

namespace RespServer

namespace World

/-! ## Runs of one connection -/

/-- Whether an event is an arrival on a connection or a job. A broken connection is no arrival. -/
def Event.concerns (index : Nat) : Event → Bool
  | .receive connection command => connection = index && !command.started
  | .accept connection _ => connection = index
  | .report connection cause => connection = index && !cause.isIo
  | .run _ => true
  | .connect | .complete _ _ _ | .close _ | .detach _ | .allow _ | .stop | .advance _ => false

/-- What arrives with a frame. -/
def arrivalOf (frame : Frame) : Arrival :=
  match Command.ofFrame? frame with
  | .ok command => .command command
  | .error cause => .failure (.command cause)

/-- What arrives at an event. -/
def Event.arrival? : Event → Option Arrival
  | .receive _ command => some (.command command)
  | .accept _ frame => some (arrivalOf frame)
  | .report _ cause => some (.failure cause)
  | _ => none

/-- The world after events none of which breaks off. -/
def run? (world : World) : List Event → Option World
  | [] => some world
  | event :: rest =>
      match world.step event with
      | (next, none) => next.run? rest
      | (_, some _) => none

/-! ## Simulation -/

/-- The connection mirrors the session ahead, and no key is due. -/
structure Simulates (world : World) (index : Nat) (session : Session) (ahead : Option Session) :
    Prop where
  present : world.session? index = some session
  numbered : session.connection.index = index
  current : session.services.store.Current
  mirrors : session.Mirrors ahead

/-- What a connection is told leads to the session that it leads to. -/
theorem simulates_of_respond {world next : World} {index : Nat} {session : Session}
    {input : Input} {ahead : Option Session}
    (present : world.session? index = some session)
    (numbered : session.connection.index = index)
    (current : session.services.store.Current)
    (emptied : session.connection.isOpen = false → session.connection.queue = [])
    (told : world.atConnection index (fun session => session.respond input) = (next, none))
    (mirrors : ∀ reached, session.respond input = (reached, none) → reached.Mirrors ahead) :
    ∃ reached, next.Simulates index reached ahead := by
  have keeps := (Session.reaction_respond input emptied).keeps emptied
  have inside := (List.getElem?_eq_some_iff.mp (session?_eq_some.mp present).1).1
  rw [atConnection_eq present] at told
  rcases responds : session.respond input with ⟨reached, abort⟩
  rw [responds] at told keeps
  cases told
  refine ⟨reached, ?_, keeps.index.trans numbered, keeps.edits.current current,
    mirrors reached responds⟩
  apply session?_eq_some.mpr
  exact ⟨List.getElem?_set_self inside, rfl⟩

/-- A command or a failure that arrives leads the session ahead on. -/
theorem Simulates.arrive {world next : World} {index : Nat} {session : Session}
    {ahead : Option Session} (simulates : world.Simulates index session ahead) {input : Input}
    {arrival : Arrival}
    (arrives : (∃ command : Command, input = .command command ∧ command.started = false
        ∧ arrival = .command command)
      ∨ ∃ cause : Failure, input = .failure cause ∧ cause.isIo = false ∧ arrival = .failure cause)
    (told : world.atConnection index (fun session => session.respond input) = (next, none)) :
    ∃ reached, next.Simulates index reached
      (ahead.bind fun ahead => Session.whole? (ahead.handle arrival)) := by
  obtain ⟨present, numbered, current, mirrors⟩ := simulates
  apply simulates_of_respond present numbered current mirrors.emptied told
  intro reached responded
  rcases arrives with ⟨command, rfl, fresh, rfl⟩ | ⟨cause, rfl, whole, rfl⟩
  · exact mirrors.receive fresh responded
  · cases responded
    exact mirrors.report whole

/-- A job brings the connection up to the session ahead, as far as nothing else is in flight. -/
theorem Simulates.run {world next : World} {index : Nat} {session : Session}
    {ahead : Option Session} (simulates : world.Simulates index session ahead) {position : Nat}
    {delivery : Delivery} (delivered : world.runDelivery? position = some delivery)
    (told : delivery.world.atConnection delivery.connection
      (fun session => session.respond delivery.input) = (next, none)) :
    ∃ reached, next.Simulates index reached ahead := by
  obtain ⟨present, numbered, current, mirrors⟩ := simulates
  obtain ⟨found, shared⟩ := session?_eq_some.mp present
  obtain ⟨job, completion, queued, report, rfl⟩ := job_of_runDelivery? delivered
  rw [← shared] at queued report
  cases mirrors with
  | idle queue noJobs same =>
      rw [noJobs] at queued
      cases queued
  | @inFlight command rest work isOpen queue started unstarted only same =>
      rw [only] at queued
      obtain ⟨inside, here⟩ := List.getElem?_eq_some_iff.mp queued
      have first : position = 0 := Nat.lt_one_iff.mp inside
      subst first
      cases here
      have workedPresent : (world.withoutJob 0 (work.run world.services.store).2).session? index =
          some (session.worked work) := by
        apply session?_eq_some.mpr
        refine ⟨found, ?_⟩
        unfold Session.worked withoutJob
        rw [← shared, only]
        rfl
      have workedCurrent : (session.worked work).services.store.Current :=
        (Work.edits_run work _).current current
      have workedEmptied : (session.worked work).connection.isOpen = false →
          (session.worked work).connection.queue = [] :=
        fun isClosed => absurd isClosed (by simp [Session.worked, isOpen])
      dsimp only at told
      rw [numbered] at told
      apply simulates_of_respond workedPresent numbered workedCurrent workedEmptied told
      intro reached completed
      rw [same]
      exact Session.mirrors_complete isOpen queue unstarted report completed

/-- Each event leads the session ahead on by what arrives at it. -/
theorem Simulates.step {world next : World} {index : Nat} {session : Session}
    {ahead : Option Session} (simulates : world.Simulates index session ahead) {event : Event}
    (concerns : event.concerns index = true) (stepped : world.step event = (next, none)) :
    ∃ reached, next.Simulates index reached
      (match event.arrival? with
        | none => ahead
        | some arrival => ahead.bind fun ahead => Session.whole? (ahead.handle arrival)) := by
  have shared := (session?_eq_some.mp simulates.present).2
  have current : world.services.store.Current := by
    rw [← shared]
    exact simulates.current
  rw [World.step, sweep_of_current current] at stepped
  cases event with
  | receive connection command =>
      simp only [Event.concerns, Bool.and_eq_true, decide_eq_true_eq, Bool.not_eq_true'] at concerns
      obtain ⟨rfl, fresh⟩ := concerns
      exact simulates.arrive (Or.inl ⟨command, rfl, fresh, rfl⟩) stepped
  | report connection cause =>
      simp only [Event.concerns, Bool.and_eq_true, decide_eq_true_eq, Bool.not_eq_true'] at concerns
      obtain ⟨rfl, whole⟩ := concerns
      exact simulates.arrive (Or.inr ⟨cause, rfl, whole, rfl⟩) stepped
  | accept connection frame =>
      have here : connection = index := of_decide_eq_true concerns
      subst here
      have delivered : world.delivery? (.accept connection frame) =
          some ⟨world, connection, .ofFrame frame⟩ := rfl
      rw [apply_of_delivery delivered] at stepped
      unfold Input.ofFrame at stepped
      show ∃ reached, next.Simulates connection reached
        (ahead.bind fun ahead => Session.whole? (ahead.handle (arrivalOf frame)))
      unfold arrivalOf
      cases read : Command.ofFrame? frame with
      | ok command =>
          rw [read] at stepped
          exact simulates.arrive (Or.inl ⟨command, rfl, started_of_ofFrame? read, rfl⟩) stepped
      | error cause =>
          rw [read] at stepped
          exact simulates.arrive (Or.inr ⟨.command cause, rfl, rfl, rfl⟩) stepped
  | run position =>
      cases delivered : world.runDelivery? position with
      | none =>
          have same := run_of_undelivered delivered
          rw [stepped] at same
          cases same
          exact ⟨session, simulates⟩
      | some delivery =>
          have told : world.delivery? (.run position) = some delivery := delivered
          rw [apply_of_delivery told] at stepped
          exact simulates.run delivered stepped
  | connect | complete | close | detach | allow | stop | advance => cases concerns

/-- A connection that has just been opened mirrors itself. -/
theorem simulates_connect {world : World} (idle : world.services.jobs = []) :
    ∃ opened : Session,
      opened.connection =
          Connection.new world.connections.length world.services.password.isNone
        ∧ (world.step .connect).1.Simulates world.connections.length opened (some opened) := by
  have added : (world.step .connect).1.connections[world.connections.length]? =
      some (Connection.new world.connections.length world.services.password.isNone) := by
    show (world.connections ++ [_])[world.connections.length]? = _
    rw [List.getElem?_append_right (Nat.le_refl _), Nat.sub_self]
    rfl
  refine ⟨⟨(world.step .connect).1.services, _⟩, rfl, ?_, rfl, ?_, .idle rfl idle rfl⟩
  · exact session?_eq_some.mpr ⟨added, rfl⟩
  · exact Store.current_sweep world.services.store

theorem whole?_handleEach_cons (session : Session) (arrival : Arrival) (rest : List Arrival) :
    Session.whole? (session.handleEach (arrival :: rest)) =
      (Session.whole? (session.handle arrival)).bind fun next =>
        Session.whole? (next.handleEach rest) := by
  rw [Session.handleEach]
  rcases session.handle arrival with ⟨next, abort⟩
  cases abort <;> rfl

/-- A run leads the session ahead on by all that arrives during it. -/
theorem Simulates.run? {world final : World} {index : Nat} {session : Session}
    {ahead : Option Session} (simulates : world.Simulates index session ahead)
    {events : List Event} (concerns : ∀ event ∈ events, event.concerns index = true)
    (ran : world.run? events = some final) :
    ∃ reached, final.Simulates index reached
      (ahead.bind fun ahead =>
        Session.whole? (ahead.handleEach (events.filterMap Event.arrival?))) := by
  induction events generalizing world session ahead with
  | nil =>
      cases ran
      refine ⟨session, ?_⟩
      show Simulates _ index session (ahead.bind some)
      rw [Option.bind_fun_some]
      exact simulates
  | cons event rest inductionHypothesis =>
      obtain ⟨concernsNow, concernsRest⟩ := List.forall_mem_cons.mp concerns
      rw [World.run?] at ran
      rcases stepped : world.step event with ⟨next, abort⟩
      rw [stepped] at ran
      cases abort with
      | some reason => cases ran
      | none =>
          obtain ⟨reached, continues⟩ := simulates.step concernsNow stepped
          obtain ⟨last, arrived⟩ := inductionHypothesis continues concernsRest ran
          refine ⟨last, ?_⟩
          cases arrives : event.arrival? with
          | none =>
              rw [arrives] at arrived
              rw [List.filterMap_cons_none arrives]
              exact arrived
          | some arrival =>
              rw [arrives] at arrived
              rw [List.filterMap_cons_some arrives]
              simp only [whole?_handleEach_cons, ← Option.bind_assoc]
              exact arrived

/-- Deferring work cannot be observed on a connection that is alone: in whatever order its arrivals
and its jobs come, once no job is left the connection and everything it shares are what they are
after the arrivals were answered one at a time, each with its work before the next. -/
theorem as_if_at_once {world : World} (idle : world.services.jobs = []) {events : List Event}
    (concerns : ∀ event ∈ events, event.concerns world.connections.length = true)
    {final : World} (ran : (world.step .connect).1.run? events = some final)
    (done : final.services.jobs = []) :
    ∃ opened session : Session,
      (world.step .connect).1.session? world.connections.length = some opened
        ∧ opened.connection =
            Connection.new world.connections.length world.services.password.isNone
        ∧ final.session? world.connections.length = some session
        ∧ opened.handleEach (events.filterMap Event.arrival?) = (session, none) := by
  obtain ⟨opened, new, simulates⟩ := simulates_connect idle
  obtain ⟨session, reached⟩ := simulates.run? concerns ran
  refine ⟨opened, session, simulates.present, new, reached.present, ?_⟩
  have noJobs : session.services.jobs = [] := by
    rw [(session?_eq_some.mp reached.present).2]
    exact done
  cases reached.mirrors with
  | idle queue empty same =>
      rw [Option.bind_some] at same
      rcases handled : opened.handleEach (events.filterMap Event.arrival?) with ⟨next, abort⟩
      rw [handled] at same
      cases abort with
      | none =>
          cases same
          rfl
      | some reason => cases same
  | inFlight isOpen queue started unstarted job same =>
      rw [job] at noJobs
      cases noJobs

/-- A ping that waits for a count of keys is answered as if the count had not been deferred. -/
theorem ping_behind_count_as_if_at_once :
    let start : World := World.start none false
    let events : List Event :=
      [.receive 0 (Command.new "DBSIZE" []), .receive 0 (Command.new "PING" []), .run 0,
        .receive 0 (Command.new "INFO" [])]
    ∃ final, (start.step .connect).1.run? events = some final
      ∧ final.services.jobs = []
      ∧ ∃ opened session : Session,
          (start.step .connect).1.session? 0 = some opened
            ∧ opened.connection = Connection.new 0 true
            ∧ final.session? 0 = some session
            ∧ opened.handleEach (events.filterMap Event.arrival?) = (session, none) := by
  refine ⟨_, rfl, rfl, ?_⟩
  exact as_if_at_once rfl (by decide) rfl rfl

end World

end RespServer
