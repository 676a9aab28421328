import RespServer.Proofs.Openness
import RespServer.Server.Handler

/-!
Contract: the reading loop of a connection among the events of a server.

Owns:
- happenings: octets that are received, turns of the loop and events elsewhere, in any order;
- `Turn`, everything that a turn can be, and the event that it is for the server;
- that a server with a loop goes through the events of its happenings.

Does not own: what the octets are (`Proofs.StreamEnd`).

A turn does not remove expired keys itself. Every event removes them first and leaves none that is
due, so that a turn finds none either and is the same as an event.
-/

namespace RespServer

namespace World

/-- Whether an event leaves a connection to its reading loop and to its jobs. -/
def Event.isElsewhere (index : Nat) : Event → Bool
  | .receive connection command => connection ≠ index && !command.started
  | .accept connection _ | .report connection _ | .close connection | .detach connection =>
      connection ≠ index
  | .complete _ _ _ => false
  | .connect | .run _ | .allow _ | .stop | .advance _ => true

theorem Event.isRegular_of_elsewhere {index : Nat} {event : Event}
    (elsewhere : event.isElsewhere index = true) : event.isRegular = true := by
  cases event with
  | receive connection command =>
      rw [isElsewhere, Bool.and_eq_true] at elsewhere
      exact elsewhere.2
  | complete => cases elsewhere
  | connect | accept | report | run | close | detach | allow | stop | advance => rfl

theorem Event.attached_of_elsewhere {index : Nat} {event : Event}
    (elsewhere : event.isElsewhere index = true) : event ≠ .detach index := by
  rintro rfl
  simp [isElsewhere] at elsewhere

theorem Event.sparesOpen_of_elsewhere {index : Nat} {event : Event}
    (elsewhere : event.isElsewhere index = true) : event.sparesOpen index = true := by
  cases event with
  | report => exact Bool.or_eq_true_iff.mpr (Or.inl elsewhere)
  | close => exact elsewhere
  | connect | receive | accept | run | complete | detach | allow | stop | advance => rfl

/-- Of what happens elsewhere a connection is told the completions of its jobs only. -/
theorem completion_of_elsewhere {world : World} {index : Nat} {event : Event} {session : Session}
    {input : Input} (elsewhere : event.isElsewhere index = true)
    (told : world.inputTo? index event = some (session, input)) :
    ∃ id result, input = .completion id result := by
  obtain ⟨delivery, delivered, here, rfl, -⟩ := delivery_of_told told
  cases event with
  | receive | accept | report | close | detach =>
      cases delivered
      subst here
      simp [Event.isElsewhere] at elsewhere
  | run position =>
      obtain ⟨job, completion, -, -, rfl⟩ := job_of_runDelivery? delivered
      exact ⟨_, _, rfl⟩
  | complete => cases elsewhere
  | connect | allow | stop | advance => cases delivered

/-- Connections are in order, and no key is due. -/
structure Swept (world : World) : Prop where
  orderly : world.Orderly
  current : world.services.store.Current

theorem Swept.after {world : World} (swept : world.Swept) (events : List Event) :
    (world.after events).Swept := by
  induction events generalizing world with
  | nil => exact swept
  | cons event rest inductionHypothesis =>
      exact inductionHypothesis ⟨swept.orderly.step event, swept.orderly.current_step event⟩

end World

namespace FrameReader

theorem ended_next (reader : FrameReader) : reader.next.2.ended = reader.ended := by
  unfold next
  split
  · rfl
  · split
    · rfl
    · rfl
    · split
      · rfl
      · split <;> rfl

/-- Before the end of the stream a reading fails because of the octets. -/
theorem whole_of_next {reader after : FrameReader} {cause : Failure}
    (going : reader.ended = false) (failing : reader.next = (.failed cause, after)) :
    cause.IsWhole := by
  unfold next at failing
  rw [going] at failing
  split at failing
  · cases failing
  · split at failing
    · cases failing
    · cases failing
      rfl
    · cases failing

end FrameReader

namespace Handler

open World

/-! ## Happenings -/

/-- What happens to a reading loop and to the server around it. -/
inductive Happening where
  /-- Octets are received. -/
  | octets (chunk : Bytes)
  | turn
  | event (event : World.Event)

/-- All octets that are received. -/
def received : List Happening → Bytes
  | [] => []
  | .octets chunk :: rest => chunk ++ received rest
  | .turn :: rest | .event _ :: rest => received rest

/-- How many turns the loop takes. -/
def turns : List Happening → Nat
  | [] => 0
  | .turn :: rest => turns rest + 1
  | .octets _ :: rest | .event _ :: rest => turns rest

def happen (handler : Handler) (world : World) : Happening → Handler × World
  | .octets chunk => (handler.append chunk, world)
  | .turn => handler.poll world
  | .event event => (handler, (world.step event).1)

/-- The loop and the server after happenings. -/
def live (handler : Handler) (world : World) : List Happening → Handler × World
  | [] => (handler, world)
  | first :: rest => (handler.happen world first).1.live (handler.happen world first).2 rest

/-- What a turn tells the connection. -/
def said? (handler : Handler) (world : World) : Option World.Event :=
  if handler.finished then none
  else if handler.mustEnd world then some (.close handler.connection)
  else match handler.reader.next.1 with
    | .waiting => none
    | .finished => some (.close handler.connection)
    | .failed cause => some (.report handler.connection cause)
    | .frame frame => some (.accept handler.connection frame)

def eventsAt (handler : Handler) (world : World) : Happening → List World.Event
  | .octets _ => []
  | .turn => (handler.said? world).toList
  | .event event => [event]

/-- The events of a server that happenings are. -/
def events (handler : Handler) (world : World) : List Happening → List World.Event
  | [] => []
  | first :: rest =>
      handler.eventsAt world first
        ++ (handler.happen world first).1.events (handler.happen world first).2 rest

/-! ## Turns -/

/-- Everything that a turn of the loop can be: the loop behind it, and the events that it is. -/
inductive Turn (handler : Handler) (world : World) : Handler × World → List World.Event → Prop where
  | ended (finished : handler.finished = true) : Turn handler world (handler, world) []
  | leaves (unfinished : handler.finished = false)
      (ends : handler.mustEnd world = true ∨ handler.reader.next.1 = .finished) :
      Turn handler world
        ({ handler with finished := true }, (world.step (.close handler.connection)).1)
        [.close handler.connection]
  | waits (unfinished : handler.finished = false) (attends : handler.mustEnd world = false)
      (waiting : handler.reader.next.1 = .waiting) : Turn handler world (handler, world) []
  | reports {cause : Failure} {reader : FrameReader} (unfinished : handler.finished = false)
      (attends : handler.mustEnd world = false)
      (failed : handler.reader.next = (.failed cause, reader)) :
      Turn handler world
        ({ handler with reader := reader, finished := false },
          (world.step (.report handler.connection cause)).1)
        [.report handler.connection cause]
  | accepts {frame : Frame} {reader : FrameReader} (unfinished : handler.finished = false)
      (attends : handler.mustEnd world = false)
      (read : handler.reader.next = (.frame frame, reader)) :
      Turn handler world
        ({ handler with
            reader := reader
            finished := (world.step (.accept handler.connection frame)).2.isSome },
          (world.step (.accept handler.connection frame)).1)
        [.accept handler.connection frame]

theorem leave_eq {world : World} (current : world.services.store.Current) (handler : Handler) :
    handler.leave world =
      ({ handler with finished := true }, (world.step (.close handler.connection)).1) := by
  rw [leave, World.step, sweep_of_current current]
  rfl

theorem turn_poll {world : World} (current : world.services.store.Current) (handler : Handler) :
    handler.Turn world (handler.poll world) (handler.said? world).toList := by
  unfold poll said?
  cases finished : handler.finished with
  | true => exact .ended finished
  | false =>
      cases ends : handler.mustEnd world with
      | true =>
          rw [leave_eq current]
          exact .leaves finished (Or.inl ends)
      | false =>
          rcases reading : handler.reader.next with ⟨_ | frame | cause | _, reader⟩
          · exact .waits finished ends (congrArg Prod.fst reading)
          · have turn := Turn.accepts finished ends reading
            rw [World.step, sweep_of_current current] at turn
            exact turn
          · have turn := Turn.reports finished ends reading
            rw [World.step, sweep_of_current current] at turn
            exact turn
          · have turn := @Turn.leaves handler world finished (Or.inr (congrArg Prod.fst reading))
            rw [← leave_eq current] at turn
            exact turn

section Turns

variable {handler : Handler} {world : World} {next : Handler × World} {events : List World.Event}

theorem Turn.world_eq (turn : handler.Turn world next events) : next.2 = world.after events := by
  cases turn <;> rfl

/-- A loop stays with its connection. -/
theorem Turn.connection_eq (turn : handler.Turn world next events) :
    next.1.connection = handler.connection := by
  cases turn <;> rfl

theorem Turn.regular (turn : handler.Turn world next events) :
    ∀ event ∈ events, event.isRegular = true ∧ event ≠ .detach handler.connection := by
  cases turn with
  | ended | waits => exact nofun
  | leaves | reports | accepts => exact List.forall_mem_singleton.mpr ⟨rfl, nofun⟩

theorem Turn.ended_eq (turn : handler.Turn world next events) :
    next.1.reader.ended = handler.reader.ended := by
  cases turn with
  | ended | leaves | waits => rfl
  | reports unfinished attends failed =>
      have same := handler.reader.ended_next
      rw [failed] at same
      exact same
  | accepts unfinished attends read =>
      have same := handler.reader.ended_next
      rw [read] at same
      exact same

theorem Turn.finished_of_finished (turn : handler.Turn world next events)
    (finished : handler.finished = true) : next.1.finished = true := by
  cases turn with
  | ended => exact finished
  | leaves => rfl
  | waits unfinished | reports unfinished | accepts unfinished =>
      exact absurd finished (by simp [unfinished])

/-- A turn closes the connection only at the end of the loop. -/
theorem Turn.sparesOpen (turn : handler.Turn world next events)
    (going : handler.reader.ended = false) (unfinished : next.1.finished = false) :
    ∀ event ∈ events, event.sparesOpen handler.connection = true := by
  cases turn with
  | ended | waits => exact nofun
  | leaves => cases unfinished
  | reports _ attends failed =>
      have whole : Failure.isIo _ = false := FrameReader.whole_of_next going failed
      refine List.forall_mem_singleton.mpr ?_
      rw [World.Event.sparesOpen, whole]
      exact Bool.or_true _
  | accepts => exact List.forall_mem_singleton.mpr rfl

end Turns

/-! ## Runs -/

theorem happen_world {world : World} (swept : world.Swept) (handler : Handler)
    (happening : Happening) :
    (handler.happen world happening).2 = world.after (handler.eventsAt world happening) := by
  cases happening with
  | octets chunk => rfl
  | turn => exact (turn_poll swept.current handler).world_eq
  | event event => rfl

theorem swept_happen {world : World} (swept : world.Swept) (handler : Handler)
    (happening : Happening) : (handler.happen world happening).2.Swept := by
  rw [happen_world swept]
  exact swept.after _

/-- A server with a reading loop goes through the events of what happens. -/
theorem live_world {world : World} (swept : world.Swept) (handler : Handler)
    (happenings : List Happening) :
    (handler.live world happenings).2 = world.after (handler.events world happenings) := by
  induction happenings generalizing handler world with
  | nil => rfl
  | cons first rest inductionHypothesis =>
      rw [live, events, inductionHypothesis (swept_happen swept handler first),
        happen_world swept, after, after, after, List.foldl_append]

theorem connection_happen {world : World} (swept : world.Swept) (handler : Handler)
    (happening : Happening) :
    (handler.happen world happening).1.connection = handler.connection := by
  cases happening with
  | octets chunk => rfl
  | event event => rfl
  | turn => exact (turn_poll swept.current handler).connection_eq

theorem connection_live {world : World} (swept : world.Swept) (handler : Handler)
    (happenings : List Happening) :
    (handler.live world happenings).1.connection = handler.connection := by
  induction happenings generalizing handler world with
  | nil => rfl
  | cons first rest inductionHypothesis =>
      rw [live, inductionHypothesis (swept_happen swept handler first)]
      exact connection_happen swept handler first

/-- A loop that has ended stays as it is. -/
theorem finished_live {handler : Handler} (finished : handler.finished = true) (world : World)
    (happenings : List Happening) : (handler.live world happenings).1.finished = true := by
  induction happenings generalizing handler world with
  | nil => exact finished
  | cons first rest inductionHypothesis =>
      apply inductionHypothesis
      cases first with
      | octets chunk => exact finished
      | event event => exact finished
      | turn =>
          rw [happen, poll, if_pos finished]
          exact finished

/-- Events of other connections and of the loop itself are regular, and take nobody away. -/
theorem regular_events {world : World} (swept : world.Swept) (handler : Handler)
    {happenings : List Happening}
    (elsewhere : ∀ event, .event event ∈ happenings →
      event.isElsewhere handler.connection = true) :
    ∀ event ∈ handler.events world happenings,
      event.isRegular = true ∧ event ≠ .detach handler.connection := by
  induction happenings generalizing handler world with
  | nil => exact nofun
  | cons first rest inductionHypothesis =>
      intro event member
      rw [events, List.mem_append] at member
      rcases member with now | later
      · cases first with
        | octets chunk => cases now
        | event happened =>
            have same : event = happened := List.mem_singleton.mp now
            subst same
            have away := elsewhere event List.mem_cons_self
            exact ⟨Event.isRegular_of_elsewhere away, Event.attached_of_elsewhere away⟩
        | turn => exact (turn_poll swept.current handler).regular event now
      · have same := connection_happen swept handler first
        rw [← same]
        refine inductionHypothesis (swept_happen swept handler first) _ ?_ event later
        intro other member
        rw [same]
        exact elsewhere other (List.mem_cons_of_mem _ member)

/-- Before the loop ends, and before the end of the stream, nothing closes the connection. -/
theorem sparesOpen_events {world : World} (swept : world.Swept) (handler : Handler)
    {happenings : List Happening}
    (elsewhere : ∀ event, .event event ∈ happenings →
      event.isElsewhere handler.connection = true)
    (going : handler.reader.ended = false)
    (unfinished : (handler.live world happenings).1.finished = false) :
    ∀ event ∈ handler.events world happenings,
      event.sparesOpen handler.connection = true := by
  induction happenings generalizing handler world with
  | nil => exact nofun
  | cons first rest inductionHypothesis =>
      intro event member
      rw [live] at unfinished
      rw [events, List.mem_append] at member
      have same := connection_happen swept handler first
      have stillGoing : (handler.happen world first).1.reader.ended = false := by
        cases first with
        | octets chunk => exact going
        | event event => exact going
        | turn => exact (turn_poll swept.current handler).ended_eq.trans going
      rcases member with now | later
      · cases first with
        | octets chunk => cases now
        | event happened =>
            have same : event = happened := List.mem_singleton.mp now
            subst same
            exact Event.sparesOpen_of_elsewhere (elsewhere event List.mem_cons_self)
        | turn =>
            refine (turn_poll swept.current handler).sparesOpen going ?_ event now
            apply Bool.eq_false_iff.mpr
            intro finished
            exact Bool.eq_false_iff.mp unfinished (finished_live finished _ rest)
      · rw [← same]
        refine inductionHypothesis (swept_happen swept handler first) _ ?_ stillGoing unfinished
          event later
        intro other member
        rw [same]
        exact elsewhere other (List.mem_cons_of_mem _ member)

end Handler

end RespServer
