import RespServer.Store.Operation

/-!
Contract: the task that sweeps the store at its deadlines, beside the store's users.

Owns:
- the states of the task: about to sweep, about to wait, and waiting;
- its steps, interleaved with what users do and the passing of time;
- notification: it reaches the task if it waits, else one permit is kept.

Does not own: the store's operations, which give the notification (`Store.track`).
-/

namespace RespServer

inductive ExpiryTask where
  /-- It will sweep the store next. -/
  | sweeping
  /-- It has swept, and will wait for an instant, if there is one, or a notification. -/
  | aboutToWait (until? : Option Instant)
  /-- It waits. A notification may have reached it, which it has not yet looked at. -/
  | waiting (until? : Option Instant) (notified : Bool)
deriving DecidableEq

/-- The store with its expiry task. -/
structure ExpirySystem where
  store : Store
  task : ExpiryTask

namespace ExpirySystem

/-- An empty store whose task has just begun. -/
def start : ExpirySystem :=
  ⟨Store.empty, .sweeping⟩

/-- What a waiting task waits for. -/
inductive Prompt where
  | notification
  | instant
deriving DecidableEq

inductive Event where
  | perform (operation : Operation)
  /-- A user sweeps the store. -/
  | sweep
  | elapse (duration : Duration)
  /-- The task does its next step, if it can. It looks at one of two prompts first. -/
  | task (first : Prompt)

def takePermit (store : Store) : Store :=
  { store with wakeUp := false }

/-- A notification that nobody has looked at is kept as a permit. -/
def keepPermit (store : Store) (notified : Bool) : Store :=
  { store with wakeUp := store.wakeUp || notified }

/-- A permit goes to the task if it waits for a notification. -/
def handOver (system : ExpirySystem) : ExpirySystem :=
  match system.task with
  | .waiting until? false => ⟨takePermit system.store, .waiting until? system.store.wakeUp⟩
  | .sweeping | .aboutToWait _ | .waiting _ true => system

def isReached (now : Instant) (until? : Option Instant) : Bool :=
  until?.any fun instant => instant ≤ now

/-- What lets a waiting task go on, if anything does. -/
def prompt? (first : Prompt) (notified reached : Bool) : Option Prompt :=
  match notified, reached with
  | true, true => some first
  | true, false => some .notification
  | false, true => some .instant
  | false, false => none

/-- The next step of the task. It sweeps and finds the next deadline under one lock; it then waits
until that deadline or a notification, whichever comes first. -/
def taskStep (system : ExpirySystem) (first : Prompt) : ExpirySystem :=
  match system.task with
  | .sweeping =>
      let swept := system.store.sweep
      ⟨swept, .aboutToWait swept.nextDeadline?⟩
  | .aboutToWait until? => handOver { system with task := .waiting until? false }
  | .waiting until? notified =>
      match prompt? first notified (isReached system.store.now until?) with
      | none => system
      | some .notification => { system with task := .sweeping }
      | some .instant => ⟨keepPermit system.store notified, .sweeping⟩

def step (system : ExpirySystem) : Event → ExpirySystem
  | .perform operation => handOver { system with store := (system.store.perform operation).2 }
  | .sweep => { system with store := system.store.sweep }
  | .elapse duration =>
      { system with store := { system.store with now := system.store.now + duration } }
  | .task first => system.taskStep first

/-- The system after events, the first of them first. -/
def after (system : ExpirySystem) (events : List Event) : ExpirySystem :=
  events.foldl step system

end ExpirySystem

end RespServer
