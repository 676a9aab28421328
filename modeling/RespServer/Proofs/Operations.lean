import RespServer.Proofs.Course
import RespServer.Proofs.Discipline
import RespServer.Proofs.Expiration

/-!
Contract: a server does to its store what the operations of the store do, and nothing else.

Owns:
- `Operated`, a chain of operations that leads from one store to another;
- that every request, all deferred work and every course of a connection is such a chain, whatever
  it answers;
- `Invariant`, a property of stores that operations, sweeps and the passing of time keep, and that
  every step and every run of a server keeps then.

Does not own: which properties are invariants; that the index is in step is the first of them.

A property of all stores that a server ever has needs one proof for each operation of the store and
none for the commands, the queues and the worker pool.
-/

namespace RespServer

namespace Store

/-- The second store results from the first by operations. -/
inductive Operated : Store → Store → Prop where
  | same (store : Store) : Operated store store
  | perform {before after : Store} (earlier : Operated before after) (operation : Operation) :
      Operated before (after.perform operation).2

theorem Operated.trans {first second third : Store} (earlier : Operated first second)
    (later : Operated second third) : Operated first third := by
  induction later with
  | same => exact earlier
  | perform _ operation inductionHypothesis => exact inductionHypothesis.perform operation

/-- One operation on a key. -/
theorem operated_onKey (store : Store) (key : String) (operation : KeyOperation) :
    Operated store (store.performOnKey key operation).2 :=
  (Operated.same store).perform (.onKey key operation)

theorem operated_setFields (store : Store) (key : String) (pairs : List (Bytes × Bytes)) :
    Operated store (store.setFields key pairs).2 := by
  induction pairs generalizing store with
  | nil => exact .same store
  | cons pair rest inductionHypothesis =>
      have first := store.operated_onKey key (.setField pair.1 pair.2)
      rw [performOnKey] at first
      rw [setFields]
      cases done : store.setField key pair.1 pair.2 with
      | error failure => exact .same store
      | ok found =>
          rw [done] at first
          exact first.trans (inductionHypothesis found.2)

end Store

open Store

/-! ## Requests -/

namespace Request

variable {scene : Scene}

/-- A change of a key is that of the operation behind it. -/
theorem store_changeOf (change : Except Failure (Nat × Store)) (scene : Scene)
    (answer : Nat → StoreAnswer) :
    (changeOf change scene).2.services.store =
      (answerOfChange scene.services.store change answer).2 := by
  cases change <;> rfl

theorem store_runAdd (key : String) (increment : Int) (scene : Scene) :
    (runAdd key increment scene).2.services.store =
      (scene.services.store.performOnKey key (.add .int64 increment)).2 := by
  rw [runAdd, performOnKey]
  cases scene.services.store.add .int64 key increment <;> rfl

theorem operated_runAddFloat (key : String) (increment : Binary64) (scene : Scene) :
    Operated scene.services.store (runAddFloat key increment scene).2.services.store := by
  unfold runAddFloat
  split
  · exact .same _
  · split
    · exact .same _
    · dsimp only
      split
      · exact operated_onKey _ key (.replace _)
      · exact .same _

theorem operated_runTake (key : String) (scene : Scene) :
    Operated scene.services.store (runTake key scene).2.services.store := by
  unfold runTake
  split
  · exact .same _
  · exact .same _
  · exact operated_onKey _ key .remove

theorem operated_runSet (key : String) (value : Bytes) (lifetime : Option Duration)
    (condition : Option SetCondition) (scene : Scene) :
    Operated scene.services.store
      (runSet key value lifetime condition scene).2.services.store := by
  unfold runSet
  extract_lets store holds
  split
  · cases lifetime with
    | none => exact operated_onKey store key (.set value)
    | some duration =>
        have stored := store.operated_onKey key (.setFor value duration)
        rw [performOnKey] at stored
        dsimp only
        cases done : store.setFor? key value duration with
        | none => exact .same store
        | some after =>
            rw [done] at stored
            exact stored
  · exact .same store

theorem operated_runExpire (key : String) (seconds : Int) (scene : Scene) :
    Operated scene.services.store (runExpire key seconds scene).2.services.store := by
  unfold runExpire
  extract_lets store
  split
  · exact operated_onKey store key .remove
  · have limited := store.operated_onKey key (.expire (seconds.toNat * 1000))
    rw [performOnKey] at limited
    cases done : store.expire? key (seconds.toNat * 1000) with
    | none => exact .same store
    | some after =>
        rw [done] at limited
        exact limited

/-- A request changes the store by operations. One that is deferred has not begun. -/
theorem operated_run (request : Request) (scene : Scene) :
    Operated scene.services.store (request.run scene).2.services.store := by
  cases request with
  | auth password =>
      rw [run, services_runAuth]
      exact .same _
  | changeSetting parameter value =>
      rw [run, store_runChangeSetting]
      exact .same _
  | client | echo | quit | readSetting | info | shutdown | get | length | exist | timeToLive
  | typeName | readField | readFields | publish | defer | unknown => exact .same _
  | ping payload => cases payload <;> exact .same _
  | select index =>
      unfold run
      dsimp only
      split <;> exact .same _
  | append key suffix =>
      rw [run, store_changeOf _ scene .counted]
      exact operated_onKey _ key (.append suffix)
  | add key increment =>
      rw [run, store_runAdd]
      exact operated_onKey _ key (.add .int64 increment)
  | subtract key decrement =>
      unfold run
      dsimp only
      split
      · rw [store_runAdd]
        exact operated_onKey _ key (.add .int64 (-decrement))
      · exact .same _
  | addFloat key increment => exact operated_runAddFloat key increment scene
  | take key => exact operated_runTake key scene
  | set key value lifetime condition => exact operated_runSet key value lifetime condition scene
  | setIfMissing key value =>
      unfold run
      dsimp only
      split
      · exact .same _
      · exact operated_onKey _ key (.set value)
  | expire key seconds => exact operated_runExpire key seconds scene
  | removeFields key names =>
      rw [run, store_changeOf _ scene .counted]
      exact operated_onKey _ key (.removeFields names)
  | setFields key pairs => exact operated_setFields _ key pairs

end Request

theorem Command.operated_execute (command : Command) (scene : Scene) :
    Operated scene.services.store (command.execute scene).2.services.store := by
  unfold Command.execute
  split
  · exact .same _
  · exact Request.operated_run _ scene

/-! ## Deferred work -/

namespace Work

theorem operated_deleteEach (keys : List String) (store : Store) :
    Operated store (deleteEach store keys).2 := by
  induction keys generalizing store with
  | nil => exact .same store
  | cons key rest inductionHypothesis =>
      exact (store.operated_onKey key .remove).trans (inductionHypothesis (store.erase key))

theorem operated_storeEach (pairs : List (String × Bytes)) (store : Store) :
    Operated store (pairs.foldl (fun store pair => store.set pair.1 pair.2) store) := by
  induction pairs generalizing store with
  | nil => exact .same store
  | cons pair rest inductionHypothesis =>
      exact (store.operated_onKey pair.1 (.set pair.2)).trans (inductionHypothesis _)

theorem operated_run (work : Work) (store : Store) : Operated store (work.run store).2 := by
  cases work with
  | delete keys => exact operated_deleteEach keys store
  | storeEach pairs => exact operated_storeEach pairs store
  | readEach | countKeys => exact .same store
  | listKeys pattern =>
      unfold run
      dsimp only
      split <;> exact .same store
  | clear => exact (Operated.same store).perform .clear

end Work

/-! ## Connections -/

namespace Session

theorem operated_perform (session : Session) (command : Command) :
    Operated session.services.store (session.perform command).2.services.store := by
  have executed := command.operated_execute ⟨session.services, session.connection.authenticated⟩
  unfold perform
  split
  rename_i outcome scene result
  rw [result] at executed
  cases outcome <;> exact executed

theorem kept_operated : Kept fun before after =>
    Operated before.services.store after.services.store where
  same session := .same _
  trans := Operated.trans
  withQueue _ _ := .same _
  countCommand _ := .same _
  startCommand _ _ := .same _
  endCommand _ _ := .same _
  perform := operated_perform
  write session frame := by
    rw [services_write]
    exact .same _
  close session := by
    unfold close
    split <;> exact .same _
  detach _ := .same _

end Session

/-! ## Servers -/

namespace Store

/-- A property that every operation keeps, and every sweep and the passing of time as well. -/
structure Invariant (holds : Store → Prop) : Prop where
  perform : ∀ {store : Store} (operation : Operation), holds store →
    holds (store.perform operation).2
  sweep : ∀ {store : Store}, holds store → holds store.sweep
  age : ∀ {store : Store} (duration : Duration), holds store →
    holds { store with now := store.now + duration }

theorem invariant_indexed : Invariant Indexed :=
  ⟨fun operation indexed => indexed.perform operation, Indexed.sweep,
    fun duration indexed => indexed.age duration⟩

theorem Invariant.operated {holds : Store → Prop} (invariant : Invariant holds)
    {before after : Store} (operated : Operated before after) (held : holds before) :
    holds after := by
  induction operated with
  | same => exact held
  | perform _ operation inductionHypothesis =>
      exact invariant.perform operation inductionHypothesis

end Store

namespace World

variable {holds : Store → Prop}

theorem holds_of_delivery (invariant : Invariant holds) {world : World}
    (held : holds world.services.store) {event : Event} {delivery : Delivery}
    (delivered : world.delivery? event = some delivery) : holds delivery.world.services.store := by
  cases event with
  | receive | accept | report | complete | close | detach =>
      cases delivered
      exact held
  | run position =>
      obtain ⟨job, completion, -, -, rfl⟩ := job_of_runDelivery? delivered
      exact invariant.operated (Work.operated_run job.work _) held
  | connect | allow | stop | advance => cases delivered

/-- Every event keeps an invariant of the store, whether it breaks off or not. -/
theorem Orderly.holds_step {world : World} (orderly : world.Orderly)
    (invariant : Invariant holds) (held : holds world.services.store) (event : Event) :
    holds (world.step event).1.services.store := by
  have swept : holds world.sweep.services.store := invariant.sweep held
  cases delivered : world.sweep.delivery? event with
  | some delivery =>
      have worked := holds_of_delivery invariant swept delivered
      cases present : delivery.world.session? delivery.connection with
      | none =>
          rw [World.step, apply_of_delivery delivered, atConnection, present]
          exact worked
      | some session =>
          have told := told_of_delivery delivered present
          rw [step_of_told told]
          refine invariant.operated ((orderly.course told).keeps Session.kept_operated) ?_
          rw [(session?_eq_some.mp present).2]
          exact worked
  | none =>
      cases event with
      | receive | accept | report | complete | close | detach => cases delivered
      | run position =>
          rw [World.step, run_of_undelivered delivered]
          exact swept
      | connect | allow | stop => exact swept
      | advance duration => exact invariant.sweep (invariant.age duration swept)

theorem Orderly.holds_after {world : World} (orderly : world.Orderly)
    (invariant : Invariant holds) (held : holds world.services.store) (events : List Event) :
    holds (world.after events).services.store := by
  induction events generalizing world with
  | nil => exact held
  | cons event rest inductionHypothesis =>
      exact inductionHypothesis (orderly.step event) (orderly.holds_step invariant held event)

/-- An invariant that the empty store has holds of every store that a server ever has. -/
theorem holds_of_empty (invariant : Invariant holds) (held : holds Store.empty)
    (password : Option Bytes) (allowed : Bool) (events : List Event) :
    holds ((start password allowed).after events).services.store :=
  (orderly_of_none _).holds_after invariant held events

end World

end RespServer
