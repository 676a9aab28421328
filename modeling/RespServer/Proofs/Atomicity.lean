import RespServer.Proofs.EndlessSearch
import RespServer.Proofs.Turn

/-!
Contract: what is refused has changed nothing.

Owns:
- `isRefusal`, the outcomes that do not do what was asked: failures, error replies, and work that
  breaks off;
- that a refused command and refused deferred work leave everything as it was.

Does not own: what a command does that is not refused.

A command may be refused after it has begun: it sets fields one after the other, adds to what it
has read, computes a deadline. In each case the first write comes behind the last point at which
the command can still be refused.
-/

namespace RespServer

/-- Whether an outcome is a failure, an error reply, or work that breaks off. -/
def Outcome.isRefusal : Outcome → Bool
  | .reply frame => frame.isError
  | .deferred _ => false
  | .failed _ | .aborted _ => true

/-- Whether deferred work fails, replies with an error, or breaks off. -/
def WorkResult.isRefusal : WorkResult → Bool
  | .reply frame => frame.isError
  | .failed _ | .aborted _ => true

namespace Store

/-! ### Fields -/

/-- A field can be set where there is a hash or nothing, and then there is a hash. -/
theorem hash?_of_setField {store after : Store} {key : String} {field value : Bytes} {isNew : Bool}
    (done : store.setField key field value = .ok (isNew, after)) :
    ∃ fields, after.hash? key = .ok (some fields) := by
  unfold setField at done
  split at done
  · cases done
  · rename_i found _
    cases done
    refine ⟨(found.getD ∅).insert field value, ?_⟩
    simp [hash?, data?, entry?, modify]

theorem setField_of_hash? {store : Store} {key : String} {found : Option Fields}
    (isHash : store.hash? key = .ok found) (field value : Bytes) :
    ∃ isNew after, store.setField key field value = .ok (isNew, after) := by
  unfold setField
  rw [isHash]
  exact ⟨_, _, rfl⟩

/-- Where the first field can be set, all can. -/
theorem setFields_of_hash? {store : Store} {key : String} {found : Option Fields}
    (isHash : store.hash? key = .ok found) (pairs : List (Bytes × Bytes)) :
    ∃ count, (store.setFields key pairs).1 = .ok count := by
  induction pairs generalizing store found with
  | nil => exact ⟨0, rfl⟩
  | cons pair rest inductionHypothesis =>
      obtain ⟨isNew, next, first⟩ := setField_of_hash? isHash pair.1 pair.2
      obtain ⟨fields, stillHash⟩ := hash?_of_setField first
      obtain ⟨count, later⟩ := inductionHypothesis stillHash
      refine ⟨count + isNew.toNat, ?_⟩
      rw [setFields, first]
      dsimp only
      rw [later]
      rfl

/-- Setting fields fails at the first of them or not at all. -/
theorem setFields_of_failed {store : Store} {key : String} {pairs : List (Bytes × Bytes)}
    {cause : Failure} (failed : (store.setFields key pairs).1 = .error cause) :
    (store.setFields key pairs).2 = store := by
  cases found : store.hash? key with
  | ok fields =>
      obtain ⟨count, done⟩ := setFields_of_hash? found pairs
      rw [failed] at done
      cases done
  | error failure =>
      cases pairs with
      | nil => rfl
      | cons pair rest =>
          have refused : store.setField key pair.1 pair.2 = .error failure := by
            rw [setField, found]
          rw [setFields, refused]

end Store

/-! ## Requests -/

/-- A result that has left the scene alone if it is a refusal. -/
def Scene.Atomic (before : Scene) (result : Outcome × Scene) : Prop :=
  result.1.isRefusal = true → result.2 = before

theorem Scene.atomic_same (scene : Scene) (outcome : Outcome) : scene.Atomic (outcome, scene) :=
  fun _ => rfl

theorem Scene.atomic_of_plain {scene : Scene} {frame : Frame} (plain : frame.isError = false)
    (after : Scene) : scene.Atomic (.reply frame, after) := by
  intro refused
  have isError : frame.isError = true := refused
  rw [plain] at isError
  cases isError

namespace Request

theorem atomic_runAuth (password : Bytes) (scene : Scene) :
    scene.Atomic (runAuth password scene) := by
  unfold runAuth
  split
  · exact scene.atomic_same _
  · split
    · exact Scene.atomic_of_plain rfl _
    · exact scene.atomic_same _

theorem atomic_runChangeSetting (parameter value : String) (scene : Scene) :
    scene.Atomic (runChangeSetting parameter value scene) := by
  unfold runChangeSetting
  split
  · exact scene.atomic_same _
  · split
    · exact scene.atomic_same _
    · split
      · exact scene.atomic_same _
      · exact Scene.atomic_of_plain rfl _

theorem atomic_changeOf (change : Except Failure (Nat × Store)) (scene : Scene) :
    scene.Atomic (changeOf change scene) := by
  unfold changeOf
  split
  · exact scene.atomic_same _
  · exact Scene.atomic_of_plain rfl _

theorem atomic_runAdd (key : String) (increment : Int) (scene : Scene) :
    scene.Atomic (runAdd key increment scene) := by
  unfold runAdd
  split
  · exact scene.atomic_same _
  · exact Scene.atomic_of_plain rfl _

theorem atomic_runAddFloat (key : String) (increment : Binary64) (scene : Scene) :
    scene.Atomic (runAddFloat key increment scene) := by
  unfold runAddFloat
  split
  · exact scene.atomic_same _
  · split
    · exact scene.atomic_same _
    · dsimp only
      split
      · exact Scene.atomic_of_plain rfl _
      · exact scene.atomic_same _

theorem atomic_runTake (key : String) (scene : Scene) :
    scene.Atomic (runTake key scene) := by
  unfold runTake
  split
  · exact scene.atomic_same _
  · exact scene.atomic_same _
  · exact Scene.atomic_of_plain rfl _

theorem atomic_runSet (key : String) (value : Bytes) (lifetime : Option Duration)
    (condition : Option SetCondition) (scene : Scene) :
    scene.Atomic (runSet key value lifetime condition scene) := by
  unfold runSet
  extract_lets store holds
  split
  · split
    · exact Scene.atomic_of_plain rfl _
    · split
      · exact scene.atomic_same _
      · exact Scene.atomic_of_plain rfl _
  · exact scene.atomic_same _

theorem atomic_runExpire (key : String) (seconds : Int) (scene : Scene) :
    scene.Atomic (runExpire key seconds scene) := by
  unfold runExpire
  dsimp only
  split
  · exact Scene.atomic_of_plain rfl _
  · split
    · exact scene.atomic_same _
    · exact Scene.atomic_of_plain rfl _

theorem atomic_runSetFields (key : String) (fields : List (Bytes × Bytes)) (scene : Scene) :
    scene.Atomic (runSetFields key fields scene) := by
  intro refused
  unfold runSetFields at refused ⊢
  dsimp only at refused ⊢
  cases added : (scene.services.store.setFields key fields).1 with
  | error cause => rw [Store.setFields_of_failed added]; rfl
  | ok count =>
      rw [added] at refused
      cases refused

/-- A request that is refused has changed nothing. -/
theorem atomic_run (request : Request) (scene : Scene) : scene.Atomic (request.run scene) := by
  cases request with
  | auth password => exact atomic_runAuth password scene
  | changeSetting parameter value => exact atomic_runChangeSetting parameter value scene
  | append | removeFields => exact atomic_changeOf _ scene
  | add key increment => exact atomic_runAdd key increment scene
  | subtract key decrement =>
      unfold run
      dsimp only
      split
      · exact atomic_runAdd key (-decrement) scene
      · exact scene.atomic_same _
  | addFloat key increment => exact atomic_runAddFloat key increment scene
  | take key => exact atomic_runTake key scene
  | set key value lifetime condition => exact atomic_runSet key value lifetime condition scene
  | setIfMissing key value =>
      unfold run
      dsimp only
      split
      · exact scene.atomic_same _
      · exact Scene.atomic_of_plain rfl _
  | expire key seconds => exact atomic_runExpire key seconds scene
  | setFields key fields => exact atomic_runSetFields key fields scene
  | shutdown | publish => exact Scene.atomic_of_plain rfl _
  | ping payload => cases payload <;> exact scene.atomic_same _
  | select index =>
      unfold run
      dsimp only
      split <;> exact scene.atomic_same _
  | client | echo | quit | readSetting | info | get | length | exist | timeToLive | typeName
  | readField | readFields | defer | unknown => exact scene.atomic_same _

end Request

theorem Command.atomic_execute (command : Command) (scene : Scene) :
    scene.Atomic (command.execute scene) := by
  unfold Command.execute
  cases Request.ofCommand command with
  | error cause => exact scene.atomic_same _
  | ok request => exact Request.atomic_run request scene

/-! ## Sessions and deferred work -/

/-- A command that is refused submits nothing either. -/
theorem Session.perform_of_refused {session : Session} {command : Command}
    (refused : (session.perform command).1.isRefusal = true) :
    (session.perform command).2 = session := by
  have atomic := command.atomic_execute ⟨session.services, session.connection.authenticated⟩
  unfold perform at refused ⊢
  generalize command.execute ⟨session.services, session.connection.authenticated⟩ = result
    at atomic refused ⊢
  obtain ⟨outcome, scene⟩ := result
  have same : scene = ⟨session.services, session.connection.authenticated⟩ := atomic refused
  subst same
  cases outcome with
  | deferred work => cases refused
  | reply | failed | aborted => rfl

theorem Work.isRefusal_run_iff {work : Work} {store : Store} :
    (work.run store).1.isRefusal = true ↔ work.IsEndless store := by
  have conclusion := work.conclusion_run store
  generalize work.run store = result at conclusion
  cases conclusion with
  | replied ends plain => simp [WorkResult.isRefusal, plain, ends]
  | endless endless => simp [WorkResult.isRefusal, endless]

theorem Work.run_of_refused {work : Work} {store : Store}
    (refused : (work.run store).1.isRefusal = true) : (work.run store).2 = store := by
  have endless := Work.isRefusal_run_iff.mp refused
  have conclusion := work.conclusion_run store
  generalize work.run store = result at conclusion
  cases conclusion with
  | replied ends plain => exact absurd endless ends
  | endless => rfl

namespace Session

/-- A command that fails, is answered with an error or breaks off leaves the services and its
connection as they were: the keys with their values and deadlines, the index of deadlines, the
settings, the channels, the pool, the secret's acceptance and whether the server stops. Deferred
work that fails, replies with an error or breaks off leaves the store as it was. -/
theorem refusals_change_nothing :
    (∀ (session : Session) (command : Command),
      (session.perform command).1.isRefusal = true → (session.perform command).2 = session) ∧
    ∀ (work : Work) (store : Store),
      (work.run store).1.isRefusal = true → (work.run store).2 = store :=
  ⟨fun _ _ => perform_of_refused, fun _ _ => Work.run_of_refused⟩

/-- Fields of a key that holds octets, a deadline that the clock cannot show, and a search that does
not end. -/
theorem refused_fields_deadline_and_search :
    let store := (Store.empty.set "key" [1]).set "/a" [2]
    let session : Session :=
      ⟨{ Services.start none false with store := store }, Connection.new 0 true⟩
    let fields := Command.new "HSET" (["key", "a", "1", "b", "2"].map Bytes.ofText)
    let deadline := Command.new "EXPIRE" (["key", "9223372036854775807"].map Bytes.ofText)
    (session.perform fields).2 = session ∧ (session.perform deadline).2 = session ∧
      ((Work.listKeys Glob.endlessPattern).run store).2 = store := by
  obtain ⟨ofCommands, ofWork⟩ := refusals_change_nothing
  refine ⟨ofCommands _ _ rfl, ofCommands _ _ rfl, ofWork _ _ (Work.isRefusal_run_iff.mpr ?_)⟩
  exact ⟨_, rfl, "/a", by decide, Glob.matches?_endlessPattern⟩

end Session

end RespServer
