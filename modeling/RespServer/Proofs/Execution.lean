import RespServer.Proofs.Editing
import RespServer.Proofs.Reading
import RespServer.Server.Execution

/-!
Contract: what carrying out a command can lead to.

Owns:
- which condition admits that a value is stored;
- what a command leaves of the services, and that it edits the store;
- which kinds of command leave work to the worker pool;
- the same for deferred work.

Does not own: gates, replies and queues (`Proofs.Turn`).
-/

namespace RespServer

open Store

/-- Whether a value is stored, depending on the presence of its key. -/
def SetCondition.admits (condition : Option SetCondition) (isPresent : Bool) : Bool :=
  match condition with
  | none => true
  | some .ifMissing => !isPresent
  | some .ifPresent => isPresent

/-- What no request changes, and how it may change the store. -/
structure Scene.Continues (before after : Scene) : Prop where
  jobs : after.services.jobs = before.services.jobs
  statistics : after.services.statistics = before.services.statistics
  password : after.services.password = before.services.password
  edits : Edits before.services.store after.services.store

theorem Scene.continues_same (scene : Scene) : scene.Continues scene :=
  ⟨rfl, rfl, rfl, .same _⟩

theorem Scene.continues_withStore {scene : Scene} {store : Store}
    (edits : Edits scene.services.store store) : scene.Continues (scene.withStore store) :=
  ⟨rfl, rfl, rfl, edits⟩

/-- Whether a command breaks off for this reason while it is carried out. The other reason belongs
to completions. -/
def Abort.isExecution : Abort → Bool
  | .deadlineOverflow | .endlessSearch => true
  | .outOfTurn _ _ => false

/-- Whether an outcome is one of a command that leaves nothing to the worker pool. -/
def Outcome.isAtOnce : Outcome → Bool
  | .reply _ | .failed _ => true
  | .deferred _ => false
  | .aborted reason => reason.isExecution

/-- A result that leaves nothing to the worker pool. -/
structure Scene.Settles (before : Scene) (result : Outcome × Scene) : Prop where
  continues : before.Continues result.2
  isAtOnce : result.1.isAtOnce = true

theorem Scene.settles_same {scene : Scene} {outcome : Outcome}
    (isAtOnce : outcome.isAtOnce = true) : scene.Settles (outcome, scene) :=
  ⟨scene.continues_same, isAtOnce⟩

theorem Scene.settles_withStore {scene : Scene} {store : Store} {frame : Frame}
    (edits : Edits scene.services.store store) :
    scene.Settles (.reply frame, scene.withStore store) :=
  ⟨Scene.continues_withStore edits, rfl⟩

namespace Request

/-! ### Requests that are carried out at once -/

theorem settles_runAuth (password : Bytes) (scene : Scene) :
    scene.Settles (runAuth password scene) := by
  unfold runAuth
  split
  · exact Scene.settles_same rfl
  · split
    · exact ⟨⟨rfl, rfl, rfl, .same _⟩, rfl⟩
    · exact Scene.settles_same rfl

theorem settles_runClient (subcommand : String) (scene : Scene) :
    scene.Settles (runClient subcommand, scene) := by
  unfold runClient
  split
  · exact Scene.settles_same rfl
  · split <;> exact Scene.settles_same rfl

theorem settles_runReadSetting (pattern : String) (scene : Scene) :
    scene.Settles (runReadSetting pattern scene.services, scene) := by
  unfold runReadSetting
  split <;> exact Scene.settles_same rfl

theorem settles_runChangeSetting (parameter value : String) (scene : Scene) :
    scene.Settles (runChangeSetting parameter value scene) := by
  unfold runChangeSetting
  split
  · exact Scene.settles_same rfl
  · split
    · exact Scene.settles_same rfl
    · split
      · exact Scene.settles_same rfl
      · exact ⟨⟨rfl, rfl, rfl, .same _⟩, rfl⟩

theorem settles_outcomeOf (reading : Except Failure α) (reply : α → Frame) (scene : Scene) :
    scene.Settles (outcomeOf reading reply, scene) := by
  cases reading <;> exact Scene.settles_same rfl

theorem settles_changeOf {change : Except Failure (Nat × Store)} {scene : Scene}
    (edits : ∀ count store, change = .ok (count, store) → Edits scene.services.store store) :
    scene.Settles (changeOf change scene) := by
  unfold changeOf
  split
  · exact Scene.settles_same rfl
  · exact Scene.settles_withStore (edits _ _ rfl)

theorem settles_runAdd (key : String) (increment : Int) (scene : Scene) :
    scene.Settles (runAdd key increment scene) := by
  unfold runAdd
  split
  · exact Scene.settles_same rfl
  · rename_i sum store added
    exact Scene.settles_withStore (edits_add added)

theorem settles_runAddFloat (key : String) (increment : Binary64) (scene : Scene) :
    scene.Settles (runAddFloat key increment scene) := by
  unfold runAddFloat
  split
  · exact Scene.settles_same rfl
  · split
    · exact Scene.settles_same rfl
    · dsimp only
      split
      · exact Scene.settles_withStore (edits_replace _ key _)
      · exact Scene.settles_same rfl

theorem settles_runTake (key : String) (scene : Scene) :
    scene.Settles (runTake key scene) := by
  unfold runTake
  split
  · exact Scene.settles_same rfl
  · exact Scene.settles_same rfl
  · exact Scene.settles_withStore ((Edits.same _).erase key)

theorem settles_runSet (key : String) (value : Bytes) {lifetime : Option Duration}
    (positive : ∀ duration ∈ lifetime, 0 < duration) (condition : Option SetCondition)
    (scene : Scene) : scene.Settles (runSet key value lifetime condition scene) := by
  unfold runSet
  extract_lets store holds
  split
  · split
    · exact Scene.settles_withStore (edits_set _ key value)
    · rename_i duration
      split
      · exact Scene.settles_same rfl
      · rename_i store stored
        exact Scene.settles_withStore (edits_setFor? (positive duration rfl) stored)
  · exact Scene.settles_same rfl

theorem settles_runExpire (key : String) (seconds : Int) (scene : Scene) :
    scene.Settles (runExpire key seconds scene) := by
  unfold runExpire
  dsimp only
  split
  · exact Scene.settles_withStore ((Edits.same _).erase key)
  · rename_i above
    split
    · exact Scene.settles_same rfl
    · rename_i applied store done
      have positive : 0 < seconds.toNat * 1000 := by omega
      exact Scene.settles_withStore (edits_expire? positive done)

theorem settles_runSetFields (key : String) (fields : List (Bytes × Bytes)) (scene : Scene) :
    scene.Settles (runSetFields key fields scene) := by
  refine ⟨Scene.continues_withStore (edits_setFields _ key fields), ?_⟩
  unfold runSetFields outcomeOf
  dsimp only
  split <;> rfl

theorem settles_run {request : Request} (atOnce : request.isDeferred = false)
    (positive : ∀ duration ∈ request.lifetime?, 0 < duration) (scene : Scene) :
    scene.Settles (request.run scene) := by
  cases request with
  | auth password => exact settles_runAuth password scene
  | client subcommand => exact settles_runClient subcommand scene
  | readSetting pattern => exact settles_runReadSetting pattern scene
  | changeSetting parameter value => exact settles_runChangeSetting parameter value scene
  | append key suffix => exact settles_changeOf fun _ _ done => edits_append done
  | add key increment => exact settles_runAdd key increment scene
  | subtract key decrement =>
      unfold run
      dsimp only
      split
      · exact settles_runAdd key (-decrement) scene
      · exact Scene.settles_same rfl
  | addFloat key increment => exact settles_runAddFloat key increment scene
  | take key => exact settles_runTake key scene
  | set key value lifetime condition => exact settles_runSet key value positive condition scene
  | setIfMissing key value =>
      unfold run
      dsimp only
      split
      · exact Scene.settles_same rfl
      · exact Scene.settles_withStore (edits_set _ key value)
  | expire key seconds => exact settles_runExpire key seconds scene
  | removeFields key fields => exact settles_changeOf fun _ _ done => edits_removeFields done
  | setFields key fields => exact settles_runSetFields key fields scene
  | get | length | readField | readFields => exact settles_outcomeOf _ _ scene
  | shutdown | publish => exact ⟨⟨rfl, rfl, rfl, .same _⟩, rfl⟩
  | ping payload => cases payload <;> exact Scene.settles_same rfl
  | select index =>
      unfold run
      dsimp only
      split <;> exact Scene.settles_same rfl
  | echo | quit | info | exist | timeToLive | typeName | unknown =>
      exact Scene.settles_same rfl
  | defer work => cases atOnce

end Request

/-! ### Commands -/

/-- A command of a deferred kind either leaves its work to the worker pool or fails; nothing has
happened yet. -/
theorem Command.execute_of_deferred {command : Command}
    (deferred : command.kind.isDeferred = true) (scene : Scene) :
    (∃ cause, command.execute scene = (.failed cause, scene)) ∨
      ∃ work, command.execute scene = (.deferred work, scene) := by
  unfold Command.execute
  cases read : Request.ofCommand command with
  | error cause => exact Or.inl ⟨cause, rfl⟩
  | ok request =>
      have suits := Request.suits_of_ofCommand read
      cases request with
      | defer work => exact Or.inr ⟨work, rfl⟩
      | _ => exact absurd (suits.deferral.trans deferred) Bool.false_ne_true

/-- A command of any other kind leaves nothing to the worker pool. -/
theorem Command.settles_execute {command : Command}
    (atOnce : command.kind.isDeferred = false) (scene : Scene) :
    scene.Settles (command.execute scene) := by
  unfold Command.execute
  cases read : Request.ofCommand command with
  | error cause => exact Scene.settles_same rfl
  | ok request =>
      have suits := Request.suits_of_ofCommand read
      exact Request.settles_run (suits.deferral.trans atOnce) suits.positive scene

theorem Command.continues_execute (command : Command) (scene : Scene) :
    scene.Continues (command.execute scene).2 := by
  cases kindOf : command.kind.isDeferred with
  | false => exact (Command.settles_execute kindOf scene).continues
  | true =>
      rcases Command.execute_of_deferred kindOf scene with ⟨cause, ran⟩ | ⟨work, ran⟩
      · rw [ran]
        exact scene.continues_same
      · rw [ran]
        exact scene.continues_same

/-! ### Deferred work -/

namespace Work

theorem edits_deleteEach (keys : List String) (store : Store) :
    Edits store (deleteEach store keys).2 := by
  induction keys generalizing store with
  | nil => exact .same store
  | cons key rest inductionHypothesis =>
      exact ((Edits.same store).erase key).trans (inductionHypothesis (store.erase key))

theorem edits_storeEach (pairs : List (String × Bytes)) (store : Store) :
    Edits store (pairs.foldl (fun store pair => store.set pair.1 pair.2) store) := by
  induction pairs generalizing store with
  | nil => exact .same store
  | cons pair rest inductionHypothesis =>
      exact (edits_set store pair.1 pair.2).trans (inductionHypothesis _)

theorem edits_run (work : Work) (store : Store) : Edits store (work.run store).2 := by
  cases work with
  | delete keys => exact edits_deleteEach keys store
  | readEach keys => exact .same store
  | storeEach pairs => exact edits_storeEach pairs store
  | listKeys pattern =>
      unfold run
      dsimp only
      split <;> exact .same store
  | countKeys => exact .same store
  | clear => exact (Edits.same store).clear

end Work

end RespServer
