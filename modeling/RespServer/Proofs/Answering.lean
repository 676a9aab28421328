import RespServer.Proofs.Refusals

/-!
Contract: with which failures and replies requests are answered.

Owns:
- `Outcome.Meets`, an outcome whose failure is accepted, or whose reply is allowed;
- `AnswersAre`, predicates that cover the failures and the replies of requests, and that requests
  which repeat no text have no others.

Does not own: replies that repeat a text (`Proofs.Repetition`), and the failures of the readers of
arguments (`Proofs.Refusals`).

Requests are gone through here once. Whoever states something of all failures or of all replies
says of which predicates it holds.
-/

namespace RespServer

open Text

/-- The failure of an outcome is accepted, or its reply is allowed. -/
inductive Outcome.Meets (accepted : Failure → Prop) (allowed : Frame → Prop) : Outcome → Prop where
  | reply {frame : Frame} (right : allowed frame) : Meets accepted allowed (.reply frame)
  | failed {cause : Failure} (right : accepted cause) : Meets accepted allowed (.failed cause)
  | deferred (work : Work) : Meets accepted allowed (.deferred work)
  | aborted (reason : Abort) : Meets accepted allowed (.aborted reason)

namespace Request

/-- Whether the reply to the request may repeat a text of it in a line. -/
def repeats : Request → Bool
  | .client _ | .changeSetting _ _ | .unknown _ => true
  | _ => false

/-- All failures of requests that repeat no text are accepted, and all their replies allowed. -/
structure AnswersAre (accepted : Failure → Prop) (allowed : Frame → Prop) : Prop where
  store : Store.FailuresAre accepted
  notFloat : accepted .notFloat
  notFinite : accepted (.arithmetic "increment would produce NaN or Infinity")
  badIndex : accepted (.invalidArgument "DB index is out of range")
  integer : ∀ value, allowed (.integer value)
  bulk : ∀ data, allowed (.bulk data)
  null : allowed .null
  simple : ∀ text, IsPlain text → allowed (.simple text)
  error : ∀ text, IsPlain text → allowed (.error text)
  bulks : ∀ elements, (∀ element ∈ elements, ∃ data, element = .bulk data) →
    allowed (.array elements)

section Answers

variable {accepted : Failure → Prop} {allowed : Frame → Prop}

theorem meets_outcomeOf {reading : Except Failure α} {reply : α → Frame}
    (refused : ∀ {failure}, reading = .error failure → accepted failure)
    (replied : ∀ value, allowed (reply value)) :
    (outcomeOf reading reply).Meets accepted allowed := by
  cases reading with
  | error cause => exact .failed (refused rfl)
  | ok value => exact .reply (replied value)

variable (answers : AnswersAre accepted allowed)

include answers

theorem meets_changeOf {change : Except Failure (Nat × Store)} (scene : Scene)
    (refused : ∀ {failure}, change = .error failure → accepted failure) :
    (changeOf change scene).1.Meets accepted allowed := by
  cases change with
  | error cause => exact .failed (refused rfl)
  | ok result => exact .reply (answers.integer _)

theorem allowed_octetsOrNull (octets : Option Bytes) : allowed (octetsOrNull octets) := by
  cases octets with
  | none => exact answers.null
  | some octets => exact answers.bulk octets

theorem allowed_ok : allowed .ok :=
  answers.simple "OK" (by decide)

theorem meets_runAuth (password : Bytes) (scene : Scene) :
    (runAuth password scene).1.Meets accepted allowed := by
  unfold runAuth
  split
  · exact .reply (answers.error _ (by decide))
  · split
    · exact .reply (allowed_ok answers)
    · exact .reply (answers.error _ (by decide))

theorem meets_runReadSetting (pattern : String) (services : Services) :
    (runReadSetting pattern services).Meets accepted allowed := by
  unfold runReadSetting
  split
  · exact .aborted _
  · exact .reply (answers.bulks [] nofun)
  · refine .reply (answers.bulks _ fun element member => ?_)
    simp only [List.mem_cons, List.not_mem_nil, or_false] at member
    rcases member with rfl | rfl
    all_goals exact ⟨_, rfl⟩

theorem meets_runAdd (key : String) (increment : Int) (scene : Scene) :
    (runAdd key increment scene).1.Meets accepted allowed := by
  unfold runAdd
  split
  · exact .failed (Store.accepted_of_add answers.store ‹_›)
  · exact .reply (answers.integer _)

theorem meets_runAddFloat (key : String) (increment : Binary64) (scene : Scene) :
    (runAddFloat key increment scene).1.Meets accepted allowed := by
  unfold runAddFloat
  split
  · exact .failed (Store.accepted_of_text? answers.store ‹_›)
  · split
    · exact .failed answers.notFloat
    · dsimp only
      split
      · exact .reply (answers.bulk _)
      · exact .failed answers.notFinite

theorem meets_runTake (key : String) (scene : Scene) :
    (runTake key scene).1.Meets accepted allowed := by
  unfold runTake
  split
  · exact .failed (Store.accepted_of_text? answers.store ‹_›)
  · exact .reply answers.null
  · exact .reply (answers.bulk _)

theorem meets_runSet (key : String) (value : Bytes) (lifetime : Option Duration)
    (condition : Option SetCondition) (scene : Scene) :
    (runSet key value lifetime condition scene).1.Meets accepted allowed := by
  unfold runSet
  extract_lets store holds
  split
  · split
    · exact .reply (allowed_ok answers)
    · split
      · exact .aborted _
      · exact .reply (allowed_ok answers)
  · exact .reply answers.null

theorem meets_runExpire (key : String) (seconds : Int) (scene : Scene) :
    (runExpire key seconds scene).1.Meets accepted allowed := by
  unfold runExpire
  dsimp only
  split
  · exact .reply (answers.integer _)
  · split
    · exact .aborted _
    · exact .reply (answers.integer _)

theorem allowed_timeToLiveOf (key : String) (store : Store) : allowed (timeToLiveOf key store) := by
  unfold timeToLiveOf
  split <;> exact answers.integer _

theorem allowed_typeName (found : Option Data) :
    allowed (.simple (found.elim "none" Data.typeName)) := by
  cases found with
  | none => exact answers.simple "none" (by decide)
  | some data =>
      cases data with
      | text => exact answers.simple "string" (by decide)
      | hash => exact answers.simple "hash" (by decide)

theorem allowed_fields (pairs : List (Bytes × Bytes)) :
    allowed (.array (pairs.flatMap fun pair => [.bulk pair.1, .bulk pair.2])) := by
  refine answers.bulks _ fun element member => ?_
  obtain ⟨pair, -, inPair⟩ := List.mem_flatMap.mp member
  simp only [List.mem_cons, List.not_mem_nil, or_false] at inPair
  rcases inPair with rfl | rfl
  all_goals exact ⟨_, rfl⟩

/-- A request that repeats nothing is answered with an accepted failure or an allowed reply. -/
theorem meets_run {request : Request} (silent : request.repeats = false) (scene : Scene) :
    (request.run scene).1.Meets accepted allowed := by
  have right := answers.store
  cases request with
  | client | changeSetting | unknown => cases silent
  | auth password => exact meets_runAuth answers password scene
  | readSetting pattern =>
      unfold run
      dsimp only
      exact meets_runReadSetting answers pattern scene.services
  | append key suffix => exact meets_changeOf answers scene (Store.accepted_of_append right)
  | add key increment => exact meets_runAdd answers key increment scene
  | subtract key decrement =>
      unfold run
      dsimp only
      split
      · exact meets_runAdd answers key (-decrement) scene
      · exact .failed right.overflow
  | addFloat key increment => exact meets_runAddFloat answers key increment scene
  | get key =>
      exact meets_outcomeOf (Store.accepted_of_text? right) (allowed_octetsOrNull answers)
  | take key => exact meets_runTake answers key scene
  | set key value lifetime condition =>
      exact meets_runSet answers key value lifetime condition scene
  | length key =>
      exact meets_outcomeOf (Store.accepted_of_text? right) fun _ => answers.integer _
  | expire key seconds => exact meets_runExpire answers key seconds scene
  | timeToLive key => exact .reply (allowed_timeToLiveOf answers key scene.services.store)
  | typeName key => exact .reply (allowed_typeName answers (scene.services.store.data? key))
  | removeFields key fields =>
      exact meets_changeOf answers scene (Store.accepted_of_removeFields right)
  | readField key field =>
      exact meets_outcomeOf (Store.accepted_of_field? right) (allowed_octetsOrNull answers)
  | readFields key =>
      exact meets_outcomeOf (Store.accepted_of_fields right) (allowed_fields answers)
  | setFields key fields =>
      exact meets_outcomeOf (Store.accepted_of_setFields right) fun _ => answers.integer _
  | ping payload =>
      cases payload with
      | none => exact .reply (answers.simple "PONG" (by decide))
      | some payload => exact .reply (answers.bulk payload)
  | select index =>
      unfold run
      dsimp only
      split
      · exact .reply (allowed_ok answers)
      · exact .failed answers.badIndex
  | setIfMissing key value =>
      unfold run
      dsimp only
      split <;> exact .reply (answers.integer _)
  | echo | info => exact .reply (answers.bulk _)
  | exist | publish => exact .reply (answers.integer _)
  | quit | shutdown => exact .reply (allowed_ok answers)
  | defer work => exact .deferred work

end Answers

end Request

end RespServer
