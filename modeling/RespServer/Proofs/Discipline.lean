import RespServer.Proofs.Atomicity
import RespServer.Proofs.DeadlineIndex
import RespServer.Proofs.KeyArguments

/-!
Contract: a command touches the keys that it names, and treats their deadlines by one discipline.

Owns:
- `Holds`, what each treatment means for a key before and after;
- `Obeys`, a change of the store that spares all keys that are not named, treats those that are,
  and keeps the index of deadlines in step;
- that every request and all deferred work obey.

Does not own: which keys a command names, and which treatment it asks for (`Proofs.KeyArguments`).

A value is written in four ways: with a deadline of its own, in the place of another under the
deadline of that one, over fields of a hash, and by removal. Each has one lemma; requests are cases
of these four.
-/

namespace RespServer

open Store

/-! ## Treatments -/

/-- What a treatment means for a key. -/
def Treatment.Holds (before after : Store) (key : String) : Treatment → Prop
  | .untouched => after.entry? key = before.entry? key
  | .removed => after.entry? key = none
  | .kept => ∀ entry, after.entry? key = some entry → entry.deadline = before.deadline? key
  | .stored lifetime => ∃ data, after.entry? key = some ⟨data, lifetime.map (before.now + ·)⟩
  | .limited lifetime =>
      after.entry? key = (before.entry? key).map fun entry =>
        { entry with deadline := some (before.now + lifetime) }

namespace Store

/-- Keys that are not named, and those that are to be left alone, stay as they are. Where the
command succeeds, the keys that it names are treated as it asks. -/
structure Obeys (before : Store) (names : String → Prop) (treatment : String → Treatment)
    (succeeded : Bool) (after : Store) : Prop where
  spared : ∀ key, (names key → treatment key = .untouched) →
    after.entry? key = before.entry? key
  treated : succeeded = true → ∀ key, names key → (treatment key).Holds before after key
  indexed : before.Indexed → after.Indexed

section Obeying

variable {before after : Store} {names : String → Prop} {treatment : String → Treatment}
  {succeeded : Bool} {key : String}

theorem obeys_failed : before.Obeys names treatment false before :=
  ⟨fun _ _ => rfl, nofun, id⟩

theorem obeys_untouched (untouched : ∀ key, names key → treatment key = .untouched) :
    before.Obeys names treatment succeeded before := by
  refine ⟨fun _ _ => rfl, fun _ key named => ?_, id⟩
  rw [untouched key named]
  rfl

theorem obeys_of_alters {entry : Option Entry} (only : ∀ other, names other ↔ other = key)
    (alters : before.Alters key entry after) (holds : (treatment key).Holds before after key) :
    before.Obeys names treatment succeeded after := by
  refine ⟨fun other spared => ?_, fun _ other named => ?_, alters.indexed⟩
  · by_cases same : other = key
    · subst same
      rw [spared ((only other).mpr rfl)] at holds
      exact holds
    · exact alters.entry_other same
  · rw [(only other).mp named]
    exact holds

theorem holds_put (store : Store) (key : String) (data : Data) (lifetime : Option Duration) :
    (Treatment.stored lifetime).Holds store
      (store.put key data (lifetime.map (store.now + ·))) key :=
  ⟨data, (store.alters_put key data _).entry_self⟩

theorem holds_modify (store : Store) (key : String) (data : Data) :
    Treatment.kept.Holds store (store.modify key data) key := by
  intro entry found
  rw [(store.alters_modify key data).entry_self] at found
  cases found
  rfl

theorem holds_erase (store : Store) (key : String) :
    Treatment.removed.Holds store (store.erase key) key :=
  (store.alters_erase key).entry_self

end Obeying

end Store

/-! ## Requests -/

/-- Whether an outcome is a reply that is no error. -/
def Outcome.succeeds : Outcome → Bool
  | .reply frame => !frame.isError
  | .deferred _ | .failed _ | .aborted _ => false

/-- Whether deferred work yields a reply that is no error. -/
def WorkResult.succeeds : WorkResult → Bool
  | .reply frame => !frame.isError
  | .failed _ | .aborted _ => false

namespace Request

def Names (request : Request) (key : String) : Prop :=
  ∀ keys ∈ request.named?, key ∈ keys

def treatmentOn (request : Request) (store : Store) (key : String) : Treatment :=
  request.treatment (store.contains key)

/-- A result of a request whose store obeys it. -/
def Obeys (request : Request) (before : Scene) (result : Outcome × Scene) : Prop :=
  before.services.store.Obeys request.Names (request.treatmentOn before.services.store)
    result.1.succeeds result.2.services.store

variable {request : Request} {scene : Scene}

theorem obeys_failed (cause : Failure) : request.Obeys scene (.failed cause, scene) :=
  Store.obeys_failed

theorem obeys_aborted (reason : Abort) : request.Obeys scene (.aborted reason, scene) :=
  Store.obeys_failed

/-- A request that names no key leaves the store alone. -/
theorem obeys_keyless (nothing : request.named? = some []) {result : Outcome × Scene}
    (same : result.2.services.store = scene.services.store) : request.Obeys scene result := by
  unfold Obeys
  rw [same]
  exact obeys_untouched fun key named => absurd (named [] nothing) List.not_mem_nil

/-- A request that reads leaves the store alone, whatever it answers. -/
theorem obeys_reading (untouched : ∀ isPresent, request.treatment isPresent = .untouched)
    (outcome : Outcome) : request.Obeys scene (outcome, scene) :=
  obeys_untouched fun _ _ => untouched _

theorem obeys_of_alters {key : String} (named : request.named? = some [key]) {outcome : Outcome}
    {after : Store} {entry : Option Entry} (alters : scene.services.store.Alters key entry after)
    (holds : (request.treatmentOn scene.services.store key).Holds scene.services.store after key) :
    request.Obeys scene (outcome, scene.withStore after) := by
  refine Store.obeys_of_alters (fun other => ?_) alters holds
  rw [Names, named]
  simp

/-! ### Requests that name one key -/

variable {key : String}

theorem obeys_still (named : request.named? = some [key])
    (treatment : request.treatmentOn scene.services.store key = .untouched) (outcome : Outcome) :
    request.Obeys scene (outcome, scene) := by
  refine obeys_of_alters named (alters_same _ key) ?_
  rw [treatment]
  rfl

theorem obeys_put (named : request.named? = some [key]) {lifetime : Option Duration}
    (treatment : request.treatmentOn scene.services.store key = .stored lifetime)
    (outcome : Outcome) (data : Data) :
    request.Obeys scene (outcome, scene.withStore
      (scene.services.store.put key data (lifetime.map (scene.services.store.now + ·)))) := by
  refine obeys_of_alters named (alters_put _ key data _) ?_
  rw [treatment]
  exact holds_put _ key data lifetime

theorem obeys_modify (named : request.named? = some [key])
    (treatment : request.treatmentOn scene.services.store key = .kept)
    (outcome : Outcome) (data : Data) :
    request.Obeys scene (outcome, scene.withStore (scene.services.store.modify key data)) := by
  refine obeys_of_alters named (alters_modify _ key data) ?_
  rw [treatment]
  exact holds_modify _ key data

theorem obeys_erase (named : request.named? = some [key])
    (treatment : request.treatmentOn scene.services.store key = .removed) (outcome : Outcome) :
    request.Obeys scene (outcome, scene.withStore (scene.services.store.erase key)) := by
  refine obeys_of_alters named (alters_erase _ key) ?_
  rw [treatment]
  exact holds_erase _ key

theorem obeys_append (key : String) (suffix : Bytes) (scene : Scene) :
    (Request.append key suffix).Obeys scene
      (changeOf (scene.services.store.append key suffix) scene) := by
  rw [Store.append, text?_eq]
  rcases found : scene.services.store.entry? key with _ | ⟨octets | fields, deadline⟩
  · -- a new key has no deadline, as a missing key has none
    have alters := scene.services.store.alters_put key (.text suffix) none
    refine obeys_of_alters rfl alters fun entry stored => ?_
    rw [Store.set, alters.entry_self] at stored
    cases stored
    rw [deadline?, found]
    rfl
  · exact obeys_modify rfl rfl _ _
  · exact obeys_failed _

/-- Whatever adds to a number keeps the deadline. -/
theorem obeys_runAdd (named : request.named? = some [key])
    (kept : request.treatmentOn scene.services.store key = .kept) (increment : Int) :
    request.Obeys scene (runAdd key increment scene) := by
  unfold runAdd Store.add
  split
  · exact obeys_failed _
  · rename_i sum after added
    split at added
    · cases added
    · split at added
      · cases added
      · dsimp only at added
        split at added
        · cases added
          exact obeys_modify named kept _ _
        · cases added

theorem obeys_runAddFloat (key : String) (increment : Binary64) (scene : Scene) :
    (Request.addFloat key increment).Obeys scene (runAddFloat key increment scene) := by
  unfold runAddFloat
  split
  · exact obeys_failed _
  · split
    · exact obeys_failed _
    · dsimp only
      split
      · exact obeys_modify rfl rfl _ _
      · exact obeys_failed _

theorem obeys_runTake (key : String) (scene : Scene) :
    (Request.take key).Obeys scene (runTake key scene) := by
  unfold runTake
  rw [text?_eq]
  rcases found : scene.services.store.entry? key with _ | ⟨octets | fields, deadline⟩
  · exact obeys_of_alters rfl (alters_same _ key) found
  · exact obeys_erase rfl rfl _
  · exact obeys_failed _

theorem after?_eq_some {start deadline : Instant} {duration : Duration}
    (shown : start.after? duration = some deadline) : deadline = start + duration := by
  unfold Instant.after? at shown
  split at shown <;> cases shown
  rfl

theorem obeys_runSet (key : String) (value : Bytes) (lifetime : Option Duration)
    (condition : Option SetCondition) (scene : Scene) :
    (Request.set key value lifetime condition).Obeys scene
      (runSet key value lifetime condition scene) := by
  have treatment : (Request.set key value lifetime condition).treatmentOn scene.services.store key =
      if SetCondition.admits condition (scene.services.store.contains key) then .stored lifetime
      else .untouched := rfl
  change Obeys _ _ (if SetCondition.admits condition (scene.services.store.contains key) then _
    else (Outcome.reply .null, scene))
  split
  · rename_i admitted
    rw [if_pos admitted] at treatment
    cases lifetime with
    | none => exact obeys_put rfl treatment _ _
    | some lifetime =>
        dsimp only
        rw [setFor?]
        cases shown : scene.services.store.now.after? lifetime with
        | none => exact obeys_aborted _
        | some deadline =>
            cases after?_eq_some shown
            exact obeys_put rfl treatment _ _
  · rename_i denied
    rw [if_neg denied] at treatment
    exact obeys_still rfl treatment _

theorem obeys_setIfMissing (key : String) (value : Bytes) (scene : Scene) :
    (Request.setIfMissing key value).Obeys scene
      ((Request.setIfMissing key value).run scene) := by
  have treatment : (Request.setIfMissing key value).treatmentOn scene.services.store key =
      if scene.services.store.contains key then .untouched else .stored none := rfl
  unfold run
  dsimp only
  split
  · rename_i isPresent
    rw [if_pos isPresent] at treatment
    exact obeys_still rfl treatment _
  · rename_i isMissing
    rw [if_neg isMissing] at treatment
    exact obeys_put rfl treatment _ _

theorem obeys_runExpire (key : String) (seconds : Int) (scene : Scene) :
    (Request.expire key seconds).Obeys scene (runExpire key seconds scene) := by
  have treatment : (Request.expire key seconds).treatmentOn scene.services.store key =
      if 0 < seconds then .limited (seconds.toNat * 1000) else .removed := rfl
  unfold runExpire
  dsimp only
  split
  · rename_i atMost
    rw [if_neg (Int.not_lt.mpr atMost)] at treatment
    exact obeys_erase rfl treatment _
  · rename_i above
    rw [if_pos (Int.not_le.mp above)] at treatment
    rw [expire?]
    cases shown : scene.services.store.now.after? (seconds.toNat * 1000) with
    | none => exact obeys_aborted _
    | some deadline =>
        cases after?_eq_some shown
        cases found : scene.services.store.entry? key with
        | none =>
            refine obeys_of_alters rfl (alters_same _ key) ?_
            rw [treatment, Treatment.Holds, found]
            rfl
        | some entry =>
            dsimp only [Option.map_some]
            rw [put_of_found found]
            refine obeys_of_alters rfl (alters_put _ key _ _) ?_
            rw [treatment, Treatment.Holds, found, (alters_put _ key _ _).entry_self]
            rfl

theorem obeys_removeFields (key : String) (fields : List Bytes) (scene : Scene) :
    (Request.removeFields key fields).Obeys scene
      (changeOf (scene.services.store.removeFields key fields) scene) := by
  unfold Store.removeFields
  split
  · exact obeys_failed _
  · refine obeys_of_alters rfl (alters_same _ key) fun entry found => ?_
    rw [deadline?, found]
    rfl
  · dsimp only
    split
    · refine obeys_of_alters rfl (alters_erase _ key) fun entry found => ?_
      rw [(alters_erase _ key).entry_self] at found
      cases found
    · exact obeys_modify rfl rfl _ _

end Request

/-- Setting fields one after the other keeps the deadline, up to the one that cannot be set. -/
theorem Store.keeps_setFields (store : Store) (key : String) (pairs : List (Bytes × Bytes)) :
    ∃ entry, store.Alters key entry (store.setFields key pairs).2 ∧
      entry.bind Entry.deadline = store.deadline? key := by
  induction pairs generalizing store with
  | nil => exact ⟨ store.entry? key, alters_same store key, rfl⟩
  | cons pair rest inductionHypothesis =>
      rw [setFields, setField]
      cases store.hash? key with
      | error failure => exact ⟨ store.entry? key, alters_same store key, rfl⟩
      | ok found =>
          dsimp only
          generalize Data.hash ((found.getD ∅).insert pair.1 pair.2) = data
          obtain ⟨entry, later, kept⟩ := inductionHypothesis (store.modify key data)
          have first := store.alters_modify key data
          refine ⟨entry, first.trans later, ?_⟩
          rw [kept, deadline?, first.entry_self]
          rfl

namespace Request

theorem obeys_runSetFields (key : String) (fields : List (Bytes × Bytes)) (scene : Scene) :
    (Request.setFields key fields).Obeys scene (runSetFields key fields scene) := by
  obtain ⟨entry, alters, kept⟩ := keeps_setFields scene.services.store key fields
  refine obeys_of_alters rfl alters fun own found => ?_
  rw [alters.entry_self] at found
  subst found
  exact kept

theorem services_runAuth (password : Bytes) (scene : Scene) :
    (runAuth password scene).2.services = scene.services := by
  unfold runAuth
  split
  · rfl
  · split <;> rfl

theorem store_runChangeSetting (parameter value : String) (scene : Scene) :
    (runChangeSetting parameter value scene).2.services.store = scene.services.store := by
  unfold runChangeSetting
  split
  · rfl
  · split
    · rfl
    · split <;> rfl

/-- Every request obeys. One that is deferred has not begun. -/
theorem obeys_run (request : Request) (scene : Scene) : request.Obeys scene (request.run scene) := by
  cases request with
  | auth password =>
      exact obeys_keyless rfl (congrArg Services.store (services_runAuth password scene))
  | changeSetting parameter value =>
      exact obeys_keyless rfl (store_runChangeSetting parameter value scene)
  | client | echo | quit | readSetting | info | shutdown | publish | unknown =>
      exact obeys_keyless rfl rfl
  | ping payload => cases payload <;> exact obeys_keyless rfl rfl
  | select index =>
      unfold run
      dsimp only
      split <;> exact obeys_keyless rfl rfl
  | get | length | exist | timeToLive | typeName | readField | readFields =>
      exact obeys_reading (fun _ => rfl) _
  | append key suffix => exact obeys_append key suffix scene
  | add key increment => exact obeys_runAdd rfl rfl increment
  | subtract key decrement =>
      unfold run
      dsimp only
      split
      · exact obeys_runAdd rfl rfl (-decrement)
      · exact obeys_failed _
  | addFloat key increment => exact obeys_runAddFloat key increment scene
  | take key => exact obeys_runTake key scene
  | set key value lifetime condition => exact obeys_runSet key value lifetime condition scene
  | setIfMissing key value => exact obeys_setIfMissing key value scene
  | expire key seconds => exact obeys_runExpire key seconds scene
  | removeFields key fields => exact obeys_removeFields key fields scene
  | setFields key fields => exact obeys_runSetFields key fields scene
  | defer work => exact Store.obeys_failed

end Request

/-! ## Deferred work -/

namespace Work

theorem lookup_deleteEach (keys : List String) (store : Store) (key : String) :
    Store.entry? (deleteEach store keys).2 key = if key ∈ keys then none else store.entry? key := by
  induction keys generalizing store with
  | nil => rfl
  | cons first rest inductionHypothesis =>
      have alters := store.alters_erase first
      rw [deleteEach, inductionHypothesis]
      by_cases same : key = first
      · subst same
        rw [alters.entry_self, if_pos List.mem_cons_self]
        exact ite_self none
      · rw [alters.entry_other same]
        simp only [List.mem_cons, same, false_or]

theorem lookup_storeEach_of_absent {pairs : List (String × Bytes)} {key : String}
    (absent : key ∉ pairs.map Prod.fst) (store : Store) :
    Store.entry? (pairs.foldl (fun store pair => store.set pair.1 pair.2) store) key =
      store.entry? key := by
  induction pairs generalizing store with
  | nil => rfl
  | cons pair rest inductionHypothesis =>
      obtain ⟨different, later⟩ := List.ne_and_not_mem_of_not_mem_cons absent
      rw [List.foldl_cons, inductionHypothesis later]
      exact (store.alters_put pair.1 (.text pair.2) none).entry_other different

/-- Each key that is stored has a value without a deadline in the end, the last one of its own. -/
theorem lookup_storeEach_of_mem {pairs : List (String × Bytes)} {key : String}
    (listed : key ∈ pairs.map Prod.fst) (store : Store) :
    ∃ data, Store.entry? (pairs.foldl (fun store pair => store.set pair.1 pair.2) store) key =
      some ⟨data, none⟩ := by
  induction pairs generalizing store with
  | nil => cases listed
  | cons pair rest inductionHypothesis =>
      rw [List.foldl_cons]
      by_cases later : key ∈ rest.map Prod.fst
      · exact inductionHypothesis later _
      · rw [lookup_storeEach_of_absent later]
        have same : key = pair.1 := (List.mem_cons.mp listed).resolve_right later
        subst same
        exact ⟨.text pair.2, (store.alters_put pair.1 (.text pair.2) none).entry_self⟩

theorem indexed_deleteEach (keys : List String) {store : Store} (indexed : store.Indexed) :
    (deleteEach store keys).2.Indexed := by
  induction keys generalizing store with
  | nil => exact indexed
  | cons key rest inductionHypothesis =>
      exact inductionHypothesis ((store.alters_erase key).indexed indexed)

theorem indexed_storeEach (pairs : List (String × Bytes)) {store : Store}
    (indexed : store.Indexed) :
    (pairs.foldl (fun store pair => store.set pair.1 pair.2) store).Indexed := by
  induction pairs generalizing store with
  | nil => exact indexed
  | cons pair rest inductionHypothesis =>
      exact inductionHypothesis ((store.alters_put pair.1 (.text pair.2) none).indexed indexed)

/-- A result of work whose store obeys it. -/
def Obeys (work : Work) (before : Store) (result : WorkResult × Store) : Prop :=
  before.Obeys (Request.defer work).Names ((Request.defer work).treatmentOn before)
    result.1.succeeds result.2

theorem obeys_reading {work : Work} (untouched : work.treatment = .untouched) (store : Store)
    (result : WorkResult) : work.Obeys store (result, store) :=
  obeys_untouched fun _ _ => untouched

/-- Work treats all keys that it names alike. -/
theorem obeys_of_entries {work : Work} {before after : Store} {result : WorkResult}
    (spared : ∀ key, ¬(Request.defer work).Names key → after.entry? key = before.entry? key)
    (treated : ∀ key, (Request.defer work).Names key → work.treatment.Holds before after key)
    (indexed : before.Indexed → after.Indexed) : work.Obeys before (result, after) := by
  refine ⟨fun key still => ?_, fun _ => treated, indexed⟩
  by_cases named : (Request.defer work).Names key
  · have holds := treated key named
    rw [show work.treatment = .untouched from still named] at holds
    exact holds
  · exact spared key named

theorem obeys_delete (keys : List String) (store : Store) :
    (Work.delete keys).Obeys store ((Work.delete keys).run store) := by
  refine obeys_of_entries (fun key unnamed => ?_) (fun key named => ?_) (indexed_deleteEach keys)
  · have absent : key ∉ keys := fun listed => unnamed fun _ same => by cases same; exact listed
    rw [lookup_deleteEach, if_neg absent]
  · change Store.entry? (deleteEach store keys).2 key = none
    rw [lookup_deleteEach, if_pos (named keys rfl)]

theorem obeys_storeEach (pairs : List (String × Bytes)) (store : Store) :
    (Work.storeEach pairs).Obeys store ((Work.storeEach pairs).run store) := by
  refine obeys_of_entries (fun key unnamed => ?_) (fun key named => ?_) (indexed_storeEach pairs)
  · have absent : key ∉ pairs.map Prod.fst :=
      fun listed => unnamed fun _ same => by cases same; exact listed
    exact lookup_storeEach_of_absent absent store
  · exact lookup_storeEach_of_mem (named _ rfl) store

theorem obeys_clear (store : Store) : Work.clear.Obeys store (Work.clear.run store) := by
  refine obeys_of_entries (fun key unnamed => ?_) (fun key named => ?_) fun indexed => ?_
  · exact absurd (fun _ => nofun) unnamed
  · exact Std.ExtTreeMap.getElem?_empty
  · exact indexed.perform .clear

/-- All deferred work obeys. -/
theorem obeys_run (work : Work) (store : Store) : work.Obeys store (work.run store) := by
  cases work with
  | delete keys => exact obeys_delete keys store
  | storeEach pairs => exact obeys_storeEach pairs store
  | clear => exact obeys_clear store
  | readEach | countKeys => exact obeys_reading rfl store _
  | listKeys pattern =>
      unfold run
      dsimp only
      split <;> exact obeys_reading rfl store _

end Work

/-! ## Commands -/

namespace Command

/-- A key is named by a command, unless it names all, if it is among the arguments that are keys. -/
def Names (command : Command) (key : String) : Prop :=
  ∀ keys ∈ command.kind.keyArguments? command.arguments, Bytes.ofText key ∈ keys

def treatmentOn (command : Command) (store : Store) (key : String) : Treatment :=
  command.kind.treatment command.arguments (store.contains key)

theorem names_iff {command : Command} {request : Request}
    (follows : request.Follows command.kind command.arguments) (key : String) :
    command.Names key ↔ request.Names key := by
  unfold Names Request.Names
  rw [follows.named]
  cases request.named? with
  | none => exact ⟨fun _ => nofun, fun _ => nofun⟩
  | some keys =>
      simp only [Option.map_some, Option.mem_some_iff, forall_eq', List.mem_map]
      constructor
      · rintro ⟨other, listed, same⟩
        rw [← Bytes.ofText_injective same]
        exact listed
      · exact fun listed => ⟨key, listed, rfl⟩

theorem treatmentOn_eq {command : Command} {request : Request}
    (follows : request.Follows command.kind command.arguments) :
    command.treatmentOn = request.treatmentOn := by
  funext store key
  exact follows.treatment _

/-- Only a request for deferred work leaves work to the worker pool. -/
theorem request_of_deferred {command : Command} {request : Request}
    (read : Request.ofCommand command = .ok request) {scene : Scene} {work : Work}
    (left : (request.run scene).1 = .deferred work) : request = .defer work := by
  have suits := Request.suits_of_ofCommand read
  cases deferral : request.isDeferred with
  | false =>
      have settles := Request.settles_run deferral suits.positive scene
      have atOnce := settles.isAtOnce
      rw [left] at atOnce
      cases atOnce
  | true =>
      cases request with
      | defer other =>
          cases left
          rfl
      | _ => cases deferral

/-- A command, carried out at its turn or by the worker pool later on whatever the store is then,
leaves alone every key that is not among its key arguments, and every key that it only reads or
whose condition fails. If it succeeds, the keys that it names are treated as its kind and its
arguments say. The index of deadlines stays in step. -/
theorem touches_named_keys_only (command : Command) (scene : Scene) :
    scene.services.store.Obeys command.Names (command.treatmentOn scene.services.store)
        (command.execute scene).1.succeeds (command.execute scene).2.services.store
      ∧ ∀ work, (command.execute scene).1 = .deferred work → ∀ store : Store,
          store.Obeys command.Names (command.treatmentOn store)
            (work.run store).1.succeeds (work.run store).2 := by
  unfold execute
  cases read : Request.ofCommand command with
  | error cause => exact ⟨Store.obeys_failed, nofun⟩
  | ok request =>
      have follows := Request.follows_of_ofCommand read
      have names : command.Names = request.Names := funext fun key => propext (names_iff follows key)
      rw [names, treatmentOn_eq follows]
      refine ⟨request.obeys_run scene, fun work left store => ?_⟩
      rw [request_of_deferred read left]
      exact work.obeys_run store

/-- A key that is stored twice loses its deadline; another keeps its own. -/
theorem key_stored_twice_loses_deadline :
    let store := (Store.empty.put "key" (.text [48]) (some 5)).put "other" (.text [48]) (some 7)
    let scene : Scene := ⟨{ Services.start none false with store := store }, true⟩
    let command := Command.new "MSET" (["key", "1", "key", "2"].map Bytes.ofText)
    let work := Work.storeEach [("key", [49]), ("key", [50])]
    (command.execute scene).1 = .deferred work ∧
      (∃ data, Store.entry? (work.run store).2 "key" = some ⟨data, none⟩) ∧
      Store.entry? (work.run store).2 "other" = store.entry? "other" := by
  intro store scene command work
  have left : (command.execute scene).1 = .deferred work := by decide +kernel
  have obeys := (touches_named_keys_only command scene).2 work left store
  refine ⟨left, obeys.treated rfl "key" ?_, obeys.spared "other" fun named => ?_⟩
  · intro keys same
    cases same
    decide
  · exact absurd (named _ rfl) (by decide)

end Command

end RespServer
