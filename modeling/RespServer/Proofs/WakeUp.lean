import RespServer.Proofs.Expiration
import RespServer.Store.ExpiryTask

/-!
Contract: the expiry task never waits past a deadline without being told.

Owns:
- `Announces`, what an operation tells the task of the deadlines that it sets;
- `Watched`, what holds whenever the task waits or is about to wait;
- that a task that was told sweeps again after two of its steps at most.

Does not own: what a sweep removes (`Proofs.Expiration`).

An operation tells the task when the key it has given a deadline comes first in the index. It does
not compare deadlines. If another key comes first, that key was in the index before, so what the
task knows still comes before all deadlines.
-/

namespace RespServer

namespace Store

/-! ## What operations tell the task -/

/-- From the first store to the second no permit is lost. Without a permit, each deadline comes
after one that there was before. -/
structure Announces (before after : Store) : Prop where
  kept : before.wakeUp = true → after.wakeUp = true
  told : after.wakeUp = true ∨
    ∀ due ∈ after.deadlines, ∃ earlier ∈ before.deadlines, earlier.deadline ≤ due.deadline

theorem Announces.trans {first second third : Store} (earlier : Announces first second)
    (later : Announces second third) : Announces first third := by
  refine ⟨fun permit => later.kept (earlier.kept permit), ?_⟩
  rcases later.told with permit | behind
  · exact .inl permit
  · rcases earlier.told with permit | further
    · exact .inl (later.kept permit)
    · refine .inr fun due listed => ?_
      obtain ⟨middle, present, middleFirst⟩ := behind due listed
      obtain ⟨old, oldPresent, oldFirst⟩ := further middle present
      exact ⟨old, oldPresent, Nat.le_trans oldFirst middleFirst⟩

/-- Where deadlines are only forgotten there is nothing to tell. -/
theorem announces_of_subset {before after : Store} (permit : after.wakeUp = before.wakeUp)
    (forgotten : ∀ due ∈ after.deadlines, due ∈ before.deadlines) : Announces before after :=
  ⟨fun kept => permit.trans kept, .inr fun due listed => ⟨due, forgotten due listed, Nat.le_refl _⟩⟩

/-- The task does not look at entries. -/
theorem announces_entries (store : Store) (entries : Std.ExtTreeMap String Entry) :
    Announces store { store with entries := entries } :=
  announces_of_subset rfl fun _ listed => listed

theorem announces_same (store : Store) : Announces store store :=
  store.announces_entries store.entries

theorem announces_untrack (store : Store) (key : String) (deadline : Option Instant) :
    Announces store (store.untrack key deadline) :=
  announces_of_subset (by cases deadline <;> rfl) fun _ listed => (mem_untrack.mp listed).1

/-- An index that is not empty has a first deadline, before which there is none. -/
theorem exists_first {deadlines : Std.ExtTreeSet Due} {due : Due} (listed : due ∈ deadlines) :
    ∃ first ∈ deadlines, deadlines.min? = some first ∧
      ∀ other : Due, other ∈ deadlines → first.deadline ≤ other.deadline := by
  cases found : deadlines.min? with
  | none =>
      rw [Std.ExtTreeSet.min?_eq_none_iff.mp found] at listed
      exact absurd listed Std.ExtTreeSet.not_mem_empty
  | some first =>
      obtain ⟨member, least⟩ := Std.ExtTreeSet.min?_eq_some_iff_mem_and_forall.mp found
      exact ⟨first, member, rfl, fun other present => deadline_le_of_isLE (least other present)⟩

/-- Either the key comes first, and the task is told, or what comes first was there before. -/
theorem announces_track (store : Store) (key : String) (deadline : Option Instant) :
    Announces store (store.track key deadline) := by
  cases deadline with
  | none => exact store.announces_same
  | some instant =>
      refine ⟨fun permit => by simp [track, permit], ?_⟩
      have inserted : (⟨instant, key⟩ : Due) ∈ store.deadlines.insert ⟨instant, key⟩ :=
        Std.ExtTreeSet.mem_insert_self
      obtain ⟨first, member, found, least⟩ := exists_first inserted
      by_cases own : first.key = key
      · exact .inl (by simp [track, found, own])
      · refine .inr fun due listed => ⟨first, ?_, least due listed⟩
        rcases Std.ExtTreeSet.mem_insert.mp member with same | old
        · exact absurd (Due.compare_eq_iff.mp same).1 own
        · exact old

theorem announces_put (store : Store) (key : String) (data : Data) (deadline : Option Instant) :
    Announces store (store.put key data deadline) :=
  ((store.announces_entries _).trans (announces_untrack _ key _)).trans
    (announces_track _ key deadline)

theorem announces_erase (store : Store) (key : String) :
    Announces store (store.erase key) := by
  rw [erase]
  split
  · exact store.announces_same
  · exact (store.announces_entries _).trans (announces_untrack _ key _)

theorem Edits.announces {before after : Store} (edits : Edits before after) :
    Announces before after := by
  induction edits with
  | same => exact announces_same _
  | put _ key data deadline _ inductionHypothesis =>
      exact inductionHypothesis.trans (announces_put _ key data deadline)
  | modify _ _ _ inductionHypothesis => exact inductionHypothesis.trans (announces_entries _ _)
  | erase _ key inductionHypothesis =>
      exact inductionHypothesis.trans (announces_erase _ key)
  | clear _ inductionHypothesis =>
      exact inductionHypothesis.trans
        (announces_of_subset rfl fun _ listed => absurd listed Std.ExtTreeSet.not_mem_empty)

/-- A change that can fail announces if it edits where it does not fail. -/
theorem announces_change {store : Store} {change : Except Failure (α × Store)}
    {answer : α → StoreAnswer}
    (edits : ∀ value after, change = .ok (value, after) → Edits store after) :
    Announces store (store.answerOfChange change answer).2 := by
  match change with
  | .error _ => exact announces_same store
  | .ok (value, after) => exact (edits value after rfl).announces

theorem performOnKey_setFor (store : Store) (key : String) (octets : Bytes)
    (lifetime : Duration) :
    (store.performOnKey key (.setFor octets lifetime)).2 =
      match store.now.after? lifetime with
      | none => store
      | some deadline => store.put key (.text octets) (some deadline) := by
  rw [performOnKey, setFor?]
  cases store.now.after? lifetime <;> rfl

/-- A lifetime may be zero here, which edits do not allow. -/
theorem announces_setFor (store : Store) (key : String) (octets : Bytes) (lifetime : Duration) :
    Announces store (store.performOnKey key (.setFor octets lifetime)).2 := by
  rw [performOnKey_setFor]
  cases store.now.after? lifetime with
  | none => exact announces_same store
  | some deadline => exact announces_put store key (.text octets) (some deadline)

theorem announces_expire (store : Store) (key : String) (lifetime : Duration) :
    Announces store (store.performOnKey key (.expire lifetime)).2 := by
  rw [performOnKey, expire?]
  cases store.now.after? lifetime with
  | none => exact announces_same store
  | some deadline =>
      cases found : store.entry? key with
      | none => exact announces_same store
      | some entry =>
          dsimp only [Option.map_some]
          rw [put_of_found found]
          exact announces_put store key entry.data (some deadline)

theorem announces_perform (store : Store) (operation : Operation) :
    Announces store (store.perform operation).2 := by
  cases operation with
  | onKey key operation =>
      cases operation with
      | set octets => exact (edits_set store key octets).announces
      | setFor octets lifetime => exact announces_setFor store key octets lifetime
      | replace octets => exact (edits_replace store key octets).announces
      | remove => exact announces_erase store key
      | expire lifetime => exact announces_expire store key lifetime
      | append suffix => exact announces_change fun _ _ done => edits_append done
      | add type increment => exact announces_change fun _ _ done => edits_add done
      | setField field value => exact announces_change fun _ _ done => edits_setField done
      | removeFields names => exact announces_change fun _ _ done => edits_removeFields done
      | readText | readData | isPresent | readRemaining | readField _ | readFields =>
          exact announces_same store
  | clear => exact (Edits.same store).clear.announces
  | size | keys => exact announces_same store

/-! ## Sweeps -/

theorem wakeUp_sweep (store : Store) : store.sweep.wakeUp = store.wakeUp := by
  rw [sweep]
  generalize store.expired = dues
  induction dues generalizing store with
  | nil => rfl
  | cons due rest inductionHypothesis => exact inductionHypothesis _

theorem announces_sweep (store : Store) : Announces store store.sweep :=
  announces_of_subset store.wakeUp_sweep fun _ listed => (mem_sweep_iff.mp listed).1

/-! ## What a task that waits knows -/

/-- The instant comes before all deadlines; there is none only if there are no deadlines. -/
def Covers (store : Store) (until? : Option Instant) : Prop :=
  ∀ due ∈ store.deadlines, ∃ instant ∈ until?, instant ≤ due.deadline

theorem covers_nextDeadline? (store : Store) : store.Covers store.nextDeadline? := by
  intro due listed
  obtain ⟨first, -, found, least⟩ := exists_first listed
  rw [nextDeadline?, found]
  exact ⟨first.deadline, rfl, least due listed⟩

theorem Announces.covers {before after : Store} {until? : Option Instant}
    (announces : Announces before after) (covers : before.Covers until?) :
    after.wakeUp = true ∨ after.Covers until? := by
  refine announces.told.imp_right fun behind due listed => ?_
  obtain ⟨earlier, present, earlierFirst⟩ := behind due listed
  obtain ⟨instant, awaited, instantFirst⟩ := covers earlier present
  exact ⟨instant, awaited, Nat.le_trans instantFirst earlierFirst⟩

/-- The index is that of the keys, so what comes before it comes before their deadlines. -/
theorem Indexed.covers_iff {store : Store} (indexed : store.Indexed) {until? : Option Instant} :
    store.Covers until? ↔
      ∀ key deadline, store.deadline? key = some deadline →
        ∃ instant ∈ until?, instant ≤ deadline := by
  constructor
  · exact fun covers key deadline own => covers ⟨deadline, key⟩ ((indexed key deadline).mpr own)
  · exact fun covers due listed => covers due.key due.deadline (indexed.mem_iff.mp listed)

/-- Some deadline of the second store comes before all deadlines of the first. -/
def Advances (before after : Store) : Prop :=
  ∃ key deadline, after.deadline? key = some deadline ∧
    ∀ other instant, before.deadline? other = some instant → deadline < instant

theorem Announces.told_of_advances {before after : Store} (announces : Announces before after)
    (indexedBefore : before.Indexed) (indexedAfter : after.Indexed)
    (advances : Advances before after) : after.wakeUp = true := by
  obtain ⟨key, deadline, own, first⟩ := advances
  rcases announces.told with permit | behind
  · exact permit
  · have listed := (indexedAfter key deadline).mpr own
    obtain ⟨earlier, present, early⟩ := behind ⟨deadline, key⟩ listed
    have late := first earlier.key earlier.deadline (indexedBefore.mem_iff.mp present)
    exact absurd early (Nat.not_le_of_lt late)

end Store

/-! ## The task -/

namespace ExpiryTask

/-- What the task waits for or is about to wait for. -/
def awaited? : ExpiryTask → Option (Option Instant)
  | .sweeping => none
  | .aboutToWait until? => some until?
  | .waiting until? _ => some until?

def isNotified : ExpiryTask → Bool
  | .waiting _ notified => notified
  | .sweeping | .aboutToWait _ => false

/-- How many steps of a task that was told come before the sweep. -/
def stepsToSweep : ExpiryTask → Nat
  | .sweeping => 0
  | .aboutToWait _ => 2
  | .waiting _ _ => 1

theorem stepsToSweep_le (task : ExpiryTask) : task.stepsToSweep ≤ 2 := by
  cases task <;> simp [stepsToSweep]

end ExpiryTask

namespace ExpirySystem

/-- A notification has reached the task or is kept for it. -/
def isTold (system : ExpirySystem) : Bool :=
  system.store.wakeUp || system.task.isNotified

/-- What holds of the system at all times. -/
structure Watched (system : ExpirySystem) : Prop where
  indexed : system.store.Indexed
  /-- A permit does not stay where it could be handed over. -/
  handedOver : ∀ until?, system.task = .waiting until? false → system.store.wakeUp = false
  covered : ∀ until?, system.task.awaited? = some until? →
    system.isTold = true ∨ system.store.Covers until?

theorem watched_start : start.Watched :=
  ⟨Store.indexed_empty, nofun, nofun⟩

/-! ### Handing a permit over -/

@[simp] theorem awaited?_handOver (system : ExpirySystem) :
    system.handOver.task.awaited? = system.task.awaited? := by
  rcases system with ⟨store, _ | until? | ⟨until?, _ | _⟩⟩ <;> rfl

@[simp] theorem deadlines_handOver (system : ExpirySystem) :
    system.handOver.store.deadlines = system.store.deadlines := by
  rcases system with ⟨store, _ | until? | ⟨until?, _ | _⟩⟩ <;> rfl

@[simp] theorem entries_handOver (system : ExpirySystem) :
    system.handOver.store.entries = system.store.entries := by
  rcases system with ⟨store, _ | until? | ⟨until?, _ | _⟩⟩ <;> rfl

@[simp] theorem isTold_handOver (system : ExpirySystem) :
    system.handOver.isTold = system.isTold := by
  rcases system with ⟨store, _ | until? | ⟨until?, _ | _⟩⟩ <;> cases told : store.wakeUp <;>
    simp [handOver, isTold, takePermit, ExpiryTask.isNotified, told]

theorem wakeUp_handOver {system : ExpirySystem} {until? : Option Instant}
    (waits : system.handOver.task = .waiting until? false) :
    system.handOver.store.wakeUp = false := by
  rcases system with ⟨store, _ | until? | ⟨until?, _ | _⟩⟩
  · cases waits
  · cases waits
  · rfl
  · cases waits

theorem Watched.handOver {system : ExpirySystem} (indexed : system.store.Indexed)
    (covered : ∀ until?, system.task.awaited? = some until? →
      system.isTold = true ∨ system.store.Covers until?) : system.handOver.Watched := by
  refine ⟨?_, fun until? => wakeUp_handOver, fun until? awaited => ?_⟩
  · intro key deadline
    rw [deadlines_handOver, Store.deadline?, Store.entry?, entries_handOver]
    exact indexed key deadline
  · rw [awaited?_handOver] at awaited
    rw [isTold_handOver, Store.Covers, deadlines_handOver]
    exact covered until? awaited

/-! ### Steps -/

/-- A store that announces its changes leaves the task told, or as far ahead as it was. -/
theorem Watched.covered_of_announces {system : ExpirySystem} (watched : system.Watched)
    {store : Store} (announces : system.store.Announces store) (until? : Option Instant)
    (awaited : system.task.awaited? = some until?) :
    isTold { system with store := store } = true ∨ store.Covers until? := by
  simp only [isTold, Bool.or_eq_true]
  rcases watched.covered until? awaited with told | covers
  · rcases Bool.or_eq_true_iff.mp told with permit | notified
    · exact .inl (.inl (announces.kept permit))
    · exact .inl (.inr notified)
  · exact (announces.covers covers).imp_left .inl

/-- Whoever is about to sweep has nothing to wait for. -/
theorem watched_sweeping {store : Store} (indexed : store.Indexed) : Watched ⟨store, .sweeping⟩ :=
  ⟨indexed, nofun, nofun⟩

theorem Watched.taskStep {system : ExpirySystem} (watched : system.Watched) (first : Prompt) :
    (system.taskStep first).Watched := by
  obtain ⟨store, task⟩ := system
  cases task with
  | sweeping =>
      refine ⟨watched.indexed.sweep, nofun, fun until? awaited => ?_⟩
      cases awaited
      exact .inr store.sweep.covers_nextDeadline?
  | aboutToWait until? =>
      change Watched (ExpirySystem.handOver ⟨store, .waiting until? false⟩)
      exact Watched.handOver watched.indexed watched.covered
  | waiting until? notified =>
      rw [ExpirySystem.taskStep]
      dsimp only
      split
      · exact watched
      · exact watched_sweeping watched.indexed
      · exact watched_sweeping watched.indexed

theorem Watched.step {system : ExpirySystem} (watched : system.Watched) (event : Event) :
    (system.step event).Watched := by
  cases event with
  | perform operation =>
      refine Watched.handOver (watched.indexed.perform operation) ?_
      exact watched.covered_of_announces (system.store.announces_perform operation)
  | sweep =>
      refine ⟨watched.indexed.sweep, fun until? waits => ?_, ?_⟩
      · exact (system.store.wakeUp_sweep).trans (watched.handedOver until? waits)
      · exact watched.covered_of_announces system.store.announces_sweep
  | elapse duration => exact ⟨watched.indexed, watched.handedOver, watched.covered⟩
  | task first => exact watched.taskStep first

theorem Watched.after {system : ExpirySystem} (watched : system.Watched) (events : List Event) :
    (system.after events).Watched := by
  induction events generalizing system with
  | nil => exact watched
  | cons event rest inductionHypothesis => exact inductionHypothesis (watched.step event)

/-! ### What a task does that was told -/

def Event.isTask : Event → Bool
  | .task _ => true
  | .perform _ | .sweep | .elapse _ => false

theorem Event.exists_of_isTask {event : Event} (ofTask : event.isTask = true) :
    ∃ first, event = .task first := by
  cases event with
  | task first => exact ⟨first, rfl⟩
  | perform | sweep | elapse => cases ofTask

@[simp] theorem stepsToSweep_handOver (system : ExpirySystem) :
    system.handOver.task.stepsToSweep = system.task.stepsToSweep := by
  rcases system with ⟨store, _ | until? | ⟨until?, _ | _⟩⟩ <;> rfl

/-- Nothing that users do, and no time that passes, takes a notification back. -/
theorem told_step_of_user {system : ExpirySystem} (told : system.isTold = true) {event : Event}
    (ofUser : event.isTask = false) :
    (system.step event).isTold = true ∧
      (system.step event).task.stepsToSweep = system.task.stepsToSweep := by
  cases event with
  | perform operation =>
      refine ⟨?_, stepsToSweep_handOver _⟩
      rw [step, isTold_handOver, isTold, Bool.or_eq_true]
      exact (Bool.or_eq_true_iff.mp told).imp_left
        (system.store.announces_perform operation).kept
  | sweep =>
      refine ⟨?_, rfl⟩
      rw [step, isTold, Store.wakeUp_sweep]
      exact told
  | elapse duration => exact ⟨told, rfl⟩
  | task first => cases ofUser

/-- A step of a task that was told brings it nearer to the sweep. Until then it stays told. -/
theorem told_taskStep {system : ExpirySystem} (watched : system.Watched)
    (told : system.isTold = true) (first : Prompt) (awake : system.task ≠ .sweeping) :
    (system.taskStep first).task.stepsToSweep + 1 = system.task.stepsToSweep ∧
      ((system.taskStep first).task = .sweeping ∨ (system.taskStep first).isTold = true) := by
  obtain ⟨store, task⟩ := system
  cases task with
  | sweeping => exact absurd rfl awake
  | aboutToWait until? =>
      refine ⟨?_, .inr ?_⟩
      · rw [ExpirySystem.taskStep, stepsToSweep_handOver]
        rfl
      · rw [ExpirySystem.taskStep, isTold_handOver]
        exact told
  | waiting until? notified =>
      have notice : notified = true := by
        cases notified with
        | true => rfl
        | false =>
            rw [isTold, watched.handedOver until? rfl] at told
            cases told
      subst notice
      rw [ExpirySystem.taskStep]
      dsimp only
      cases isReached store.now until? <;> cases first <;> exact ⟨rfl, .inl rfl⟩

/-- However its steps are interleaved with other events, a task that was told is soon to sweep. -/
theorem sweeping_of_told {system : ExpirySystem} (watched : system.Watched)
    (told : system.isTold = true) {events : List Event}
    (enough : system.task.stepsToSweep ≤ events.countP Event.isTask) :
    ∃ earlier, earlier <+: events ∧ (system.after earlier).task = .sweeping := by
  -- Only the task's own steps count down, and no other event counts up.
  induction events generalizing system with
  | nil =>
      refine ⟨[], List.prefix_rfl, ?_⟩
      obtain ⟨store, _ | until? | ⟨until?, notified⟩⟩ := system
      · rfl
      · cases enough
      · cases enough
  | cons event rest inductionHypothesis =>
      by_cases awake : system.task = .sweeping
      · exact ⟨[], List.nil_prefix, awake⟩
      · have next : (system.step event).task = .sweeping ∨
            (system.step event).isTold = true ∧
              (system.step event).task.stepsToSweep ≤ rest.countP Event.isTask := by
          rw [List.countP_cons] at enough
          cases ofTask : event.isTask with
          | false =>
              obtain ⟨stillTold, same⟩ := told_step_of_user told ofTask
              rw [if_neg (by simp [ofTask])] at enough
              exact .inr ⟨stillTold, same ▸ enough⟩
          | true =>
              obtain ⟨first, rfl⟩ := Event.exists_of_isTask ofTask
              obtain ⟨nearer, reached⟩ := told_taskStep watched told first awake
              refine reached.imp_right fun stillTold => ⟨stillTold, ?_⟩
              rw [if_pos ofTask] at enough
              change (system.taskStep first).task.stepsToSweep ≤ _
              omega
        rcases next with reached | ⟨stillTold, left⟩
        · exact ⟨[event], ⟨rest, rfl⟩, reached⟩
        · obtain ⟨earlier, ⟨remaining, rfl⟩, reached⟩ :=
            inductionHypothesis (watched.step event) stillTold left
          exact ⟨event :: earlier, ⟨remaining, rfl⟩, reached⟩

/-! ### Every run -/

/-- After any events a task that waits, or is about to, was told, or its instant comes before all
deadlines; it has none only if no key has a deadline. An operation that brings the earliest deadline
forward tells the task: whatever happens then, within two of its steps it is to sweep. -/
theorem waits_past_no_deadline (events : List Event) :
    let system := start.after events
    (∀ until?, system.task.awaited? = some until? →
        system.isTold = true ∨
          ((∀ instant, until? = some instant →
              ∀ key deadline, system.store.deadline? key = some deadline → instant ≤ deadline)
            ∧ (until? = none → ∀ key, system.store.deadline? key = none)))
      ∧ ∀ operation, system.store.Advances (system.store.perform operation).2 →
          let next := system.step (.perform operation)
          next.isTold = true
            ∧ ∀ later, 2 ≤ later.countP Event.isTask →
                ∃ earlier, earlier <+: later ∧ (next.after earlier).task = .sweeping := by
  intro system
  have watched : system.Watched := watched_start.after events
  refine ⟨fun until? awaited => ?_, fun operation advances => ?_⟩
  · refine (watched.covered until? awaited).imp_right fun covers => ?_
    have known := watched.indexed.covers_iff.mp covers
    refine ⟨fun instant timed key deadline own => ?_, fun untimed key => ?_⟩
    · obtain ⟨awaitedInstant, same, atMost⟩ := known key deadline own
      cases timed.symm.trans same
      exact atMost
    · refine Option.eq_none_iff_forall_ne_some.mpr fun deadline own => ?_
      obtain ⟨instant, same, -⟩ := known key deadline own
      cases untimed.symm.trans same
  · have permit := (system.store.announces_perform operation).told_of_advances watched.indexed
      (watched.indexed.perform operation) advances
    have told : (system.step (.perform operation)).isTold = true := by
      rw [step, isTold_handOver, isTold, permit, Bool.true_or]
    refine ⟨told, fun later enough => ?_⟩
    exact sweeping_of_told (watched.step _) told
      (Nat.le_trans (ExpiryTask.stepsToSweep_le _) enough)

/-- A key is stored before the task sweeps. So the task is told, sweeps once more, and waits. -/
def waitsForLateKey : List Event :=
  [.perform (.onKey "late" (.setFor [] 10)), .task .instant, .task .instant, .task .instant,
    .task .instant, .task .instant]

def storeSoonKey : Operation :=
  .onKey "soon" (.setFor [] 5)

theorem late_key_waits_for_soon_key :
    let system := start.after waitsForLateKey
    let next := system.step (.perform storeSoonKey)
    system.task = .waiting (some 10) false
      ∧ (∀ key deadline, system.store.deadline? key = some deadline → 10 ≤ deadline)
      ∧ system.store.Advances (system.store.perform storeSoonKey).2
      ∧ next.isTold = true
      ∧ ∃ earlier, earlier <+: [.elapse 1, .task .instant, .sweep, .task .instant] ∧
          (next.after earlier).task = .sweeping := by
  intro system next
  have stored : system = after ⟨Store.empty.put "late" (.text []) (some 10), .sweeping⟩
      (waitsForLateKey.drop 1) := by
    have first := Store.empty.performOnKey_setFor "late" [] 10
    rw [show Store.empty.now.after? 10 = some 10 from rfl] at first
    exact congrArg (fun store => after ⟨store, .sweeping⟩ (waitsForLateKey.drop 1)) first
  have waits : system.task = .waiting (some 10) false := by
    rw [stored]
    cbv
  have untold : system.isTold = false := by
    rw [stored]
    cbv
  have own : (system.store.perform storeSoonKey).2.deadline? "soon" = some 5 := by
    have now : system.store.now = 0 := by
      rw [stored]
      cbv
    change (system.store.performOnKey "soon" (.setFor [] 5)).2.deadline? "soon" = some 5
    rw [Store.performOnKey_setFor, now]
    change (system.store.put "soon" (.text []) (some 5)).deadline? "soon" = some 5
    rw [Store.deadline?, (Store.alters_put _ _ _ _).entry_self]
    rfl
  obtain ⟨whileWaiting, whenAdvanced⟩ := waits_past_no_deadline waitsForLateKey
  have covered : ∀ key deadline, system.store.deadline? key = some deadline → 10 ≤ deadline := by
    rcases whileWaiting (some 10) (congrArg ExpiryTask.awaited? waits) with told | ⟨timed, -⟩
    · exact absurd (untold.symm.trans told) Bool.false_ne_true
    · exact timed 10 rfl
  have advances : system.store.Advances (system.store.perform storeSoonKey).2 :=
    ⟨"soon", 5, own, fun other instant present =>
      Nat.lt_of_lt_of_le (by decide) (covered other instant present)⟩
  obtain ⟨told, sweeps⟩ := whenAdvanced storeSoonKey advances
  exact ⟨waits, covered, advances, told, sweeps _ (by decide)⟩

end ExpirySystem

end RespServer
