import RespServer.Proofs.DeadlineIndex

/-!
Contract: the sweep removes what a plain map with deadlines loses, and nothing else.

Owns:
- what a sweep leaves of a store whose index is in step;
- the next deadline as the least deadline of all keys;
- runs of operations and waits, on a store and on the map, and that both are the same.

Does not own: single operations, which were compared before (`Proofs.DeadlineIndex`).

The sweep looks at the index only and at no entry. A deadline in the index that its key no longer
has would remove a live key, a missing one would let a dead key stay.
-/

namespace RespServer

/-! ## The map by itself -/

namespace Reference

def empty : Reference :=
  ⟨0, ∅⟩

/-- The deadline of a key; none if it does not exist or does not expire. -/
def deadline? (reference : Reference) (key : String) : Option Instant :=
  reference.entries[key]?.bind Entry.deadline

/-- The least deadline of all entries. -/
def nextDeadline? (reference : Reference) : Option Instant :=
  (reference.entries.toList.filterMap fun binding => binding.2.deadline).min?

/-- A deadline is among those of the entries if some key has it. -/
theorem mem_deadlines {reference : Reference} {deadline : Instant} :
    deadline ∈ reference.entries.toList.filterMap (fun binding => binding.2.deadline) ↔
      ∃ key, reference.deadline? key = some deadline := by
  rw [List.mem_filterMap]
  constructor
  · rintro ⟨⟨key, entry⟩, listed, expires⟩
    refine ⟨key, ?_⟩
    rw [deadline?, Std.ExtTreeMap.mem_toList_iff_getElem?_eq_some.mp listed]
    exact expires
  · rintro ⟨key, expires⟩
    obtain ⟨entry, found, own⟩ := Option.bind_eq_some_iff.mp expires
    exact ⟨(key, entry), Std.ExtTreeMap.mem_toList_iff_getElem?_eq_some.mpr found, own⟩

theorem nextDeadline?_eq_some_iff {reference : Reference} {deadline : Instant} :
    reference.nextDeadline? = some deadline ↔
      (∃ key, reference.deadline? key = some deadline) ∧
        ∀ key other, reference.deadline? key = some other → deadline ≤ other := by
  rw [nextDeadline?, List.min?_eq_some_iff, mem_deadlines]
  refine and_congr_right fun _ => ⟨fun least key other expires => ?_, fun least other listed => ?_⟩
  · exact least other (mem_deadlines.mpr ⟨key, expires⟩)
  · obtain ⟨key, expires⟩ := mem_deadlines.mp listed
    exact least key other expires

end Reference

/-! ## The sweep -/

namespace Store

theorem mem_expired_iff {store : Store} {due : Due} :
    due ∈ store.expired ↔ due ∈ store.deadlines ∧ due.deadline ≤ store.now := by
  constructor
  · intro listed
    have reached := List.all_eq_true.mp
      (List.all_takeWhile (p := fun due : Due => decide (due.deadline ≤ store.now))) due listed
    exact ⟨Std.ExtTreeSet.mem_toList.mp ((List.takeWhile_sublist _).subset listed),
      of_decide_eq_true reached⟩
  · exact fun ⟨member, reached⟩ => mem_expired member reached

/-- Whether the deadline of a key is reached. -/
def isDue (store : Store) (key : String) : Bool :=
  (store.deadline? key).any fun deadline => deadline ≤ store.now

theorem isDue_iff {store : Store} {key : String} :
    store.isDue key ↔ ∃ deadline, store.deadline? key = some deadline ∧ deadline ≤ store.now := by
  rw [isDue, Option.any_eq_true]
  simp only [decide_eq_true_eq]

/-- A sweep looks for keys in the index; it finds those that are due. -/
theorem Indexed.mem_expired_keys_iff {store : Store} (indexed : store.Indexed) {key : String} :
    key ∈ store.expired.map Due.key ↔ store.isDue key := by
  rw [List.mem_map, isDue_iff]
  constructor
  · rintro ⟨due, listed, rfl⟩
    obtain ⟨member, reached⟩ := mem_expired_iff.mp listed
    exact ⟨due.deadline, indexed.mem_iff.mp member, reached⟩
  · rintro ⟨deadline, own, reached⟩
    exact ⟨⟨deadline, key⟩, mem_expired_iff.mpr ⟨(indexed key deadline).mpr own, reached⟩, rfl⟩

@[simp] theorem now_sweep (store : Store) : store.sweep.now = store.now :=
  (removeEach_spec store.expired store).1

theorem mem_sweep_iff {store : Store} {due : Due} :
    due ∈ store.sweep.deadlines ↔ due ∈ store.deadlines ∧ store.now < due.deadline := by
  rw [sweep, (removeEach_spec store.expired store).2.2, mem_expired_iff]
  constructor
  · rintro ⟨member, kept⟩
    exact ⟨member, Nat.lt_of_not_le fun reached => kept ⟨member, reached⟩⟩
  · rintro ⟨member, future⟩
    exact ⟨member, fun expired => Nat.not_le_of_lt future expired.2⟩

section Sweep

variable {store : Store} (indexed : store.Indexed)
include indexed

/-- A sweep removes the keys that are due, and leaves all others as they are. -/
theorem Indexed.lookup_sweep (key : String) :
    store.sweep.entry? key = if store.isDue key then none else store.entry? key := by
  rw [Store.sweep, (removeEach_spec store.expired store).2.1]
  simp only [indexed.mem_expired_keys_iff]

/-- A sweep keeps the index in step. -/
theorem Indexed.sweep : store.sweep.Indexed := by
  intro key deadline
  have after : store.sweep.deadline? key =
      (if store.isDue key then none else store.entry? key).bind Entry.deadline := by
    rw [deadline?, indexed.lookup_sweep]
  rw [mem_sweep_iff, indexed key deadline, after]
  split
  · rename_i due
    obtain ⟨reached, own, past⟩ := isDue_iff.mp due
    rw [own]
    simp only [Option.bind_none, reduceCtorEq, iff_false, not_and, Nat.not_lt, Option.some.injEq]
    rintro rfl
    exact past
  · rename_i live
    refine ⟨And.left, fun own => ⟨own, ?_⟩⟩
    exact Nat.lt_of_not_le fun reached => live (isDue_iff.mpr ⟨deadline, own, reached⟩)

/-- A sweep removes what the map loses. -/
theorem Indexed.ofStore_sweep :
    Reference.ofStore store.sweep = (Reference.ofStore store).expire := by
  have entries : store.sweep.entries = (Reference.ofStore store).expire.entries := by
    apply Std.ExtTreeMap.ext_getElem?
    intro key
    have found := indexed.lookup_sweep key
    rw [ entry?] at found
    rw [found, Reference.expire, Std.ExtTreeMap.getElem?_filter', isDue, deadline?, entry?]
    change _ = store.entries[key]?.filter _
    cases store.entries[key]? with
    | none => exact ite_self none
    | some entry =>
        rw [Option.filter_some, Option.bind_some]
        change _ = if (!entry.deadline.any fun deadline => deadline ≤ store.now) then _ else _
        cases entry.deadline.any fun deadline => deadline ≤ store.now <;> rfl
  change (⟨_, _⟩ : Reference) = ⟨_, _⟩
  rw [now_sweep, entries]
  rfl

/-- The first deadline in the index is the least of all keys. -/
theorem Indexed.nextDeadline?_eq_some_iff {deadline : Instant} :
    store.nextDeadline? = some deadline ↔
      (∃ key, store.deadline? key = some deadline) ∧
        ∀ key other, store.deadline? key = some other → deadline ≤ other := by
  rw [nextDeadline?, Option.map_eq_some_iff]
  constructor
  · rintro ⟨due, first, rfl⟩
    obtain ⟨member, least⟩ := Std.ExtTreeSet.min?_eq_some_iff_mem_and_forall.mp first
    refine ⟨⟨due.key, indexed.mem_iff.mp member⟩, fun key other own => ?_⟩
    exact deadline_le_of_isLE (least ⟨other, key⟩ ((indexed key other).mpr own))
  · rintro ⟨⟨key, own⟩, least⟩
    have member := (indexed key deadline).mpr own
    cases first : store.deadlines.min? with
    | none =>
        rw [Std.ExtTreeSet.min?_eq_none_iff.mp first] at member
        exact absurd member Std.ExtTreeSet.not_mem_empty
    | some due =>
        obtain ⟨listed, before⟩ := Std.ExtTreeSet.min?_eq_some_iff_mem_and_forall.mp first
        have early := deadline_le_of_isLE (before _ member)
        have late := least due.key due.deadline (indexed.mem_iff.mp listed)
        exact ⟨due, rfl, Nat.le_antisymm early late⟩

theorem Indexed.nextDeadline?_eq_none_iff :
    store.nextDeadline? = none ↔ ∀ key, store.deadline? key = none := by
  rw [nextDeadline?, Option.map_eq_none_iff, Std.ExtTreeSet.min?_eq_none_iff]
  constructor
  · intro nothing key
    refine Option.eq_none_iff_forall_ne_some.mpr fun deadline own => ?_
    have member := (indexed key deadline).mpr own
    rw [nothing] at member
    exact Std.ExtTreeSet.not_mem_empty member
  · intro none
    apply Std.ExtTreeSet.ext_mem
    intro due
    rw [indexed.mem_iff, none]
    simp

theorem Indexed.nextDeadline?_eq :
    store.nextDeadline? = (Reference.ofStore store).nextDeadline? := by
  apply Option.ext
  intro deadline
  rw [indexed.nextDeadline?_eq_some_iff, Reference.nextDeadline?_eq_some_iff]
  rfl

end Sweep

end Store

/-! ## Runs -/

/-- What happens to a store. Keys that are due are removed before each operation and as soon as
time has passed. -/
inductive Move where
  | perform (operation : Operation)
  | wait (duration : Duration)

/-- What is seen of a move: the next deadline that the sweep finds, and the answer of the
operation, if it is one. -/
structure Sighting where
  next? : Option Instant
  answer? : Option StoreAnswer

namespace Store

def make (store : Store) : Move → Sighting × Store
  | .perform operation =>
      let swept := store.sweep
      let (answer, after) := swept.perform operation
      (⟨swept.nextDeadline?, some answer⟩, after)
  | .wait duration =>
      let swept := store.advance duration
      (⟨swept.nextDeadline?, none⟩, swept)

def makeAll (store : Store) : List Move → List Sighting × Store
  | [] => ([], store)
  | move :: rest =>
      let (seen, next) := store.make move
      let (later, last) := next.makeAll rest
      (seen :: later, last)

end Store

namespace Reference

def make (reference : Reference) : Move → Sighting × Reference
  | .perform operation =>
      let swept := reference.expire
      let (answer, after) := swept.perform operation
      (⟨swept.nextDeadline?, some answer⟩, after)
  | .wait duration =>
      let swept := reference.advance duration
      (⟨swept.nextDeadline?, none⟩, swept)

def makeAll (reference : Reference) : List Move → List Sighting × Reference
  | [] => ([], reference)
  | move :: rest =>
      let (seen, next) := reference.make move
      let (later, last) := next.makeAll rest
      (seen :: later, last)

end Reference

namespace Store

/-- Time passes, which the index does not notice. -/
theorem Indexed.age {store : Store} (indexed : store.Indexed) (duration : Duration) :
    Indexed { store with now := store.now + duration } :=
  indexed

theorem Indexed.make {store : Store} (indexed : store.Indexed) (move : Move) :
    (store.make move).2.Indexed := by
  cases move with
  | perform operation => exact indexed.sweep.perform operation
  | wait duration => exact (indexed.age duration).sweep

/-- Each move is seen and ends as on the map. -/
theorem Indexed.make_eq {store : Store} (indexed : store.Indexed) (move : Move) :
    (Reference.ofStore store).make move =
      ((store.make move).1, Reference.ofStore (store.make move).2) := by
  cases move with
  | perform operation =>
      obtain ⟨answer, after⟩ := perform_eq store.sweep operation
      rw [Reference.make, ← indexed.ofStore_sweep, ← indexed.sweep.nextDeadline?_eq]
      dsimp only
      rw [← answer, ← after]
      rfl
  | wait duration =>
      have swept : Reference.ofStore (store.advance duration) =
          (Reference.ofStore store).advance duration := (indexed.age duration).ofStore_sweep
      have advanced : (store.advance duration).Indexed := (indexed.age duration).sweep
      rw [Reference.make, ← swept, ← advanced.nextDeadline?_eq]
      rfl

theorem Indexed.makeAll {store : Store} (indexed : store.Indexed) (moves : List Move) :
    (store.makeAll moves).2.Indexed := by
  induction moves generalizing store with
  | nil => exact indexed
  | cons move rest inductionHypothesis => exact inductionHypothesis (indexed.make move)

theorem Indexed.makeAll_eq {store : Store} (indexed : store.Indexed) (moves : List Move) :
    (Reference.ofStore store).makeAll moves =
      ((store.makeAll moves).1, Reference.ofStore (store.makeAll moves).2) := by
  induction moves generalizing store with
  | nil => rfl
  | cons move rest inductionHypothesis =>
      rw [Reference.makeAll, indexed.make_eq]
      dsimp only
      rw [inductionHypothesis (indexed.make move)]
      rfl

/-- After any moves from the empty store, everything that was seen and the keys with their values
and deadlines are those of the plain map. If then more time passes, a sweep removes the keys that
are due by the deadlines they have, leaves all others as they are, and finds the least deadline
that remains. -/
theorem refines_plain_map (moves : List Move) (duration : Duration) :
    let (sightings, store) := empty.makeAll moves
    let aged : Store := { store with now := store.now + duration }
    Reference.empty.makeAll moves = (sightings, Reference.ofStore store)
      ∧ (∀ key, aged.sweep.entry? key = if aged.isDue key then none else store.entry? key)
      ∧ (∀ deadline, aged.sweep.nextDeadline? = some deadline ↔
          (∃ key, aged.sweep.deadline? key = some deadline) ∧
            ∀ key other, aged.sweep.deadline? key = some other → deadline ≤ other)
      ∧ (aged.sweep.nextDeadline? = none ↔ ∀ key, aged.sweep.deadline? key = none) := by
  have indexed := (indexed_empty.makeAll moves).age duration
  refine ⟨indexed_empty.makeAll_eq moves, indexed.lookup_sweep, fun deadline => ?_, ?_⟩
  · exact indexed.sweep.nextDeadline?_eq_some_iff
  · exact indexed.sweep.nextDeadline?_eq_none_iff

end Store

end RespServer
