import RespServer.Proofs.Operations

/-!
Contract: the index of deadlines after any course of a store.

Owns:
- `Change`, what can happen to a store, with sweeps and waits at any time;
- `Store.dues`, the deadlines read off the entries, by which the index is judged;
- `Store.Tracks`, the index and these deadlines are the same pairs;
- that every change keeps the index so, and that every course of a store and of a server does.

Does not own: single operations (`Proofs.DeadlineIndex`) and what a sweep removes
(`Proofs.Expiration`).

No operation ever looks at the index to find a deadline, and no sweep looks at an entry. So the
entries alone say what the index ought to be, and nothing but the order of the changes says what it
is.
-/

namespace RespServer

/-- What can happen to a store. Time may pass without a sweep. -/
inductive Change where
  | perform (operation : Operation)
  | sweep
  | wait (duration : Duration)

namespace Store

def change (store : Store) : Change → Store
  | .perform operation => (store.perform operation).2
  | .sweep => store.sweep
  | .wait duration => { store with now := store.now + duration }

/-- The store after changes, the first of them first. -/
def afterAll (store : Store) (changes : List Change) : Store :=
  changes.foldl change store

/-- The keys that expire with their deadlines, in the order of the keys. -/
def dues (store : Store) : List Due :=
  store.entries.toList.filterMap fun binding =>
    binding.2.deadline.map fun deadline => ⟨deadline, binding.1⟩

/-! ## The deadlines of the entries -/

theorem mem_dues {store : Store} {due : Due} :
    due ∈ store.dues ↔ store.deadline? due.key = some due.deadline := by
  rw [dues, List.mem_filterMap, deadline?, entry?, Option.bind_eq_some_iff]
  constructor
  · rintro ⟨⟨key, entry⟩, listed, made⟩
    obtain ⟨deadline, own, rfl⟩ := Option.map_eq_some_iff.mp made
    exact ⟨entry, Std.ExtTreeMap.mem_toList_iff_getElem?_eq_some.mp listed, own⟩
  · rintro ⟨entry, found, own⟩
    refine ⟨(due.key, entry), Std.ExtTreeMap.mem_toList_iff_getElem?_eq_some.mpr found, ?_⟩
    simp [own]

/-- Keys are listed once, so a key has one deadline at most. -/
theorem nodup_dues (store : Store) : store.dues.Nodup := by
  have keys : store.entries.toList.Pairwise fun first second => first.1 ≠ second.1 :=
    Std.ExtTreeMap.distinct_keys_toList.imp fun different same => by
      simp [same, Std.ReflCmp.compare_self] at different
  refine List.Pairwise.filterMap _ ?_ keys
  intro first second different due made other madeToo
  obtain ⟨-, -, rfl⟩ := Option.map_eq_some_iff.mp made
  obtain ⟨-, -, rfl⟩ := Option.map_eq_some_iff.mp madeToo
  intro same
  exact different (congrArg Due.key same)

/-! ## The index -/

/-- The index holds the deadlines of the entries: no stale pair, no missing pair, one pair at most
for each key and none for a key that is absent. -/
structure Tracks (store : Store) : Prop where
  /-- The pairs of the index are those of the entries, each as often as there. -/
  same : store.deadlines.toList.Perm store.dues
  live : ∀ due, due ∈ store.deadlines ↔
    ∃ data, store.entry? due.key = some ⟨data, some due.deadline⟩
  once : ∀ first ∈ store.deadlines, ∀ second ∈ store.deadlines,
    first.key = second.key → first = second
  none_of_absent : ∀ key, store.contains key = false → ∀ due ∈ store.deadlines, due.key ≠ key

theorem Indexed.tracks {store : Store} (indexed : store.Indexed) : store.Tracks where
  same := by
    have nodup : store.deadlines.toList.Nodup :=
      Std.ExtTreeSet.distinct_toList.imp fun different same => by
        simp [same, Std.ReflCmp.compare_self] at different
    apply (List.perm_ext_iff_of_nodup nodup store.nodup_dues).mpr
    intro due
    rw [Std.ExtTreeSet.mem_toList, indexed.mem_iff, mem_dues]
  live due := by
    rw [indexed.mem_iff, deadline?, Option.bind_eq_some_iff]
    constructor
    · rintro ⟨⟨data, deadline⟩, found, own⟩
      exact ⟨data, own ▸ found⟩
    · rintro ⟨data, found⟩
      exact ⟨_, found, rfl⟩
  once first member second memberToo same := by
    have own := indexed.mem_iff.mp member
    rw [same, indexed.mem_iff.mp memberToo, Option.some.injEq] at own
    cases first
    cases second
    simp only [Due.mk.injEq] at *
    exact ⟨own.symm, same⟩
  none_of_absent key absent due member same := by
    have own := indexed.mem_iff.mp member
    rw [contains_eq, Option.isSome_eq_false_iff, Option.isNone_iff_eq_none] at absent
    rw [same, deadline?, absent] at own
    cases own

/-- Every change keeps an invariant of stores. -/
theorem Invariant.change {holds : Store → Prop} (invariant : Invariant holds) {store : Store}
    (held : holds store) (change : Change) : holds (store.change change) := by
  cases change with
  | perform operation => exact invariant.perform operation held
  | sweep => exact invariant.sweep held
  | wait duration => exact invariant.age duration held

theorem Invariant.afterAll {holds : Store → Prop} (invariant : Invariant holds) {store : Store}
    (held : holds store) (changes : List Change) : holds (store.afterAll changes) := by
  induction changes generalizing store with
  | nil => exact held
  | cons change rest inductionHypothesis =>
      exact inductionHypothesis (invariant.change held change)

/-- After any operations, sweeps and waits, the index holds exactly the deadlines of the keys. -/
theorem index_is_exact (changes : List Change) : (empty.afterAll changes).Tracks :=
  (invariant_indexed.afterAll indexed_empty changes).tracks

end Store

/-- The same of the store of a server, whatever its connections do. -/
theorem World.tracks_after (password : Option Bytes) (allowed : Bool) (events : List Event) :
    ((start password allowed).after events).services.store.Tracks :=
  (holds_of_empty Store.invariant_indexed Store.indexed_empty password allowed events).tracks

end RespServer
