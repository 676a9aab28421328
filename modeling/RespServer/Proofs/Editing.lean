import RespServer.Store.Operation

/-!
Contract: everything that commands do to the store, as chains of a few edits.

Owns:
- the relation `Edits`, one constructor for each way of changing a key;
- the operations of the store as edits;
- what no edit changes: the clock, and that no deadline in the index is reached;
- the sweep of a store without reached deadlines.

Does not own: which commands perform which operation (`Proofs.Execution`).

A deadline that an edit sets lies in the future. This is what makes the sweep before every event
idle as long as the clock stands still.
-/

namespace RespServer.Store

/-- The second store results from the first by changes of single keys. -/
inductive Edits : Store → Store → Prop where
  | same (store : Store) : Edits store store
  | put {before after : Store} (earlier : Edits before after) (key : String) (data : Data)
      (deadline : Option Instant) (future : ∀ instant ∈ deadline, after.now < instant) :
      Edits before (after.put key data deadline)
  | modify {before after : Store} (earlier : Edits before after) (key : String) (data : Data) :
      Edits before (after.modify key data)
  | erase {before after : Store} (earlier : Edits before after) (key : String) :
      Edits before (after.erase key)
  | clear {before after : Store} (earlier : Edits before after) : Edits before after.clear

theorem Edits.trans {first second third : Store} (earlier : Edits first second)
    (later : Edits second third) : Edits first third := by
  induction later with
  | same => exact earlier
  | put _ key data deadline future inductionHypothesis =>
      exact inductionHypothesis.put key data deadline future
  | modify _ key data inductionHypothesis => exact inductionHypothesis.modify key data
  | erase _ key inductionHypothesis => exact inductionHypothesis.erase key
  | clear _ inductionHypothesis => exact inductionHypothesis.clear

/-! ### Operations -/

theorem lt_after? {start deadline : Instant} {duration : Duration} (positive : 0 < duration)
    (shown : start.after? duration = some deadline) : start < deadline := by
  unfold Instant.after? at shown
  split at shown
  · cases shown
    exact Nat.lt_add_of_pos_right positive
  · cases shown

theorem edits_set (store : Store) (key : String) (octets : Bytes) :
    Edits store (store.set key octets) :=
  (Edits.same store).put key (.text octets) none (by simp)

theorem edits_replace (store : Store) (key : String) (octets : Bytes) :
    Edits store (store.replace key octets) :=
  (Edits.same store).modify key (.text octets)

theorem edits_setFor? {store after : Store} {key : String} {octets : Bytes}
    {lifetime : Duration} (positive : 0 < lifetime)
    (stored : store.setFor? key octets lifetime = some after) : Edits store after := by
  obtain ⟨deadline, shown, rfl⟩ := Option.map_eq_some_iff.mp stored
  apply (Edits.same store).put key (.text octets) (some deadline)
  intro instant member
  cases member
  exact lt_after? positive shown

/-- Giving a key a deadline is storing its value once more. -/
theorem put_of_found {store : Store} {key : String} {entry : Entry}
    (found : store.entry? key = some entry) (deadline : Option Instant) :
    ({ store with
        entries := store.entries.insert key { entry with deadline := deadline } }.untrack key
      entry.deadline).track key deadline = store.put key entry.data deadline := by
  simp [put, found]

theorem edits_expire? {store after : Store} {key : String} {lifetime : Duration}
    {applied : Bool} (positive : 0 < lifetime)
    (done : store.expire? key lifetime = some (applied, after)) : Edits store after := by
  obtain ⟨deadline, shown, changed⟩ := Option.map_eq_some_iff.mp done
  cases found : store.entry? key with
  | none =>
      rw [found] at changed
      cases changed
      exact .same store
  | some entry =>
      rw [found] at changed
      dsimp only at changed
      rw [put_of_found found] at changed
      cases changed
      apply (Edits.same store).put key entry.data (some deadline)
      intro instant member
      cases member
      exact lt_after? positive shown

theorem edits_append {store after : Store} {key : String} {suffix : Bytes} {count : Nat}
    (done : store.append key suffix = .ok (count, after)) : Edits store after := by
  unfold append at done
  split at done
  · cases done
  · cases done
    exact edits_set store key suffix
  · cases done
    exact edits_replace store key _

theorem edits_add {store after : Store} {type : IntegerType} {key : String}
    {increment sum : Int} (done : store.add type key increment = .ok (sum, after)) :
    Edits store after := by
  unfold add at done
  split at done
  · cases done
  · split at done
    · cases done
    · dsimp only at done
      split at done
      · cases done
        exact edits_replace store key _
      · cases done

theorem edits_setField {store after : Store} {key : String} {field value : Bytes} {isNew : Bool}
    (done : store.setField key field value = .ok (isNew, after)) : Edits store after := by
  unfold setField at done
  split at done
  · cases done
  · cases done
    exact (Edits.same store).modify key _

/-- Fields that were set before one that cannot be set are edits as well. -/
theorem edits_setFields (store : Store) (key : String) (pairs : List (Bytes × Bytes)) :
    Edits store (store.setFields key pairs).2 := by
  induction pairs generalizing store with
  | nil => exact .same store
  | cons pair rest inductionHypothesis =>
      unfold setFields
      split
      · exact .same store
      · rename_i isNew next first
        exact (edits_setField first).trans (inductionHypothesis next)

theorem edits_removeFields {store after : Store} {key : String} {names : List Bytes}
    {count : Nat} (done : store.removeFields key names = .ok (count, after)) :
    Edits store after := by
  unfold removeFields at done
  split at done
  · cases done
  · cases done
    exact .same store
  · dsimp only at done
    split at done
    · cases done
      exact (Edits.same store).erase key
    · cases done
      exact (Edits.same store).modify key _

/-! ### Fields that edits leave -/

@[simp] theorem now_untrack (store : Store) (key : String) (deadline : Option Instant) :
    (store.untrack key deadline).now = store.now := by
  cases deadline <;> rfl

@[simp] theorem now_track (store : Store) (key : String) (deadline : Option Instant) :
    (store.track key deadline).now = store.now := by
  cases deadline <;> rfl

@[simp] theorem now_put (store : Store) (key : String) (data : Data)
    (deadline : Option Instant) : (store.put key data deadline).now = store.now := by
  simp [put]

@[simp] theorem now_modify (store : Store) (key : String) (data : Data) :
    (store.modify key data).now = store.now :=
  rfl

@[simp] theorem now_erase (store : Store) (key : String) :
    (store.erase key).now = store.now := by
  unfold erase
  split
  · rfl
  · rw [now_untrack]

theorem Edits.now_eq {before after : Store} (edits : Edits before after) :
    after.now = before.now := by
  induction edits with
  | same => rfl
  | put _ key data deadline _ inductionHypothesis => rw [now_put, inductionHypothesis]
  | modify _ key data inductionHypothesis => rw [now_modify, inductionHypothesis]
  | erase _ key inductionHypothesis => rw [now_erase, inductionHypothesis]
  | clear _ inductionHypothesis => exact inductionHypothesis

/-! ### Deadlines in the future -/

/-- No deadline in the index is reached. -/
def Current (store : Store) : Prop :=
  ∀ due ∈ store.deadlines, store.now < due.deadline

theorem Current.untrack {store : Store} (current : store.Current) (key : String)
    (deadline : Option Instant) : (store.untrack key deadline).Current := by
  cases deadline with
  | none => exact current
  | some instant =>
      intro due member
      exact current due (Std.ExtTreeSet.mem_erase.mp member).2

theorem Current.track {store : Store} (current : store.Current) (key : String)
    {deadline : Option Instant} (future : ∀ instant ∈ deadline, store.now < instant) :
    (store.track key deadline).Current := by
  cases deadline with
  | none => exact current
  | some instant =>
      intro due member
      rcases Std.ExtTreeSet.mem_insert.mp member with same | old
      · rw [← Std.LawfulEqOrd.eq_of_compare same]
        exact future instant rfl
      · exact current due old

theorem Current.put {store : Store} (current : store.Current) (key : String) (data : Data)
    {deadline : Option Instant} (future : ∀ instant ∈ deadline, store.now < instant) :
    (store.put key data deadline).Current := by
  have stored : Current
      { store with entries := store.entries.insert key ⟨data, deadline⟩ } := current
  apply (stored.untrack key _).track key
  intro instant member
  rw [now_untrack]
  exact future instant member

theorem Current.erase {store : Store} (current : store.Current) (key : String) :
    (store.erase key).Current := by
  unfold Store.erase
  split
  · exact current
  · have removed : Current { store with entries := store.entries.erase key } := current
    exact removed.untrack key _

theorem Current.clear (store : Store) : store.clear.Current := by
  intro due member
  simp [Store.clear] at member

theorem Edits.current {before after : Store} (edits : Edits before after)
    (current : before.Current) : after.Current := by
  induction edits with
  | same => exact current
  | put _ key data _ future inductionHypothesis =>
      exact inductionHypothesis.put key data future
  | modify _ _ _ inductionHypothesis => exact inductionHypothesis
  | erase _ key inductionHypothesis => exact inductionHypothesis.erase key
  | clear _ _ => exact Current.clear _

/-! ### The sweep -/

private theorem mem_takeWhile_of_sorted {relation : α → α → Prop} {test : α → Bool}
    {elements : List α} (sorted : elements.Pairwise relation)
    (downward : ∀ first second, relation first second → test second = true → test first = true)
    {element : α} (member : element ∈ elements) (passes : test element = true) :
    element ∈ elements.takeWhile test := by
  induction sorted with
  | nil => cases member
  | @cons head rest below _ inductionHypothesis =>
      rcases List.mem_cons.mp member with rfl | later
      · simp [passes]
      · have headPasses := downward head element (below element later) passes
        rw [List.takeWhile_cons_of_pos headPasses]
        exact List.mem_cons_of_mem _ (inductionHypothesis later)

/-- The order of the index is that of the deadlines. -/
theorem deadline_le_of_isLE {first second : Due} (ordered : (compare first second).isLE) :
    first.deadline ≤ second.deadline := by
  have lexical : (compareLex (compareOn Due.deadline) (compareOn Due.key) first second).isLE :=
    ordered
  refine Nat.le_of_not_lt fun above => ?_
  have later : compare first.deadline second.deadline = .gt := Nat.compare_eq_gt.mpr above
  simp [compareLex, compareOn, later] at lexical

theorem mem_expired {store : Store} {due : Due} (member : due ∈ store.deadlines)
    (reached : due.deadline ≤ store.now) : due ∈ store.expired := by
  apply mem_takeWhile_of_sorted Std.ExtTreeSet.ordered_toList
  · intro first second earlier secondReached
    have ordered : compare first second = .lt := earlier
    have atMost := deadline_le_of_isLE (Ordering.isLE_of_eq_lt ordered)
    simp only [decide_eq_true_eq] at secondReached ⊢
    exact Nat.le_trans atMost secondReached
  · exact Std.ExtTreeSet.mem_toList.mpr member
  · simpa using reached

/-- What is removed for a list of deadlines: their keys, and they themselves. -/
theorem removeEach_spec (dues : List Due) (store : Store) :
    let removed := dues.foldl
      (fun store due =>
        { store with
          entries := store.entries.erase due.key
          deadlines := store.deadlines.erase due })
      store
    removed.now = store.now
      ∧ (∀ key, removed.entry? key =
          if key ∈ dues.map Due.key then none else store.entry? key)
      ∧ ∀ due, due ∈ removed.deadlines ↔ due ∈ store.deadlines ∧ due ∉ dues := by
  induction dues generalizing store with
  | nil => exact ⟨rfl, fun _ => rfl, fun due => by simp⟩
  | cons head rest inductionHypothesis =>
      obtain ⟨sameNow, entries, remaining⟩ := inductionHypothesis
        { store with
          entries := store.entries.erase head.key
          deadlines := store.deadlines.erase head }
      refine ⟨sameNow, fun key => ?_, fun due => ?_⟩
      · rw [List.foldl_cons, entries, List.map_cons]
        simp only [ entry?, Std.ExtTreeMap.getElem?_erase, Std.compare_eq_iff_eq]
        by_cases same : head.key = key
        · simp [same]
        · simp [same, Ne.symm same]
      · rw [List.foldl_cons, remaining, Std.ExtTreeSet.mem_erase, Ne, Std.compare_eq_iff_eq]
        constructor
        · rintro ⟨⟨different, old⟩, notInRest⟩
          refine ⟨old, fun listed => ?_⟩
          rcases List.mem_cons.mp listed with rfl | inRest
          · exact different rfl
          · exact notInRest inRest
        · rintro ⟨old, unlisted⟩
          obtain ⟨different, notInRest⟩ := List.ne_and_not_mem_of_not_mem_cons unlisted
          exact ⟨⟨Ne.symm different, old⟩, notInRest⟩

/-- After a sweep no deadline is reached. -/
theorem current_sweep (store : Store) : store.sweep.Current := by
  obtain ⟨sameNow, -, remaining⟩ := removeEach_spec store.expired store
  intro due member
  obtain ⟨old, notExpired⟩ := (remaining due).mp member
  rw [show store.sweep.now = store.now from sameNow]
  exact Nat.lt_of_not_le fun reached => notExpired (mem_expired old reached)

/-- Where no deadline is reached a sweep changes nothing. -/
theorem sweep_of_current {store : Store} (current : store.Current) : store.sweep = store := by
  have nothing : store.expired = [] := by
    unfold expired
    cases listed : store.deadlines.toList with
    | nil => rfl
    | cons due rest =>
        have member : due ∈ store.deadlines := by
          rw [← Std.ExtTreeSet.mem_toList, listed]
          exact List.mem_cons_self
        have future := current due member
        rw [List.takeWhile_cons_of_neg (by simpa using future)]
  rw [sweep, nothing, List.foldl_nil]

end RespServer.Store
