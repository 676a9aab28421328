import RespServer.Proofs.Editing
import RespServer.Store.Reference

/-!
Contract: the index of deadlines, in step with the keys.

Owns:
- `Indexed`, the index holds the deadlines of the keys and nothing else;
- `Alters`, a change of one key with the index kept in step, and each operation as such a change;
- that an operation answers and alters as it ought to, and that all operations keep the index.

Does not own: the sweep, which is where a wrong index would show (`Proofs.Expiration`).

An operation ought to look at the entry of its key and at the clock only. So a stale deadline in the
index can never show in its answer, and keeping the index is one more thing that each change of a
key does: it forgets the deadline that the key had and remembers the one that it gets.
-/

namespace RespServer

theorem Due.compare_eq_iff {deadline : Instant} {key : String} {due : Due} :
    compare (⟨deadline, key⟩ : Due) due = .eq ↔ due.key = key ∧ deadline = due.deadline := by
  rw [Std.compare_eq_iff_eq]
  cases due
  simp [eq_comm, and_comm]

namespace Store

/-! ## The index -/

/-- The deadline of a key; none if it does not exist or does not expire. -/
def deadline? (store : Store) (key : String) : Option Instant :=
  (store.entry? key).bind Entry.deadline

/-- The index holds the deadline of a key, and no other deadline of it. -/
def IndexedAt (store : Store) (key : String) : Prop :=
  ∀ deadline, (⟨deadline, key⟩ : Due) ∈ store.deadlines ↔ store.deadline? key = some deadline

/-- The index holds the deadlines of all keys, and nothing else. -/
def Indexed (store : Store) : Prop :=
  ∀ key, store.IndexedAt key

theorem indexed_empty : empty.Indexed := by
  intro key deadline
  simp [empty, deadline?, entry?]

theorem Indexed.mem_iff {store : Store} (indexed : store.Indexed) {due : Due} :
    due ∈ store.deadlines ↔ store.deadline? due.key = some due.deadline :=
  indexed due.key due.deadline

@[simp] theorem entries_untrack (store : Store) (key : String) (deadline : Option Instant) :
    (store.untrack key deadline).entries = store.entries := by
  cases deadline <;> rfl

@[simp] theorem entries_track (store : Store) (key : String) (deadline : Option Instant) :
    (store.track key deadline).entries = store.entries := by
  cases deadline <;> rfl

theorem mem_untrack {store : Store} {key : String} {deadline : Option Instant} {due : Due} :
    due ∈ (store.untrack key deadline).deadlines ↔
      due ∈ store.deadlines ∧ ¬(due.key = key ∧ deadline = some due.deadline) := by
  cases deadline with
  | none => simp [untrack]
  | some instant =>
      simp only [untrack, Std.ExtTreeSet.mem_erase, Option.some.injEq]
      rw [Ne, Due.compare_eq_iff]
      exact and_comm

theorem mem_track {store : Store} {key : String} {deadline : Option Instant} {due : Due} :
    due ∈ (store.track key deadline).deadlines ↔
      due.key = key ∧ deadline = some due.deadline ∨ due ∈ store.deadlines := by
  cases deadline with
  | none => simp [track]
  | some instant =>
      simp only [track, Std.ExtTreeSet.mem_insert, Option.some.injEq]
      rw [Due.compare_eq_iff]

/-! ## Changes of one key -/

/-- The second store has this entry of one key, the index is in step for that key if it was before,
and everything else is the same. -/
structure Alters (before : Store) (key : String) (entry : Option Entry) (after : Store) :
    Prop where
  now : after.now = before.now
  entries : after.entries = before.entries.alter key fun _ => entry
  others : ∀ due : Due, due.key ≠ key → (due ∈ after.deadlines ↔ due ∈ before.deadlines)
  own : before.IndexedAt key → after.IndexedAt key

section Altering

variable {before after : Store} {key : String} {entry : Option Entry}

theorem Alters.entry_self (alters : before.Alters key entry after) :
    after.entry? key = entry := by
  rw [ entry?, alters.entries, Std.ExtTreeMap.getElem?_alter_self]

theorem Alters.entry_other (alters : before.Alters key entry after) {other : String}
    (different : other ≠ key) : after.entry? other = before.entry? other := by
  have apart : compare key other ≠ .eq := fun same =>
    different (Std.compare_eq_iff_eq.mp same).symm
  rw [ entry?, alters.entries, Std.ExtTreeMap.getElem?_alter, if_neg apart, entry?]

theorem Alters.indexed (alters : before.Alters key entry after) (indexed : before.Indexed) :
    after.Indexed := by
  intro other
  by_cases same : other = key
  · subst same
    exact alters.own (indexed other)
  · intro deadline
    rw [alters.others _ same, indexed other deadline, deadline?, deadline?,
      alters.entry_other same]

theorem Alters.trans {middle : Store} {between : Option Entry}
    (earlier : before.Alters key between middle) (later : middle.Alters key entry after) :
    before.Alters key entry after := by
  refine ⟨later.now.trans earlier.now, ?_, fun due different => ?_, fun own => ?_⟩
  · rw [later.entries, earlier.entries]
    apply Std.ExtTreeMap.ext_getElem?
    intro other
    simp only [Std.ExtTreeMap.getElem?_alter]
    split <;> rfl
  · exact (later.others due different).trans (earlier.others due different)
  · exact later.own (earlier.own own)

theorem alters_same (store : Store) (key : String) :
    store.Alters key (store.entry? key) store := by
  refine ⟨rfl, ?_, fun _ _ => Iff.rfl, id⟩
  apply Std.ExtTreeMap.ext_getElem?
  intro other
  rw [Std.ExtTreeMap.getElem?_alter]
  split
  · rename_i same
    rw [← Std.compare_eq_iff_eq.mp same, entry?]
  · rfl

theorem alter_of_some (entries : Std.ExtTreeMap String Entry) (key : String) (entry : Entry) :
    (entries.alter key fun _ => some entry) = entries.insert key entry := by
  apply Std.ExtTreeMap.ext_getElem?
  intro other
  rw [Std.ExtTreeMap.getElem?_alter, Std.ExtTreeMap.getElem?_insert]

theorem alter_of_none (entries : Std.ExtTreeMap String Entry) (key : String) :
    (entries.alter key fun _ => none) = entries.erase key := by
  apply Std.ExtTreeMap.ext_getElem?
  intro other
  rw [Std.ExtTreeMap.getElem?_alter, Std.ExtTreeMap.getElem?_erase]

/-- The index forgets the deadline that the key had and remembers the one that it gets. -/
theorem alters_put (store : Store) (key : String) (data : Data) (deadline : Option Instant) :
    store.Alters key (some ⟨data, deadline⟩) (store.put key data deadline) := by
  have entries : (store.put key data deadline).entries =
      store.entries.insert key ⟨data, deadline⟩ := by
    simp [put]
  have listed : ∀ due : Due, due ∈ (store.put key data deadline).deadlines ↔
      due.key = key ∧ deadline = some due.deadline ∨
        due ∈ store.deadlines ∧ ¬(due.key = key ∧ store.deadline? key = some due.deadline) := by
    intro due
    rw [put, mem_track, mem_untrack]
    rfl
  refine ⟨now_put store key data deadline, ?_, ?_, ?_⟩
  · rw [entries, alter_of_some]
  · intro due different
    rw [listed]
    simp [different]
  · intro indexed instant
    have found : (store.put key data deadline).deadline? key = deadline := by
      rw [deadline?, entry?, entries, Std.ExtTreeMap.getElem?_insert_self]
      rfl
    rw [listed, found, indexed instant]
    simp

/-- A value is changed under the deadline that the key has. -/
theorem alters_modify (store : Store) (key : String) (data : Data) :
    store.Alters key (some ⟨data, store.deadline? key⟩) (store.modify key data) := by
  have entries : (store.modify key data).entries =
      store.entries.insert key ⟨data, store.deadline? key⟩ := rfl
  refine ⟨rfl, ?_, fun _ _ => Iff.rfl, ?_⟩
  · rw [entries, alter_of_some]
  · intro indexed instant
    have kept : (store.modify key data).deadline? key = store.deadline? key := by
      rw [deadline?, entry?, entries, Std.ExtTreeMap.getElem?_insert_self]
      rfl
    rw [kept]
    exact indexed instant

theorem alters_erase (store : Store) (key : String) : store.Alters key none (store.erase key) := by
  cases found : store.entry? key with
  | none =>
      have same : store.erase key = store := by
        rw [erase, found]
      have alters := store.alters_same key
      rw [found] at alters
      rw [same]
      exact alters
  | some entry =>
      have erased : store.erase key =
          { store with entries := store.entries.erase key }.untrack key entry.deadline := by
        rw [erase, found]
      rw [erased]
      refine ⟨now_untrack _ _ _, ?_, ?_, ?_⟩
      · rw [entries_untrack, alter_of_none]
      · intro due different
        rw [mem_untrack]
        simp [different]
      · intro indexed instant
        have gone : ({ store with entries := store.entries.erase key }.untrack key
            entry.deadline).deadline? key = none := by
          rw [deadline?, entry?, entries_untrack, Std.ExtTreeMap.getElem?_erase_self]
          rfl
        have had : store.deadline? key = entry.deadline := by
          rw [deadline?, found]
          rfl
        have before := indexed instant
        rw [had] at before
        rw [gone, mem_untrack]
        simp only [reduceCtorEq, iff_false, true_and]
        exact fun both => both.2 (before.mp both.1)

end Altering

/-! ## Operations on one key -/

/-- An operation answers and alters its key as expected. -/
structure Performs (store : Store) (key : String) (result : StoreAnswer × Store)
    (expected : StoreAnswer × Option Entry) : Prop where
  answer : result.1 = expected.1
  alters : store.Alters key expected.2 result.2

section Operations

variable {store : Store} {key : String}

theorem performs_same {found : Option Entry} (present : store.entry? key = found)
    (answer : StoreAnswer) : store.Performs key (answer, store) (answer, found) := by
  subst present
  exact ⟨rfl, store.alters_same key⟩

theorem performs_put (answer : StoreAnswer) (data : Data) (deadline : Option Instant) :
    store.Performs key (answer, store.put key data deadline) (answer, some ⟨data, deadline⟩) :=
  ⟨rfl, store.alters_put key data deadline⟩

theorem performs_modify {found : Option Entry} (present : store.entry? key = found)
    (answer : StoreAnswer) (data : Data) :
    store.Performs key (answer, store.modify key data)
      (answer, KeyOperation.keepDeadline found data) := by
  subst present
  exact ⟨rfl, store.alters_modify key data⟩

theorem performs_erase (answer : StoreAnswer) :
    store.Performs key (answer, store.erase key) (answer, none) :=
  ⟨rfl, store.alters_erase key⟩

/-! ### Reading a key by its shape -/

theorem contains_eq (store : Store) (key : String) :
    store.contains key = (store.entry? key).isSome :=
  Std.ExtTreeMap.isSome_getElem?_eq_contains.symm

theorem text?_eq (store : Store) (key : String) :
    store.text? key =
      match store.entry? key with
      | none => .ok none
      | some ⟨.text octets, _⟩ => .ok (some octets)
      | some ⟨.hash _, _⟩ => .error .otherShape := by
  rw [text?, data?]
  rcases store.entry? key with _ | ⟨_ | _, deadline⟩ <;> rfl

theorem hash?_eq (store : Store) (key : String) :
    store.hash? key =
      match store.entry? key with
      | none => .ok none
      | some ⟨.hash fields, _⟩ => .ok (some fields)
      | some ⟨.text _, _⟩ => .error .otherShape := by
  rw [hash?, data?]
  rcases store.entry? key with _ | ⟨_ | _, deadline⟩ <;> rfl

/-! ### Texts and deadlines -/

theorem performs_setFor (octets : Bytes) (lifetime : Duration) :
    store.Performs key (store.performOnKey key (.setFor octets lifetime))
      (KeyOperation.effect (.setFor octets lifetime) store.now (store.entry? key)) := by
  rw [performOnKey, KeyOperation.effect, setFor?]
  cases store.now.after? lifetime with
  | none => exact performs_same rfl .overflow
  | some deadline => exact performs_put .done (.text octets) (some deadline)

theorem performs_expire (lifetime : Duration) :
    store.Performs key (store.performOnKey key (.expire lifetime))
      (KeyOperation.effect (.expire lifetime) store.now (store.entry? key)) := by
  rw [performOnKey, KeyOperation.effect, expire?]
  cases store.now.after? lifetime with
  | none => exact performs_same rfl .overflow
  | some deadline =>
      cases found : store.entry? key with
      | none => exact performs_same found (.holds false)
      | some entry =>
          dsimp only [Option.map_some]
          rw [put_of_found found]
          exact performs_put (.holds true) entry.data (some deadline)

theorem performs_append (suffix : Bytes) :
    store.Performs key (store.performOnKey key (.append suffix))
      (KeyOperation.effect (.append suffix) store.now (store.entry? key)) := by
  rw [performOnKey, KeyOperation.effect, append, text?_eq]
  rcases found : store.entry? key with _ | ⟨octets | fields, deadline⟩
  · exact performs_put (.counted suffix.length) (.text suffix) none
  · exact performs_modify found (.counted (octets ++ suffix).length) (.text (octets ++ suffix))
  · exact performs_same found (.failed .otherShape)

/-- The sum is stored where the octets of the key spell a number and the sum fits the type. -/
theorem performs_sum {found : Option Entry} {octets : Option Bytes}
    (present : store.entry? key = found) (read : store.text? key = .ok octets)
    (type : IntegerType) (increment : Int) :
    store.Performs key (store.performOnKey key (.add type increment))
      (match octets.elim (some 0) type.read? with
        | none => (.failed .notInteger, found)
        | some current =>
            if type.Holds (current + increment) then
              (.sum (current + increment),
                KeyOperation.keepDeadline found (.text (Decimal.text (current + increment))))
            else (.failed .overflow, found)) := by
  rw [performOnKey, add, read]
  dsimp only
  cases octets.elim (some 0) type.read? with
  | none => exact performs_same present (.failed .notInteger)
  | some current =>
      dsimp only
      split
      · exact performs_modify present (.sum (current + increment)) _
      · exact performs_same present (.failed .overflow)

theorem performs_add (type : IntegerType) (increment : Int) :
    store.Performs key (store.performOnKey key (.add type increment))
      (KeyOperation.effect (.add type increment) store.now (store.entry? key)) := by
  rw [KeyOperation.effect]
  rcases found : store.entry? key with _ | ⟨octets | fields, deadline⟩
  · exact performs_sum found (by rw [text?_eq, found]) type increment
  · exact performs_sum found (by rw [text?_eq, found]) type increment
  · rw [performOnKey, add, text?_eq, found]
    exact performs_same found (.failed .otherShape)

/-! ### Fields -/

theorem performs_setField (field value : Bytes) :
    store.Performs key (store.performOnKey key (.setField field value))
      (KeyOperation.effect (.setField field value) store.now (store.entry? key)) := by
  rw [performOnKey, KeyOperation.effect, setField, hash?_eq]
  rcases found : store.entry? key with _ | ⟨octets | fields, deadline⟩
  · exact performs_modify found (.isNew (!(∅ : Fields).contains field)) _
  · exact performs_same found (.failed .otherShape)
  · exact performs_modify found (.isNew (!fields.contains field)) _

/-- Removing fields one after the other leaves those that are not named. -/
theorem eraseFields_remaining (fields : Fields) (names : List Bytes) :
    (eraseFields fields names).2 = fields.filter fun field _ => !names.contains field := by
  induction names generalizing fields with
  | nil =>
      apply Std.ExtTreeMap.ext_getElem?
      intro field
      rw [eraseFields, Std.ExtTreeMap.getElem?_filter']
      cases fields[field]? <;> rfl
  | cons name rest inductionHypothesis =>
      rw [eraseFields, inductionHypothesis]
      apply Std.ExtTreeMap.ext_getElem?
      intro field
      rw [Std.ExtTreeMap.getElem?_filter', Std.ExtTreeMap.getElem?_filter',
        Std.ExtTreeMap.getElem?_erase]
      by_cases same : name = field
      · subst same
        cases fields[name]? <;> simp [Std.ReflCmp.compare_self]
      · have apart : compare name field ≠ .eq := fun equal => same (Std.compare_eq_iff_eq.mp equal)
        rw [if_neg apart, List.contains_cons, beq_eq_false_iff_ne.mpr (Ne.symm same),
          Bool.false_or]

/-- What is erased is counted by the presence of its key. -/
theorem size_erase_add [Ord Key] [Std.TransOrd Key] (map : Std.ExtTreeMap Key Value) (key : Key) :
    (map.erase key).size + (map.contains key).toNat = map.size := by
  rw [Std.ExtTreeMap.size_erase]
  cases present : map.contains key with
  | false => exact Nat.add_zero _
  | true =>
      have filled : map.size ≠ 0 := by
        intro none
        have empty : map = ∅ := Std.ExtTreeMap.eq_empty_iff_size_eq_zero.mpr none
        rw [empty, Std.ExtTreeMap.contains_empty] at present
        cases present
      exact Nat.succ_pred_eq_of_ne_zero filled

/-- Those that are removed are counted. A name that comes twice finds nothing the second time. -/
theorem eraseFields_count (fields : Fields) (names : List Bytes) :
    (eraseFields fields names).1 + (eraseFields fields names).2.size = fields.size := by
  induction names generalizing fields with
  | nil => exact Nat.zero_add _
  | cons name rest inductionHypothesis =>
      have later := inductionHypothesis (fields.erase name)
      have first := size_erase_add fields name
      rw [eraseFields]
      dsimp only
      omega

theorem performs_removeFields (names : List Bytes) :
    store.Performs key (store.performOnKey key (.removeFields names))
      (KeyOperation.effect (.removeFields names) store.now (store.entry? key)) := by
  rw [performOnKey, KeyOperation.effect, removeFields, hash?_eq]
  rcases found : store.entry? key with _ | ⟨octets | fields, deadline⟩
  · exact performs_same found (.counted 0)
  · exact performs_same found (.failed .otherShape)
  · have remaining := eraseFields_remaining fields names
    have count : (eraseFields fields names).1 =
        fields.size - (fields.filter fun field _ => !names.contains field).size := by
      have total := eraseFields_count fields names
      rw [remaining] at total
      omega
    dsimp only [KeyOperation.onHash]
    rw [count, remaining]
    split
    · exact performs_erase _
    · exact performs_modify found _ _

/-! ### All operations -/

/-- Every operation on a key answers and alters its key as it ought to. -/
theorem performs_onKey (store : Store) (key : String) (operation : KeyOperation) :
    store.Performs key (store.performOnKey key operation)
      (operation.effect store.now (store.entry? key)) := by
  cases operation with
  | set octets => exact performs_put .done (.text octets) none
  | setFor octets lifetime => exact performs_setFor octets lifetime
  | replace octets => exact performs_modify rfl .done (.text octets)
  | remove => exact performs_erase (.removed (store.entry? key))
  | expire lifetime => exact performs_expire lifetime
  | append suffix => exact performs_append suffix
  | add type increment => exact performs_add type increment
  | setField field value => exact performs_setField field value
  | removeFields names => exact performs_removeFields names
  | readText =>
      rw [performOnKey, KeyOperation.effect, text?_eq]
      rcases found : store.entry? key with _ | ⟨_ | _, deadline⟩ <;> exact performs_same found _
  | readData => exact performs_same rfl (.data (store.data? key))
  | isPresent =>
      rw [performOnKey, KeyOperation.effect, contains_eq]
      exact performs_same rfl (.holds (store.entry? key).isSome)
  | readRemaining => exact performs_same rfl (.remaining (store.remaining? key))
  | readField name =>
      rw [performOnKey, KeyOperation.effect, field?, hash?_eq]
      rcases found : store.entry? key with _ | ⟨_ | _, deadline⟩ <;> exact performs_same found _
  | readFields =>
      rw [performOnKey, KeyOperation.effect, fields, hash?_eq]
      rcases found : store.entry? key with _ | ⟨_ | _, deadline⟩ <;> exact performs_same found _

end Operations

/-- Every operation keeps the index in step. -/
theorem Indexed.perform {store : Store} (indexed : store.Indexed) (operation : Operation) :
    (store.perform operation).2.Indexed := by
  cases operation with
  | onKey key operation => exact (performs_onKey store key operation).alters.indexed indexed
  | clear =>
      intro key deadline
      simp [Store.perform, Store.clear, deadline?, entry?]
  | size | keys => exact indexed

/-- Every operation answers and changes the keys as on a plain map with deadlines. -/
theorem perform_eq (store : Store) (operation : Operation) :
    (store.perform operation).1 = ((Reference.ofStore store).perform operation).1 ∧
      Reference.ofStore (store.perform operation).2 =
        ((Reference.ofStore store).perform operation).2 := by
  cases operation with
  | onKey key operation =>
      obtain ⟨answer, alters⟩ := performs_onKey store key operation
      refine ⟨answer, ?_⟩
      change (⟨_, _⟩ : Reference) = _
      rw [Store.perform, alters.now, alters.entries]
      rfl
  | clear | size | keys => exact ⟨rfl, rfl⟩

end Store

end RespServer
