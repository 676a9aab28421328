import RespServer.Proofs.Asking
import RespServer.Proofs.Operations

/-!
Contract: the fields of hashes, and what is counted of them.

Owns:
- `NoEmptyHash`, and that it holds of every store that a server ever has;
- `fieldsOf`, the fields of a key, and the fields that a list of pairs leaves of others;
- `SetsFields` and `RemovesFields`, what setting and removing fields makes of a key and counts, and
  that the commands for it do so.

Does not own: the removal of fields one after the other, whose count and rest are those of all names
at once (`Proofs.DeadlineIndex`).

Fields are counted while they are set or removed, one by one. That the count is the difference of two
sizes is an induction over the list in which a repeated field is new only once.
-/

namespace RespServer

/-! ## No hash is empty -/

namespace KeyOperation

/-- An entry that is no hash without fields. -/
def Filled (found : Option Entry) : Prop :=
  found.map Entry.data ≠ some (.hash ∅)

theorem filled_none : Filled none :=
  nofun

theorem filled_text (octets : Bytes) (deadline : Option Instant) :
    Filled (some ⟨.text octets, deadline⟩) :=
  nofun

theorem filled_hash {fields : Fields} (nonempty : fields ≠ ∅) (deadline : Option Instant) :
    Filled (some ⟨.hash fields, deadline⟩) := by
  intro empty
  cases empty
  exact nonempty rfl

theorem filled_onText {found : Option Entry}
    {change : Option Bytes → StoreAnswer × Option Entry} (filled : Filled found)
    (changed : ∀ octets, Filled (change octets).2) : Filled (onText found change).2 := by
  rcases found with _ | ⟨octets | fields, deadline⟩
  · exact changed none
  · exact changed (some octets)
  · exact filled

theorem filled_onHash {found : Option Entry}
    {change : Option Fields → StoreAnswer × Option Entry} (filled : Filled found)
    (changed : ∀ fields, Filled (change fields).2) : Filled (onHash found change).2 := by
  rcases found with _ | ⟨octets | fields, deadline⟩
  · exact changed none
  · exact filled
  · exact changed (some fields)

/-- No operation leaves a hash without fields where there was none. -/
theorem filled_effect (operation : KeyOperation) (now : Instant) {found : Option Entry}
    (filled : Filled found) : Filled (operation.effect now found).2 := by
  cases operation with
  | set octets | replace octets => exact filled_text octets _
  | remove => exact filled_none
  | setFor octets lifetime =>
      rw [effect]
      split
      · exact filled
      · exact filled_text octets _
  | expire lifetime =>
      rw [effect]
      split
      · exact filled
      · cases found with
        | none => exact filled
        | some entry => exact filled
  | append suffix => exact filled_onText filled fun octets => filled_text _ _
  | add type increment =>
      refine filled_onText filled fun octets => ?_
      split
      · exact filled
      · split
        · exact filled_text _ _
        · exact filled
  | setField field value =>
      exact filled_onHash filled fun fields => filled_hash Std.ExtTreeMap.insert_ne_empty _
  | removeFields names =>
      refine filled_onHash filled fun fields => ?_
      cases fields with
      | none => exact filled
      | some fields =>
          dsimp only
          split
          · exact filled_none
          · rename_i remains
            exact filled_hash (fun empty => remains (Std.ExtTreeMap.isEmpty_iff.mpr empty)) _
  | readText => exact filled_onText filled fun _ => filled
  | readField name => exact filled_onHash filled fun _ => filled
  | readFields => exact filled_onHash filled fun _ => filled
  | readData | isPresent | readRemaining => exact filled

end KeyOperation

namespace Store

/-- No key holds a hash without fields. -/
def NoEmptyHash (store : Store) : Prop :=
  ∀ key, store.data? key ≠ some (.hash ∅)

theorem noEmptyHash_empty : empty.NoEmptyHash :=
  fun _ => nofun

theorem NoEmptyHash.perform {store : Store} (filled : store.NoEmptyHash)
    (operation : Operation) : (store.perform operation).2.NoEmptyHash := by
  cases operation with
  | onKey key operation =>
      have alters := (performs_onKey store key operation).alters
      intro other
      by_cases same : other = key
      · subst same
        change (Store.entry? _ other).map Entry.data ≠ _
        rw [Store.perform, alters.entry_self]
        exact KeyOperation.filled_effect operation store.now (filled other)
      · change (Store.entry? _ other).map Entry.data ≠ _
        rw [Store.perform, alters.entry_other same]
        exact filled other
  | clear => exact noEmptyHash_empty
  | size | keys => exact filled

/-- A sweep only removes. -/
theorem NoEmptyHash.sweep {store : Store} (filled : store.NoEmptyHash) :
    store.sweep.NoEmptyHash := by
  intro key
  have left : store.sweep.entry? key = _ := (removeEach_spec store.expired store).2.1 key
  rw [data?, left]
  split
  · intro same
    cases same
  · exact filled key

theorem invariant_noEmptyHash : Invariant NoEmptyHash :=
  ⟨fun operation filled => filled.perform operation, NoEmptyHash.sweep, fun _ filled => filled⟩

/-- Where no hash is empty, a key is a hash if it has a field. -/
theorem NoEmptyHash.isHash_iff {store : Store} (filled : store.NoEmptyHash) (key : String) :
    (∃ fields, store.data? key = some (.hash fields)) ↔
      ∃ field value, store.field? key field = .ok (some value) := by
  constructor
  · rintro ⟨fields, isHash⟩
    have nonempty : fields ≠ ∅ := fun empty => filled key (empty ▸ isHash)
    obtain ⟨field, member⟩ := Classical.not_forall_not.mp
      (mt Std.ExtTreeMap.eq_empty_iff_forall_not_mem.mpr nonempty)
    refine ⟨field, fields[field], ?_⟩
    rw [field?, hash?, isHash]
    exact congrArg Except.ok (Std.ExtTreeMap.getElem?_eq_some_getElem member)
  · rintro ⟨field, value, found⟩
    unfold field? hash? at found
    cases present : store.data? key with
    | none =>
        rw [present] at found
        cases found
    | some data =>
        cases data with
        | hash fields => exact ⟨fields, rfl⟩
        | text octets =>
            rw [present] at found
            cases found

/-! ## The fields of a key -/

/-- The fields of a key; none if it is missing or of another shape. -/
def fieldsOf (store : Store) (key : String) : Fields :=
  match store.data? key with
  | some (.hash fields) => fields
  | _ => ∅

theorem fieldsOf_of_hash? {store : Store} {key : String} {found : Option Fields}
    (isHash : store.hash? key = .ok found) : store.fieldsOf key = found.getD ∅ := by
  unfold hash? at isHash
  unfold fieldsOf
  split at isHash <;> rename_i present <;> cases isHash <;> rw [present] <;> rfl

theorem fieldsOf_of_entry {store : Store} {key : String} {fields : Fields}
    {deadline : Option Instant} (found : store.entry? key = some ⟨.hash fields, deadline⟩) :
    store.fieldsOf key = fields := by
  rw [fieldsOf, data?, found]
  rfl

theorem fieldsOf_of_missing {store : Store} {key : String} (missing : store.entry? key = none) :
    store.fieldsOf key = ∅ := by
  rw [fieldsOf, data?, missing]
  rfl

/-! ## Setting fields -/

/-- Fields after others were set, the first pair first. -/
def insertEach (fields : Fields) (pairs : List (Bytes × Bytes)) : Fields :=
  pairs.foldl (fun fields pair => fields.insert pair.1 pair.2) fields

theorem getElem?_insertEach_of_unlisted {pairs : List (Bytes × Bytes)} {field : Bytes}
    (unlisted : field ∉ pairs.map Prod.fst) (fields : Fields) :
    (insertEach fields pairs)[field]? = fields[field]? := by
  induction pairs generalizing fields with
  | nil => rfl
  | cons pair rest inductionHypothesis =>
      obtain ⟨different, later⟩ := List.ne_and_not_mem_of_not_mem_cons unlisted
      have apart : compare pair.1 field ≠ .eq :=
        fun equal => different (Std.compare_eq_iff_eq.mp equal).symm
      rw [insertEach, List.foldl_cons, ← insertEach, inductionHypothesis later,
        Std.ExtTreeMap.getElem?_insert, if_neg apart]

/-- A field has the last value that is listed for it. -/
theorem getElem?_insertEach_of_last (fields : Fields) (front : List (Bytes × Bytes))
    {back : List (Bytes × Bytes)} {field : Bytes} (value : Bytes)
    (last : field ∉ back.map Prod.fst) :
    (insertEach fields (front ++ (field, value) :: back))[field]? = some value := by
  rw [insertEach, List.foldl_append, List.foldl_cons, ← insertEach,
    getElem?_insertEach_of_unlisted last, Std.ExtTreeMap.getElem?_insert_self]

/-- What setting fields makes of a key, and how many fields it counts. -/
structure SetsFields (before : Store) (key : String) (pairs : List (Bytes × Bytes)) (added : Nat)
    (after : Store) : Prop where
  counted : (before.fieldsOf key).size + added = (after.fieldsOf key).size
  listed : ∀ (front back : List (Bytes × Bytes)) (field value : Bytes),
    pairs = front ++ (field, value) :: back → field ∉ back.map Prod.fst →
      (after.fieldsOf key)[field]? = some value
  unlisted : ∀ field, field ∉ pairs.map Prod.fst →
    (after.fieldsOf key)[field]? = (before.fieldsOf key)[field]?
  kept : after.entry? key = some ⟨.hash (after.fieldsOf key), before.deadline? key⟩
  others : ∀ other, other ≠ key → after.entry? other = before.entry? other

theorem setsFields_of_alters {before after : Store} {key : String}
    {pairs : List (Bytes × Bytes)} {added : Nat}
    (alters : before.Alters key
      (some ⟨.hash (insertEach (before.fieldsOf key) pairs), before.deadline? key⟩) after)
    (counted : (before.fieldsOf key).size + added =
      (insertEach (before.fieldsOf key) pairs).size) :
    before.SetsFields key pairs added after := by
  have fields := fieldsOf_of_entry alters.entry_self
  constructor
  · rw [fields]
    exact counted
  · rintro front back field value rfl last
    rw [fields]
    exact getElem?_insertEach_of_last _ front value last
  · intro field unlisted
    rw [fields]
    exact getElem?_insertEach_of_unlisted unlisted _
  · rw [fields]
    exact alters.entry_self
  · exact fun other different => alters.entry_other different

/-- The first field of a list is set and counted if it is new, then the others are. -/
theorem setFields_cons_of_hash? {store : Store} {key : String} {found : Option Fields}
    (isHash : store.hash? key = .ok found) (pair : Bytes × Bytes)
    (others : List (Bytes × Bytes)) :
    store.setFields key (pair :: others) =
      let later := (store.modify key
        (.hash ((store.fieldsOf key).insert pair.1 pair.2))).setFields key others
      (later.1.map (· + (!(store.fieldsOf key).contains pair.1).toNat), later.2) := by
  rw [setFields, setField, isHash, fieldsOf_of_hash? isHash]

theorem size_insertEach_cons (fields : Fields) (pair : Bytes × Bytes)
    {others : List (Bytes × Bytes)} {added : Nat}
    (counted : (fields.insert pair.1 pair.2).size + added =
      (insertEach (fields.insert pair.1 pair.2) others).size) :
    fields.size + (added + (!fields.contains pair.1).toNat) =
      (insertEach fields (pair :: others)).size := by
  have first : (fields.insert pair.1 pair.2).size =
      fields.size + (!fields.contains pair.1).toNat := by
    rw [Std.ExtTreeMap.size_insert]
    cases fields.contains pair.1 <;> rfl
  rw [first] at counted
  change _ = (insertEach (fields.insert pair.1 pair.2) others).size
  omega

/-- Where there is a hash, fields are set one after the other and each that is new is counted. -/
theorem setFields_of_entry {store : Store} {key : String} {fields : Fields}
    {deadline : Option Instant} (found : store.entry? key = some ⟨.hash fields, deadline⟩)
    (pairs : List (Bytes × Bytes)) :
    ∃ added, (store.setFields key pairs).1 = .ok added ∧
      store.Alters key (some ⟨.hash (insertEach fields pairs), deadline⟩)
        (store.setFields key pairs).2 ∧
      fields.size + added = (insertEach fields pairs).size := by
  induction pairs generalizing store fields with
  | nil =>
      refine ⟨0, rfl, ?_, rfl⟩
      rw [insertEach, List.foldl_nil, ← found]
      exact store.alters_same key
  | cons pair rest inductionHypothesis =>
      have isHash : store.hash? key = .ok (some fields) := by
        rw [hash?_eq, found]
      have sameDeadline : store.deadline? key = deadline := by
        rw [deadline?, found]
        rfl
      have first := store.alters_modify key (.hash (fields.insert pair.1 pair.2))
      rw [sameDeadline] at first
      obtain ⟨added, done, later, counted⟩ := inductionHypothesis first.entry_self
      refine ⟨_, ?_, ?_, size_insertEach_cons fields pair counted⟩
      · rw [setFields_cons_of_hash? isHash, fieldsOf_of_entry found]
        dsimp only
        rw [done]
        rfl
      · rw [setFields_cons_of_hash? isHash, fieldsOf_of_entry found]
        exact first.trans later

/-- At least one field is set, so that a missing key is created. -/
theorem setsFields_setFields {store : Store} {key : String} {found : Option Fields}
    (isHash : store.hash? key = .ok found) (pair : Bytes × Bytes)
    (others : List (Bytes × Bytes)) :
    ∃ added after, store.setFields key (pair :: others) = (.ok added, after) ∧
      store.SetsFields key (pair :: others) added after := by
  have first := store.alters_modify key (.hash ((store.fieldsOf key).insert pair.1 pair.2))
  obtain ⟨added, done, later, counted⟩ := setFields_of_entry first.entry_self others
  refine ⟨_, _, ?_, setsFields_of_alters (first.trans later) (size_insertEach_cons _ _ counted)⟩
  rw [setFields_cons_of_hash? isHash]
  dsimp only
  rw [done]
  rfl

/-! ## Removing fields -/

/-- What removing fields makes of a key, and how many fields it counts. -/
structure RemovesFields (before : Store) (key : String) (names : List Bytes) (removed : Nat)
    (after : Store) : Prop where
  counted : (after.fieldsOf key).size + removed = (before.fieldsOf key).size
  listed : ∀ field ∈ names, (after.fieldsOf key)[field]? = none
  unlisted : ∀ field, field ∉ names →
    (after.fieldsOf key)[field]? = (before.fieldsOf key)[field]?
  kept : after.fieldsOf key ≠ ∅ →
    after.entry? key = some ⟨.hash (after.fieldsOf key), before.deadline? key⟩
  gone : after.entry? key = none ↔ after.fieldsOf key = ∅
  forgotten : after.fieldsOf key = ∅ → ∀ due ∈ after.deadlines, due.key ≠ key
  others : ∀ other, other ≠ key → after.entry? other = before.entry? other

theorem removesFields_of_alters {before after : Store} {key : String} {names : List Bytes}
    {removed : Nat} (indexed : before.Indexed)
    (alters : before.Alters key
      (if (eraseFields (before.fieldsOf key) names).2.isEmpty then none
        else some ⟨.hash (eraseFields (before.fieldsOf key) names).2, before.deadline? key⟩) after)
    (counted : removed = (eraseFields (before.fieldsOf key) names).1) :
    before.RemovesFields key names removed after := by
  have total := eraseFields_count (before.fieldsOf key) names
  have lookup : ∀ field, (eraseFields (before.fieldsOf key) names).2[field]? =
      if field ∈ names then none else (before.fieldsOf key)[field]? := by
    intro field
    rw [eraseFields_remaining, Std.ExtTreeMap.getElem?_filter']
    cases (before.fieldsOf key)[field]? <;> by_cases listed : field ∈ names <;> simp [listed]
  generalize (eraseFields (before.fieldsOf key) names).2 = remaining at alters total lookup
  have own := alters.entry_self
  have fields : after.fieldsOf key = remaining := by
    split at own
    · rw [fieldsOf_of_missing own]
      exact (Std.ExtTreeMap.isEmpty_iff.mp ‹_›).symm
    · exact fieldsOf_of_entry own
  have gone : after.entry? key = none ↔ remaining = ∅ := by
    rw [own, ← Std.ExtTreeMap.isEmpty_iff]
    split <;> simp [*]
  constructor
  · rw [fields, counted, Nat.add_comm]
    exact total
  · intro field listed
    rw [fields, lookup, if_pos listed]
  · intro field unlisted
    rw [fields, lookup, if_neg unlisted]
  · intro nonempty
    rw [fields] at nonempty ⊢
    rw [own, if_neg fun empty => nonempty (Std.ExtTreeMap.isEmpty_iff.mp empty)]
  · rw [fields]
    exact gone
  · intro empty due listed same
    rw [fields] at empty
    have deadline := (alters.indexed indexed).mem_iff.mp listed
    rw [same, deadline?, gone.mpr empty] at deadline
    cases deadline
  · exact fun other different => alters.entry_other different

theorem removesFields_removeFields {store : Store} (indexed : store.Indexed) {key : String}
    {found : Option Fields} (isHash : store.hash? key = .ok found) (names : List Bytes) :
    ∃ removed after, store.removeFields key names = .ok (removed, after) ∧
      store.RemovesFields key names removed after := by
  have own := fieldsOf_of_hash? isHash
  rw [removeFields, isHash]
  cases found with
  | none =>
      have total := eraseFields_count (store.fieldsOf key) names
      have empty : store.fieldsOf key = ∅ := own
      have missing : store.entry? key = none := by
        rw [hash?_eq] at isHash
        split at isHash
        · assumption
        · cases isHash
        · cases isHash
      rw [empty, Std.ExtTreeMap.size_empty, ← empty] at total
      have nothing : (eraseFields (store.fieldsOf key) names).2 = ∅ :=
        Std.ExtTreeMap.eq_empty_iff_size_eq_zero.mpr (Nat.eq_zero_of_add_eq_zero_left total)
      refine ⟨0, store, rfl, removesFields_of_alters indexed ?_ ?_⟩
      · rw [if_pos (Std.ExtTreeMap.isEmpty_iff.mpr nothing), ← missing]
        exact store.alters_same key
      · exact (Nat.eq_zero_of_add_eq_zero_right total).symm
  | some fields =>
      have same : store.fieldsOf key = fields := own
      rw [← same]
      dsimp only
      split
      · refine ⟨_, _, rfl, removesFields_of_alters indexed ?_ rfl⟩
        rw [if_pos ‹_›]
        exact store.alters_erase key
      · refine ⟨_, _, rfl, removesFields_of_alters indexed ?_ rfl⟩
        rw [if_neg ‹_›]
        exact store.alters_modify key _

end Store

/-! ## Commands -/

open Request

namespace World

/-- In every store that a server ever has, no hash is empty, so that the keys that are hashes are
those that have a field. There, a command that sets fields of a missing key or a hash replies how
many fields are new, and each field has its last value; one that removes fields replies how many
there were, and the key goes with its deadline exactly if no field is left. -/
theorem hashes_are_kept_in_order (password : Option Bytes) (allowed : Bool)
    (events : List Event) (authenticated : Bool) :
    let scene : Scene := ⟨((start password allowed).after events).services, authenticated⟩
    let store := scene.services.store
    store.NoEmptyHash ∧
      (∀ key, (∃ fields, store.data? key = some (.hash fields)) ↔
        ∃ field value, store.field? key field = .ok (some value)) ∧
      ∀ key found, store.hash? key = .ok found →
        (∀ pair others, ∃ added after,
          (CommandKind.hset.command
              (Bytes.ofText key :: fieldsAndValues (pair :: others))).execute scene =
            (.reply (.count added), scene.withStore after) ∧
          store.SetsFields key (pair :: others) added after) ∧
        ∀ name others, ∃ removed after,
          (CommandKind.hdel.command (Bytes.ofText key :: name :: others)).execute scene =
            (.reply (.count removed), scene.withStore after) ∧
          store.RemovesFields key (name :: others) removed after := by
  intro scene store
  have filled : store.NoEmptyHash :=
    holds_of_empty Store.invariant_noEmptyHash Store.noEmptyHash_empty password allowed events
  have indexed : store.Indexed :=
    holds_of_empty Store.invariant_indexed Store.indexed_empty password allowed events
  refine ⟨filled, filled.isHash_iff, fun key found isHash => ⟨fun pair others => ?_,
    fun name others => ?_⟩⟩
  · obtain ⟨added, after, done, sets⟩ := Store.setsFields_setFields isHash pair others
    refine ⟨added, after, ?_, sets⟩
    rw [Command.execute_of_asks (.hset key pair others), run, runSetFields, done]
    rfl
  · obtain ⟨removed, after, done, removes⟩ :=
      Store.removesFields_removeFields indexed isHash (name :: others)
    refine ⟨removed, after, ?_, removes⟩
    rw [Command.execute_of_asks (.hdel key name others), run, done]
    rfl

/-- A field that is listed twice has its last value and is counted once; it is removed once. -/
theorem field_listed_twice :
    let events : List Event :=
      [.connect, .receive 0 (CommandKind.hset.command (["hash", "one", "1"].map Bytes.ofText)),
        .receive 0 (CommandKind.expire.command (["hash", "100"].map Bytes.ofText))]
    let scene : Scene := ⟨((start none false).after events).services, true⟩
    let store := scene.services.store
    let two := Bytes.ofText "two"
    let pairs := [(two, [49]), (Bytes.ofText "one", [50]), (two, [51])]
    let names := [Bytes.ofText "one", Bytes.ofText "one"]
    (store.hash? "hash").isOk = true ∧
      (∃ added after,
        (CommandKind.hset.command
            (Bytes.ofText "hash" :: fieldsAndValues pairs)).execute scene =
          (.reply (.count added), scene.withStore after) ∧
        (store.fieldsOf "hash").size + added = (after.fieldsOf "hash").size ∧
        (after.fieldsOf "hash")[two]? = some [51]) ∧
      ∃ removed after,
        (CommandKind.hdel.command (Bytes.ofText "hash" :: names)).execute scene =
          (.reply (.count removed), scene.withStore after) ∧
        (after.fieldsOf "hash").size + removed = (store.fieldsOf "hash").size := by
  intro events scene store two pairs names
  have present : (store.hash? "hash").isOk = true := by decide +kernel
  obtain ⟨-, -, commands⟩ := hashes_are_kept_in_order none false events true
  cases isHash : store.hash? "hash" with
  | error cause =>
      rw [isHash] at present
      cases present
  | ok found =>
      obtain ⟨sets, removes⟩ := commands "hash" found isHash
      obtain ⟨added, after, done, spec⟩ :=
        sets (two, [49]) [(Bytes.ofText "one", [50]), (two, [51])]
      obtain ⟨removed, left, gone, rest⟩ := removes (Bytes.ofText "one") [Bytes.ofText "one"]
      refine ⟨rfl, ⟨added, after, done, spec.counted, ?_⟩, removed, left, gone, rest.counted⟩
      exact spec.listed [(two, [49]), (Bytes.ofText "one", [50])] [] two [51] rfl
        List.not_mem_nil

end World

end RespServer
