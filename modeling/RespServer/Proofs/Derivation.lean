import Mathlib.Algebra.GroupWithZero.Nat
import RespServer.Proofs.Asking
import RespServer.Proofs.Discipline

/-!
Contract: commands that could be said in terms of others.

Owns:
- what single commands on a key yield when they are carried out at once, one equation for each;
- commands on lists of keys as the commands on their elements, one after the other;
- `TextsAgree`, `NumbersAgree` and `FieldsAgree`, the laws between commands in every session.

Does not own: gates and queues, which treat all commands alike.

Each law compares two ways through the store. So a command is first brought into the form of an
outcome with a store; what is left of a law is then one about stores.
-/

namespace RespServer

open Request

/-! ## The order of octets -/

/-- Octets are compared as lists: the first octet that differs decides, else the length. -/
theorem Bytes.compare_eq_lt_iff {first second : Bytes} :
    compare first second = .lt ↔ first < second := by
  rw [List.compare_eq_compareLex]
  induction first generalizing second with
  | nil => cases second <;> simp [List.compareLex_nil_nil, List.compareLex_nil_cons]
  | cons octet rest inductionHypothesis =>
      cases second with
      | nil => simp [List.compareLex_cons_nil]
      | cons other others =>
          rw [List.compareLex_cons_cons, Ordering.then_eq_lt, inductionHypothesis,
            Std.compare_eq_lt, Std.compare_eq_iff_eq, List.cons_lt_cons_iff]

/-! ## Stores -/

namespace Store

theorem erase_of_missing {store : Store} {key : String} (missing : store.entry? key = none) :
    store.erase key = store := by
  rw [erase, missing]

theorem missing_of_text? {store : Store} {key : String} (read : store.text? key = .ok none) :
    store.entry? key = none := by
  rw [text?_eq] at read
  split at read
  · assumption
  · cases read
  · cases read

theorem text?_of_entry {store : Store} {key : String} {octets : Bytes}
    {deadline : Option Instant} (found : store.entry? key = some ⟨.text octets, deadline⟩) :
    store.text? key = .ok (some octets) := by
  rw [text?_eq, found]

theorem size_erase (store : Store) (key : String) :
    (store.erase key).size + (store.contains key).toNat = store.size := by
  have entries := (store.alters_erase key).entries
  rw [alter_of_none] at entries
  rw [size, entries]
  exact size_erase_add store.entries key

/-- The octets of a key after others were appended to them. -/
theorem append_of_text? {store : Store} {key : String} {found : Option Bytes}
    (read : store.text? key = .ok found) (suffix : Bytes) :
    ∃ after, store.append key suffix = .ok ((found.getD [] ++ suffix).length, after) ∧
      after.text? key = .ok (some (found.getD [] ++ suffix)) := by
  rw [append, read]
  cases found with
  | none => exact ⟨_, rfl, text?_of_entry (store.alters_put key (.text suffix) none).entry_self⟩
  | some octets =>
      exact ⟨_, rfl, text?_of_entry (store.alters_modify key (.text (octets ++ suffix))).entry_self⟩

end Store

namespace Work

/-- As many keys are removed as there are distinct ones among those listed. -/
theorem deleteEach_distinct (keys : List String) (store : Store) :
    ∃ distinct : List String, distinct.Nodup ∧
      (∀ key, key ∈ distinct ↔ key ∈ keys ∧ store.contains key = true) ∧
      (deleteEach store keys).1 = distinct.length := by
  induction keys generalizing store with
  | nil => exact ⟨[], List.nodup_nil, by simp, rfl⟩
  | cons first rest inductionHypothesis =>
      obtain ⟨distinct, nodup, members, count⟩ := inductionHypothesis (store.erase first)
      have alters := store.alters_erase first
      have present : ∀ key, (store.erase first).contains key = true ↔
          key ≠ first ∧ store.contains key = true := by
        intro key
        rw [Store.contains_eq, Store.contains_eq]
        by_cases same : key = first
        · subst same
          simp [alters.entry_self]
        · simp [alters.entry_other same, same]
      have absent : first ∉ distinct := fun listed =>
        ((present first).mp ((members first).mp listed).2).1 rfl
      have counted : (deleteEach store (first :: rest)).1 =
          distinct.length + (store.contains first).toNat := by
        rw [← count]
        rfl
      cases found : store.contains first with
      | true =>
          refine ⟨first :: distinct, List.nodup_cons.mpr ⟨absent, nodup⟩, fun key => ?_, ?_⟩
          · rw [List.mem_cons, List.mem_cons, members, present]
            by_cases same : key = first
            · simp [same, found]
            · simp [same]
          · rw [counted, found]
            rfl
      | false =>
          refine ⟨distinct, nodup, fun key => ?_, ?_⟩
          · rw [List.mem_cons, members, present]
            by_cases same : key = first
            · simp [same, found]
            · simp [same]
          · rw [counted, found]
            rfl

/-- Every key that is removed is one fewer. -/
theorem deleteEach_size (keys : List String) (store : Store) :
    Store.size (deleteEach store keys).2 + (deleteEach store keys).1 = store.size := by
  induction keys generalizing store with
  | nil => rfl
  | cons key rest inductionHypothesis =>
      have later := inductionHypothesis (store.erase key)
      have first := store.size_erase key
      change Store.size (deleteEach (store.erase key) rest).2 +
        ((deleteEach (store.erase key) rest).1 + (store.contains key).toNat) = _
      omega

/-- The last pair of a key decides what is stored. -/
theorem text?_storeEach_of_last (store : Store) (front : List (String × Bytes)) {key : String}
    (value : Bytes) {back : List (String × Bytes)} (last : key ∉ back.map Prod.fst) :
    Store.text? ((front ++ (key, value) :: back).foldl
      (fun store pair => store.set pair.1 pair.2) store) key = .ok (some value) := by
  rw [List.foldl_append, List.foldl_cons, Store.text?_eq, lookup_storeEach_of_absent last,
    Store.set, (Store.alters_put _ key (.text value) none).entry_self]

end Work

/-! ## Single commands -/

@[simp] theorem Request.isAtOnce_outcomeOf (reading : Except Failure α) (reply : α → Frame) :
    (outcomeOf reading reply).isAtOnce = true := by
  cases reading <;> rfl

namespace Session

section Single

variable (session : Session) (key : String)

theorem ask_get : session.ask .get [Bytes.ofText key] =
    (Request.outcomeOf (session.services.store.text? key) octetsOrNull, session) :=
  ask_of_reading (.get key) rfl (isAtOnce_outcomeOf _ _)

theorem ask_strlen : session.ask .strlen [Bytes.ofText key] =
    (Request.outcomeOf (session.services.store.text? key) fun octets =>
      .count (octets.elim 0 List.length), session) :=
  ask_of_reading (.strlen key) rfl (isAtOnce_outcomeOf _ _)

theorem ask_hget (field : Bytes) : session.ask .hget [Bytes.ofText key, field] =
    (Request.outcomeOf (session.services.store.field? key field) octetsOrNull, session) :=
  ask_of_reading (.hget key field) rfl (isAtOnce_outcomeOf _ _)

theorem ask_hgetall : session.ask .hgetall [Bytes.ofText key] =
    (Request.outcomeOf (session.services.store.fields key) fun pairs =>
      .array (pairs.flatMap fun pair => [.bulk pair.1, .bulk pair.2]), session) :=
  ask_of_reading (.hgetall key) rfl (isAtOnce_outcomeOf _ _)

theorem ask_dbsize : session.ask .dbsize [] =
    (.reply (.count session.services.store.size), session) :=
  ask_of_work .dbsize rfl

theorem ask_exist (others : List String) :
    session.ask .exist ((key :: others).map Bytes.ofText) =
      (.reply (.count ((key :: others).countP session.services.store.contains)), session) :=
  ask_of_reading (.exist key others) rfl rfl

theorem ask_set (value : Bytes) : session.ask .set [Bytes.ofText key, value] =
    (.reply .ok, session.withStore (session.services.store.set key value)) :=
  ask_of_run (.set key value fun _ => rfl) rfl rfl

theorem ask_mget (others : List String) :
    session.ask .mget ((key :: others).map Bytes.ofText) =
      (.reply (.array ((key :: others).map (Work.valueOrNull session.services.store))), session) :=
  ask_of_work (.mget key others) rfl

theorem ask_mset (pair : String × Bytes) (others : List (String × Bytes)) :
    session.ask .mset (keysAndValues (pair :: others)) =
      (.reply .ok, session.withStore ((pair :: others).foldl
        (fun store pair => store.set pair.1 pair.2) session.services.store)) :=
  ask_of_work (.mset pair others) rfl

theorem ask_del (others : List String) :
    session.ask .del ((key :: others).map Bytes.ofText) =
      (.reply (.count (Work.deleteEach session.services.store (key :: others)).1),
        session.withStore (Work.deleteEach session.services.store (key :: others)).2) :=
  ask_of_work (.del key others) rfl

/-- A list of one key. -/
theorem ask_del_single : session.ask .del [Bytes.ofText key] =
    (.reply (.count (session.services.store.contains key).toNat),
      session.withStore (session.services.store.erase key)) := by
  have single := ask_del session key []
  rw [Work.deleteEach, Work.deleteEach] at single
  dsimp only at single
  rw [Nat.zero_add] at single
  exact single

/-- Two commands that ask for requests with one result. -/
theorem ask_congr {kind other : CommandKind} {arguments others : List Bytes}
    {request same : Request} (asks : Asks kind arguments request)
    (alike : Asks other others same)
    (equal : request.run session.scene = same.run session.scene) :
    session.ask kind arguments = session.ask other others := by
  have executed : (kind.command arguments).execute session.scene =
      (other.command others).execute session.scene := by
    rw [Command.execute_of_asks asks, Command.execute_of_asks alike, equal]
  rw [scene] at executed
  rw [ask, ask, performAtOnce, performAtOnce, executed]

end Single

/-! ## Lists -/

/-- Storing pairs one by one. -/
theorem setEach_eq (pairs : List (String × Bytes)) (session : Session) :
    pairs.foldl (fun reached pair => (reached.ask .set [Bytes.ofText pair.1, pair.2]).2) session =
      session.withStore
        (pairs.foldl (fun store pair => store.set pair.1 pair.2) session.services.store) := by
  induction pairs generalizing session with
  | nil => rfl
  | cons pair rest inductionHypothesis =>
      rw [List.foldl_cons, ask_set, inductionHypothesis]
      rfl

/-- Removing keys one by one. -/
theorem delEach_eq (keys : List String) (session : Session) :
    keys.foldl (fun reached key => (reached.ask .del [Bytes.ofText key]).2) session =
      session.withStore (Work.deleteEach session.services.store keys).2 := by
  induction keys generalizing session with
  | nil => rfl
  | cons key rest inductionHypothesis =>
      rw [List.foldl_cons, ask_del_single, inductionHypothesis]
      rfl

/-! ## The laws -/

/-- The frame of a reply, or the null value of a failure. -/
def frameOrNull : Outcome → Frame
  | .reply frame => frame
  | .deferred _ | .failed _ | .aborted _ => .null

/-- Commands on texts and on lists of keys. -/
structure TextsAgree (session : Session) : Prop where
  /-- Storing pairs is storing each of them in order. -/
  mset : ∀ pair others,
    session.ask .mset (keysAndValues (pair :: others)) =
      (.reply .ok, (pair :: others).foldl
        (fun reached pair => (reached.ask .set [Bytes.ofText pair.1, pair.2]).2) session)
  /-- The last value that is listed for a key is the one that is read. -/
  lastWins : ∀ pair others front key value back,
    pair :: others = front ++ (key, value) :: back → key ∉ back.map Prod.fst →
      ((session.ask .mset (keysAndValues (pair :: others))).2.ask .get [Bytes.ofText key]).1 =
        .reply (.bulk value)
  mget : ∀ key others,
    session.ask .mget ((key :: others).map Bytes.ofText) =
      (.reply (.array ((key :: others).map fun key =>
        frameOrNull (session.ask .get [Bytes.ofText key]).1)), session)
  /-- Removing keys is removing each of them in order; the distinct ones among them that are there
  are counted, and there are as many keys fewer. -/
  del : ∀ key others, ∃ (distinct : List String) (remaining : Nat),
    distinct.Nodup ∧
      (∀ other, other ∈ distinct ↔
        other ∈ key :: others ∧ session.services.store.contains other = true) ∧
      session.ask .del ((key :: others).map Bytes.ofText) =
        (.reply (.count distinct.length), (key :: others).foldl
          (fun reached key => (reached.ask .del [Bytes.ofText key]).2) session) ∧
      (session.ask .dbsize []).1 = .reply (.count (remaining + distinct.length)) ∧
      ((session.ask .del ((key :: others).map Bytes.ofText)).2.ask .dbsize []).1 =
        .reply (.count remaining)
  existOne : ∀ key,
    session.ask .exist [Bytes.ofText key] =
      (.reply (.count (session.services.store.contains key).toNat), session)
  /-- Each key counts as often as it is listed. -/
  exist : ∀ key others,
    session.ask .exist ((key :: others).map Bytes.ofText) =
      (.reply (.count ((key :: others).map fun key =>
        (session.services.store.contains key).toNat).sum), session)
  setnx : ∀ key value,
    (session.ask .setnx [Bytes.ofText key, value]).2 =
      (session.ask .set [Bytes.ofText key, value, Bytes.ofText "NX"]).2
  getdel : ∀ key frame, (session.ask .get [Bytes.ofText key]).1 = .reply frame →
    session.ask .getdel [Bytes.ofText key] =
      (.reply frame, (session.ask .del [Bytes.ofText key]).2)
  expire : ∀ key amount seconds, IntegerType.int64.read? amount = some seconds → seconds ≤ 0 →
    session.ask .expire [Bytes.ofText key, amount] = session.ask .del [Bytes.ofText key]
  /-- What is appended to can be read; the reply is its length then. -/
  append : ∀ key suffix found,
    (session.ask .get [Bytes.ofText key]).1 = .reply (octetsOrNull found) →
      ∃ after, session.ask .append [Bytes.ofText key, suffix] =
          (.reply (.count (found.getD [] ++ suffix).length), after) ∧
        (after.ask .get [Bytes.ofText key]).1 = .reply (.bulk (found.getD [] ++ suffix)) ∧
        (after.ask .strlen [Bytes.ofText key]).1 =
          .reply (.count (found.getD [] ++ suffix).length)
  appendFails : ∀ key suffix cause, (session.ask .get [Bytes.ofText key]).1 = .failed cause →
    session.ask .append [Bytes.ofText key, suffix] = (.failed cause, session)

/-- Commands on whole numbers. An outcome may be a failure. -/
structure NumbersAgree (session : Session) : Prop where
  incr : ∀ key one, IntegerType.int64.read? one = some 1 →
    session.ask .incr [Bytes.ofText key] = session.ask .incrby [Bytes.ofText key, one]
  decr : ∀ key one, IntegerType.int64.read? one = some 1 →
    session.ask .decr [Bytes.ofText key] = session.ask .decrby [Bytes.ofText key, one]
  /-- Of all amounts only the least number has no opposite. -/
  decrby : ∀ key amount decrement, IntegerType.int64.read? amount = some decrement →
    decrement ≠ IntegerType.int64.least →
      IntegerType.int64.read? (Decimal.text (-decrement)) = some (-decrement) ∧
        ∀ opposite, IntegerType.int64.read? opposite = some (-decrement) →
          session.ask .decrby [Bytes.ofText key, amount] =
            session.ask .incrby [Bytes.ofText key, opposite]

/-- Commands on fields. -/
structure FieldsAgree (session : Session) : Prop where
  /-- All fields are listed in the order of their octets, or the listing fails. -/
  hgetall : ∀ key,
    (∃ cause, session.ask .hgetall [Bytes.ofText key] = (.failed cause, session)) ∨
      ∃ pairs : List (Bytes × Bytes),
        session.ask .hgetall [Bytes.ofText key] =
            (.reply (.array (pairs.flatMap fun pair => [.bulk pair.1, .bulk pair.2])), session) ∧
          pairs.Pairwise (fun earlier later => earlier.1 < later.1) ∧
          ∀ field value, (field, value) ∈ pairs ↔
            (session.ask .hget [Bytes.ofText key, field]).1 = .reply (.bulk value)
  fails : ∀ key field cause,
    (session.ask .hgetall [Bytes.ofText key]).1 = .failed cause ↔
      (session.ask .hget [Bytes.ofText key, field]).1 = .failed cause

section Laws

variable (session : Session)

theorem mget_eq (key : String) (others : List String) :
    session.ask .mget ((key :: others).map Bytes.ofText) =
      (.reply (.array ((key :: others).map fun key =>
        frameOrNull (session.ask .get [Bytes.ofText key]).1)), session) := by
  have each : Work.valueOrNull session.services.store = fun key =>
      frameOrNull (session.ask .get [Bytes.ofText key]).1 := by
    funext key
    rw [ask_get, Work.valueOrNull]
    rcases session.services.store.text? key with cause | _ | octets <;> rfl
  rw [ask_mget, each]

theorem setnx_eq (key : String) (value : Bytes) :
    (session.ask .setnx [Bytes.ofText key, value]).2 =
      (session.ask .set [Bytes.ofText key, value, Bytes.ofText "NX"]).2 := by
  have conditional := Asks.set key value setOptions_ifMissing
  cases present : session.services.store.contains key with
  | true =>
      have skipped : (Request.setIfMissing key value).run session.scene =
          (.reply (.count 0), session.scene) := if_pos present
      have denied : (Request.set key value none (some .ifMissing)).run session.scene =
          (.reply .null, session.scene) := if_neg (by simp [scene, present])
      rw [ask_of_reading (.setnx key value) skipped rfl, ask_of_reading conditional denied rfl]
  | false =>
      have stored : (Request.setIfMissing key value).run session.scene =
          (.reply (.count 1), session.scene.withStore (session.services.store.set key value)) :=
        if_neg (by simp [scene, present])
      have admitted : (Request.set key value none (some .ifMissing)).run session.scene =
          (.reply .ok, session.scene.withStore (session.services.store.set key value)) :=
        if_pos (by simp [scene, present])
      rw [ask_of_run (.setnx key value) stored rfl, ask_of_run conditional admitted rfl]

theorem getdel_eq {key : String} {frame : Frame}
    (got : (session.ask .get [Bytes.ofText key]).1 = .reply frame) :
    session.ask .getdel [Bytes.ofText key] =
      (.reply frame, (session.ask .del [Bytes.ofText key]).2) := by
  rw [ask_get] at got
  rw [ask_del_single]
  cases read : session.services.store.text? key with
  | error cause =>
      rw [read] at got
      cases got
  | ok found =>
      rw [read] at got
      cases got
      have seen : session.scene.services.store.text? key = .ok found := read
      cases found with
      | none =>
          have ran : (Request.take key).run session.scene = (.reply .null, session.scene) := by
            rw [Request.run, runTake, seen]
          rw [ask_of_reading (.getdel key) ran rfl,
            Store.erase_of_missing (Store.missing_of_text? read)]
          rfl
      | some octets =>
          have ran : (Request.take key).run session.scene =
              (.reply (.bulk octets),
                session.scene.withStore (session.services.store.erase key)) := by
            rw [Request.run, runTake, seen]
            rfl
          rw [ask_of_run (.getdel key) ran rfl]
          rfl

theorem expire_eq (key : String) {amount : Bytes} {seconds : Int}
    (spelled : IntegerType.int64.read? amount = some seconds) (past : seconds ≤ 0) :
    session.ask .expire [Bytes.ofText key, amount] = session.ask .del [Bytes.ofText key] := by
  rw [ask_del_single]
  exact ask_of_run (.expire key spelled) (if_pos past) rfl

theorem append_eq {key : String} {found : Option Bytes} (suffix : Bytes)
    (got : (session.ask .get [Bytes.ofText key]).1 = .reply (octetsOrNull found)) :
    ∃ after, session.ask .append [Bytes.ofText key, suffix] =
        (.reply (.count (found.getD [] ++ suffix).length), after) ∧
      (after.ask .get [Bytes.ofText key]).1 = .reply (.bulk (found.getD [] ++ suffix)) ∧
      (after.ask .strlen [Bytes.ofText key]).1 =
        .reply (.count (found.getD [] ++ suffix).length) := by
  have read : session.services.store.text? key = .ok found := by
    rw [ask_get] at got
    cases read : session.services.store.text? key with
    | error cause =>
        rw [read] at got
        cases got
    | ok other =>
        rw [read] at got
        cases other <;> cases found <;> cases got <;> rfl
  obtain ⟨store, done, stored⟩ := Store.append_of_text? read suffix
  have ran : (Request.append key suffix).run session.scene =
      (.reply (.count (found.getD [] ++ suffix).length), session.scene.withStore store) := by
    change changeOf (session.services.store.append key suffix) session.scene = _
    rw [done]
    rfl
  have after : (session.withStore store).services.store.text? key =
      .ok (some (found.getD [] ++ suffix)) := stored
  refine ⟨_, ask_of_run (.append key suffix) ran rfl, ?_, ?_⟩
  · rw [ask_get, after]
    rfl
  · rw [ask_strlen, after]
    rfl

theorem append_eq_of_failed {key : String} {cause : Failure} (suffix : Bytes)
    (failed : (session.ask .get [Bytes.ofText key]).1 = .failed cause) :
    session.ask .append [Bytes.ofText key, suffix] = (.failed cause, session) := by
  have read : session.services.store.text? key = .error cause := by
    rw [ask_get] at failed
    cases read : session.services.store.text? key with
    | error other =>
        rw [read] at failed
        cases failed
        rfl
    | ok found =>
        rw [read] at failed
        cases failed
  have ran : (Request.append key suffix).run session.scene = (.failed cause, session.scene) := by
    change changeOf (session.services.store.append key suffix) session.scene = _
    rw [Store.append, read]
    rfl
  exact ask_of_reading (.append key suffix) ran rfl

/-- Counting the keys of a list that are there is adding up ones and zeros. -/
theorem countP_eq_sum (test : String → Bool) (keys : List String) :
    keys.countP test = (keys.map fun key => (test key).toNat).sum := by
  induction keys with
  | nil => rfl
  | cons key rest inductionHypothesis =>
      rw [List.countP_cons, List.map_cons, List.sum_cons, inductionHypothesis, Nat.add_comm]
      cases test key <;> rfl

theorem exist_eq (key : String) (others : List String) :
    session.ask .exist ((key :: others).map Bytes.ofText) =
      (.reply (.count ((key :: others).map fun key =>
        (session.services.store.contains key).toNat).sum), session) := by
  rw [ask_exist, countP_eq_sum]

theorem del_counts (key : String) (others : List String) :
    ∃ (distinct : List String) (remaining : Nat),
      distinct.Nodup ∧
        (∀ other, other ∈ distinct ↔
          other ∈ key :: others ∧ session.services.store.contains other = true) ∧
        session.ask .del ((key :: others).map Bytes.ofText) =
          (.reply (.count distinct.length), (key :: others).foldl
            (fun reached key => (reached.ask .del [Bytes.ofText key]).2) session) ∧
        (session.ask .dbsize []).1 = .reply (.count (remaining + distinct.length)) ∧
        ((session.ask .del ((key :: others).map Bytes.ofText)).2.ask .dbsize []).1 =
          .reply (.count remaining) := by
  obtain ⟨distinct, nodup, members, count⟩ :=
    Work.deleteEach_distinct (key :: others) session.services.store
  have size := Work.deleteEach_size (key :: others) session.services.store
  refine ⟨distinct, Store.size (Work.deleteEach session.services.store (key :: others)).2, nodup,
    members, ?_, ?_, ?_⟩
  · rw [ask_del, delEach_eq, count]
  · rw [ask_dbsize, ← size, count]
  · rw [ask_del, ask_dbsize]
    rfl

theorem textsAgree : session.TextsAgree where
  mset pair others := by rw [ask_mset, setEach_eq]
  lastWins pair others front key value back listed last := by
    rw [ask_mset, ask_get, listed]
    change Request.outcomeOf
      (Store.text? (List.foldl _ session.services.store _) key) octetsOrNull = _
    rw [Work.text?_storeEach_of_last session.services.store front value last]
    rfl
  mget := session.mget_eq
  del := session.del_counts
  existOne key := session.exist_eq key []
  exist := session.exist_eq
  setnx := session.setnx_eq
  getdel _ _ got := session.getdel_eq got
  expire key _ _ spelled past := session.expire_eq key spelled past
  append _ suffix _ got := session.append_eq suffix got
  appendFails _ suffix _ failed := session.append_eq_of_failed suffix failed

/-- Subtracting a number that has an opposite is adding that. -/
theorem decrby_eq (key : String) {amount opposite : Bytes} {decrement : Int}
    (spelled : IntegerType.int64.read? amount = some decrement)
    (turned : IntegerType.int64.read? opposite = some (-decrement)) :
    session.ask .decrby [Bytes.ofText key, amount] =
      session.ask .incrby [Bytes.ofText key, opposite] :=
  session.ask_congr (.decrby key spelled) (.incrby key turned)
    (if_pos (IntegerType.holds_of_read? turned))

theorem numbersAgree : session.NumbersAgree where
  incr key _ spelled := session.ask_congr (.incr key) (.incrby key spelled) rfl
  decr key _ spelled := session.ask_congr (.decr key) (.decrby key spelled) rfl
  decrby key _ _ spelled above :=
    ⟨IntegerType.read?_text rfl
        ((IntegerType.int64_holds_neg_iff (IntegerType.holds_of_read? spelled)).mpr above),
      fun _ turned => session.decrby_eq key spelled turned⟩

/-- Fields are listed as they are read one by one. -/
theorem hgetall_of_hash? {key : String} {found : Option Fields}
    (isHash : session.services.store.hash? key = .ok found) :
    ∃ pairs : List (Bytes × Bytes),
      session.ask .hgetall [Bytes.ofText key] =
          (.reply (.array (pairs.flatMap fun pair => [.bulk pair.1, .bulk pair.2])), session) ∧
        pairs.Pairwise (fun earlier later => earlier.1 < later.1) ∧
        ∀ field value, (field, value) ∈ pairs ↔
          (session.ask .hget [Bytes.ofText key, field]).1 = .reply (.bulk value) := by
  have listed : session.services.store.fields key = .ok (found.getD ∅).toList := by
    rw [Store.fields, isHash]
    cases found <;> rfl
  have read : ∀ field, session.services.store.field? key field =
      .ok (found.getD ∅)[field]? := by
    intro field
    rw [Store.field?, isHash]
    cases found with
    | none => exact congrArg Except.ok Std.ExtTreeMap.getElem?_empty.symm
    | some fields => rfl
  refine ⟨(found.getD ∅).toList, ?_, ?_, fun field value => ?_⟩
  · rw [ask_hgetall, listed]
    rfl
  · exact Std.ExtTreeMap.ordered_keys_toList.imp fun below => Bytes.compare_eq_lt_iff.mp below
  · rw [ask_hget, read, Std.ExtTreeMap.mem_toList_iff_getElem?_eq_some]
    cases (found.getD ∅)[field]? <;> simp [Request.outcomeOf, octetsOrNull]

theorem hgetall_of_failed {key : String} {cause : Failure}
    (isOther : session.services.store.hash? key = .error cause) :
    session.ask .hgetall [Bytes.ofText key] = (.failed cause, session) ∧
      ∀ field, session.ask .hget [Bytes.ofText key, field] = (.failed cause, session) := by
  constructor
  · rw [ask_hgetall, Store.fields, isOther]
    rfl
  · intro field
    rw [ask_hget, Store.field?, isOther]
    rfl

theorem fieldsAgree : session.FieldsAgree := by
  constructor
  · intro key
    cases found : session.services.store.hash? key with
    | error cause => exact .inl ⟨cause, (session.hgetall_of_failed found).1⟩
    | ok fields => exact .inr (session.hgetall_of_hash? found)
  · intro key field cause
    cases found : session.services.store.hash? key with
    | error other =>
        obtain ⟨all, one⟩ := session.hgetall_of_failed found
        rw [all, one]
    | ok fields =>
        obtain ⟨pairs, all, -⟩ := session.hgetall_of_hash? found
        rw [all, ask_hget, Store.field?, found]
        cases fields <;> simp [Request.outcomeOf]

/-- In every session commands that could be said in terms of others yield what these yield. -/
theorem derived_commands_agree :
    session.TextsAgree ∧ session.NumbersAgree ∧ session.FieldsAgree :=
  ⟨session.textsAgree, session.numbersAgree, session.fieldsAgree⟩

end Laws

end Session

end RespServer
