import RespServer.Proofs.Derivation
import RespServer.Proofs.LineEnds
import RespServer.Proofs.Run
import RespServer.Proofs.SearchBound

/-!
Contract: which keys a listing shows, and in which order.

Owns:
- the order of keys as the order of their spellings in octets;
- the star, which matches the texts without a slash;
- a listing as the keys for which the search ends with a match, each once and in ascending order;
- that the star lists all keys exactly if no key holds a slash.

Does not own: searches that never end (`Proofs.EndlessSearch`).

A pattern is one of paths, in which a slash separates segments, and keys are no paths. So the
pattern that ought to stand for all keys leaves out those in which a slash happens to stand.
-/

namespace RespServer

/-! ## The order of keys -/

namespace Bytes

theorem code_lt (char : Char) : char.val.toNat < 1114112 := by
  rcases char.valid with below | between
  · exact Nat.lt_trans below (by decide)
  · exact between.2

/-- Of two characters the lesser one has the lesser spelling, whatever stands behind it. -/
theorem spelling_lt {first second : Char} (less : first < second) (left right : Bytes) :
    String.utf8EncodeChar first ++ left < String.utf8EncodeChar second ++ right := by
  have codes : first.val.toNat < second.val.toNat := less
  have bound := code_lt second
  -- six bits stand in each octet but the first
  have sixBits : ∀ code : Nat, code / 4096 = code / 64 / 64 ∧ code / 262144 = code / 64 / 64 / 64 := by
    omega
  unfold String.utf8EncodeChar
  dsimp only
  generalize first.val.toNat = lesser at *
  generalize second.val.toNat = greater at *
  rw [(sixBits lesser).1, (sixBits lesser).2, (sixBits greater).1, (sixBits greater).2]
  split_ifs <;>
    simp only [List.cons_append, List.nil_append, List.cons_lt_cons_iff, UInt8.lt_iff_toNat_lt,
      ← UInt8.toNat_inj, UInt8.toNat_ofNat'] <;>
    omega

/-- Texts are ordered as their spellings. -/
theorem ofText_lt {first second : String} (less : first < second) :
    ofText first < ofText second := by
  have chars : first.toList < second.toList := less
  rw [ofText_eq_flatMap, ofText_eq_flatMap]
  generalize first.toList = lesser at chars
  generalize second.toList = greater at chars
  induction lesser generalizing greater with
  | nil =>
      cases greater with
      | nil => exact absurd chars (List.lt_irrefl [])
      | cons char rest =>
          obtain ⟨octet, octets, spelled⟩ :=
            List.exists_cons_of_ne_nil (utf8EncodeChar_ne_nil char)
          rw [List.flatMap_nil, List.flatMap_cons, spelled]
          exact List.nil_lt_cons octet _
  | cons char rest inductionHypothesis =>
      cases greater with
      | nil => exact absurd chars (List.not_lt_nil _)
      | cons other others =>
          rw [List.flatMap_cons, List.flatMap_cons]
          rcases List.cons_lt_cons_iff.mp chars with before | ⟨rfl, later⟩
          · exact spelling_lt before _ _
          · exact List.append_left_lt (inductionHypothesis _ later)

/-- A character of ASCII stands in a text where its octet stands in the spelling. -/
theorem slash_mem_ofText_iff (text : String) : 47 ∈ ofText text ↔ '/' ∈ text.toList := by
  rw [ofText_eq_flatMap, List.mem_flatMap]
  constructor
  · rintro ⟨char, member, spelled⟩
    rcases octet_of_utf8EncodeChar spelled with code | high
    · have same : char = '/' := Char.ext (UInt32.toNat_inj.mp code.symm)
      exact same ▸ member
    · exact absurd high (by decide)
  · exact fun member => ⟨'/', member, by decide⟩

end Bytes

/-! ## The star -/

namespace Glob

/-- A pattern of one star, at which the search stands again and again. -/
def atStar (index : Nat) (star : Star) : Search :=
  ⟨⟨index, 0, star, Star.none⟩, [], 0⟩

/-- The star is passed and can absorb one octet more, unless a slash comes next. -/
theorem step_atStar (text : Array UInt8) (index : Nat) (star : Star) :
    step #[42] text false (atStar index star) =
      .goOn ⟨⟨index, 1, if text[index]? = some 47 then Star.none else ⟨0, index + 1⟩, Star.none⟩,
        [], 0⟩ := by
  have single : step #[42] text false (atStar index star) =
      stepStar #[42] text (atStar index star) := rfl
  rw [single, stepStar]
  by_cases slash : text[index]? = some 47 <;> simp [atStar, Star.none, separator, slash]

/-- The star absorbs octets one by one, up to the end of the text or a slash. -/
theorem run_atStar (front rest : Bytes) (star : Star) :
    ∃ steps, run #[42] (front ++ rest).toArray false steps (atStar front.length star) =
      some (!rest.contains 47) := by
  induction rest generalizing front star with
  | nil =>
      refine ⟨2, ?_⟩
      rw [run, step_atStar]
      simp [run, step]
  | cons octet rest inductionHypothesis =>
      by_cases slash : octet = 47
      · refine ⟨2, ?_⟩
        rw [run, step_atStar]
        simp [run, step, slash, recover, fallBack?, Star.none]
      · obtain ⟨steps, ends⟩ := inductionHypothesis (front ++ [octet]) ⟨0, front.length + 1⟩
        have other : ¬47 = octet := fun same => slash same.symm
        refine ⟨steps + 2, ?_⟩
        rw [run, step_atStar]
        simpa [run, step, recover, fallBack?, atStar, slash, other] using ends

theorem ends_star (text : Bytes) : Ends [42] text (!text.contains 47) :=
  run_atStar [] text Star.none

end Glob

/-! ## Listings -/

/-- A listing shows the keys for which the search finds a match, in the order of the keys. -/
theorem matchingKeys?_of_ends {pattern : Bytes} {keys : List String} {shows : String → Bool}
    (ends : ∀ key ∈ keys, Glob.Ends pattern (Bytes.ofText key) (shows key)) :
    matchingKeys? pattern keys = some (keys.filter shows) := by
  induction keys with
  | nil => rfl
  | cons key rest inductionHypothesis =>
      have first := Glob.matches?_eq_some_iff.mpr (ends key List.mem_cons_self)
      have others := inductionHypothesis fun other member =>
        ends other (List.mem_cons_of_mem _ member)
      rw [matchingKeys?, first, others, List.filter_cons]
      cases shows key <;> rfl

namespace Store

theorem mem_keys {store : Store} {key : String} : key ∈ store.keys ↔ store.contains key = true := by
  rw [keys, contains, Std.ExtTreeMap.mem_keys, Std.ExtTreeMap.mem_iff_contains]

/-- The keys of a store come in ascending order of their octets. -/
theorem ascending_keys (store : Store) :
    (store.keys.map Bytes.ofText).Pairwise (· < ·) := by
  rw [List.pairwise_map]
  have ordered : store.keys.Pairwise fun first second => compare first second = .lt :=
    Std.ExtTreeMap.ordered_keys
  exact ordered.imp fun before => Bytes.ofText_lt (compareOfLessAndEq_eq_lt.mp before)

theorem length_keys (store : Store) : store.keys.length = store.size :=
  Std.ExtTreeMap.length_keys

theorem keys_eq_nil_iff {store : Store} :
    store.keys = [] ↔ ∀ key, store.entry? key = none := by
  rw [List.eq_nil_iff_forall_not_mem]
  apply forall_congr'
  intro key
  rw [mem_keys, contains_eq, Bool.not_eq_true, Option.isSome_eq_false_iff, Option.isNone_iff_eq_none]

end Store

theorem Request.reader_keys (name pattern : String) :
    (Request.reader .keys name).run [Bytes.ofText pattern] = .ok (.defer (.listKeys pattern)) := by
  refine ArgumentReader.run_of_all_read ?_
  rw [Request.reader, ArgumentReader.bind_of_ok _ (ArgumentReader.text_ofText name pattern [])]
  rfl

namespace Session

variable {session : Session}

/-- What a command lists is what its work finds. -/
theorem ask_keys {pattern : String} {listed : List String}
    (found : matchingKeys? (Bytes.ofText pattern) session.services.store.keys = some listed) :
    session.ask .keys [Bytes.ofText pattern] =
      (.reply (.array (listed.map Frame.bulkText)), session) := by
  have asked : Request.ofCommand (CommandKind.keys.command [Bytes.ofText pattern]) =
      .ok (.defer (.listKeys pattern)) := Request.reader_keys _ pattern
  have worked : (Work.listKeys pattern).run session.services.store =
      (.reply (.array (listed.map Frame.bulkText)), session.services.store) := by
    rw [Work.run, found]
  rw [ask, performAtOnce, Command.execute, asked]
  dsimp only [Request.run]
  rw [worked]
  rfl

/-- What a command lists for a pattern: the keys that are to be shown, each once, in ascending
order of their octets. -/
structure Lists (session : Session) (pattern : String) (shown : String → Prop)
    (listed : List String) : Prop where
  reply : session.ask .keys [Bytes.ofText pattern] =
    (.reply (.array (listed.map Frame.bulkText)), session)
  ascending : (listed.map Bytes.ofText).Pairwise (· < ·)
  mem_iff : ∀ key, key ∈ listed ↔ session.services.store.contains key = true ∧ shown key

theorem lists_filter {pattern : String} {shows : String → Bool}
    (ends : ∀ key ∈ session.services.store.keys,
      Glob.Ends (Bytes.ofText pattern) (Bytes.ofText key) (shows key)) :
    session.Lists pattern (fun key => shows key = true)
      (session.services.store.keys.filter shows) where
  reply := ask_keys (matchingKeys?_of_ends ends)
  ascending := by
    have sorted := session.services.store.ascending_keys
    rw [List.pairwise_map] at sorted ⊢
    exact sorted.filter shows
  mem_iff key := by rw [List.mem_filter, Store.mem_keys]

/-- Of a pattern for which every search ends, the keys are listed for which it ends with a match. -/
theorem lists_of_ends {pattern : String}
    (terminates : ∀ key ∈ session.services.store.keys,
      ∃ matched, Glob.Ends (Bytes.ofText pattern) (Bytes.ofText key) matched) :
    ∃ listed, session.Lists pattern
      (fun key => Glob.Ends (Bytes.ofText pattern) (Bytes.ofText key) true) listed := by
  let shows := fun key =>
    (Glob.matches? (Bytes.ofText pattern) (Bytes.ofText key)).getD false
  have ends : ∀ key ∈ session.services.store.keys,
      Glob.Ends (Bytes.ofText pattern) (Bytes.ofText key) (shows key) := by
    intro key member
    obtain ⟨matched, found⟩ := terminates key member
    have same : shows key = matched := by
      simp only [shows, Glob.matches?_eq_some_iff.mpr found, Option.getD_some]
    exact same ▸ found
  have lists := lists_filter ends
  refine ⟨_, lists.reply, lists.ascending, fun key => ?_⟩
  rw [lists.mem_iff]
  apply and_congr_right
  intro present
  have found := ends key (Store.mem_keys.mpr present)
  constructor
  · intro shown
    exact shown ▸ found
  · intro matched
    exact Option.some.inj
      ((Glob.matches?_eq_some_iff.mpr found).symm.trans (Glob.matches?_eq_some_iff.mpr matched))

/-- Whether a key holds a slash. -/
def holdsSlash (key : String) : Bool :=
  key.toList.contains '/'

theorem ends_star_key (key : String) :
    Glob.Ends (Bytes.ofText "*") (Bytes.ofText key) (!holdsSlash key) := by
  have same : (Bytes.ofText key).contains 47 = holdsSlash key := by
    rw [holdsSlash, Bool.eq_iff_iff, List.contains_iff_mem, List.contains_iff_mem,
      Bytes.slash_mem_ofText_iff]
  have star : Bytes.ofText "*" = [42] := by decide
  rw [star, ← same]
  exact Glob.ends_star _

/-- The star lists as many keys as there are exactly if no key holds a slash. -/
theorem length_star_iff (store : Store) :
    (store.keys.filter fun key => !holdsSlash key).length = store.size ↔
      ∀ key ∈ store.keys, holdsSlash key = false := by
  rw [← store.length_keys, List.length_filter_eq_length_iff]
  simp only [Bool.not_eq_true']

/-- Of a store from which the keys listed for the star were removed, those with a slash remain. -/
theorem lookup_deleteEach_star (store : Store) (key : String) :
    Store.entry? (Work.deleteEach store (store.keys.filter fun key => !holdsSlash key)).2 key =
      if holdsSlash key then store.entry? key else none := by
  rw [Work.lookup_deleteEach]
  cases slash : holdsSlash key with
  | true => simp [slash]
  | false =>
      have present : key ∉ store.keys → store.entry? key = none := by
        intro absent
        rw [Store.mem_keys, Store.contains_eq] at absent
        simpa using absent
      by_cases member : key ∈ store.keys
      · simp [member, slash]
      · simp [member, present member]

theorem keys_deleteEach_star_eq_nil_iff (store : Store) :
    (Work.deleteEach store (store.keys.filter fun key => !holdsSlash key)).2.keys = [] ↔
      ∀ key ∈ store.keys, holdsSlash key = false := by
  rw [Store.keys_eq_nil_iff]
  apply forall_congr'
  intro key
  rw [lookup_deleteEach_star, Store.mem_keys, Store.contains_eq]
  cases holdsSlash key <;> simp

/-- A listing shows the keys for which the search finds a match. The star lists the keys without a
slash, so it lists as many keys as there are, and removing what it lists leaves no key, exactly if
no key holds a slash. -/
theorem lists_what_matches (session : Session) :
    let store := session.services.store
    (∀ pattern, (∀ key ∈ store.keys, ∃ matched,
        Glob.Ends (Bytes.ofText pattern) (Bytes.ofText key) matched) →
      ∃ listed, session.Lists pattern
        (fun key => Glob.Ends (Bytes.ofText pattern) (Bytes.ofText key) true) listed) ∧
    ∃ listed left,
      session.Lists "*" (fun key => holdsSlash key = false) listed ∧
      session.ask .dbsize [] = (.reply (.count store.size), session) ∧
      (listed.length = store.size ↔ ∀ key ∈ store.keys, holdsSlash key = false) ∧
      listed.foldl (fun reached key => (reached.ask .del [Bytes.ofText key]).2) session =
        session.withStore left ∧
      (∀ key, left.entry? key = if holdsSlash key then store.entry? key else none) ∧
      (left.keys = [] ↔ ∀ key ∈ store.keys, holdsSlash key = false) := by
  intro store
  refine ⟨fun pattern terminates => ?_, store.keys.filter fun key => !holdsSlash key,
    (Work.deleteEach store (store.keys.filter fun key => !holdsSlash key)).2,
    ?_, session.ask_dbsize, length_star_iff store, delEach_eq _ session,
    lookup_deleteEach_star store,
    keys_deleteEach_star_eq_nil_iff store⟩
  · exact lists_of_ends terminates
  · have listed := lists_filter fun key (_ : key ∈ store.keys) => ends_star_key key
    simpa only [Bool.not_eq_true'] using listed

/-- Of three keys, those are listed that begin as one of two alternatives does; the star leaves out
the one with a slash. -/
theorem alternatives_list_slash :
    let store := ["a", "b/c", "c"].foldl (fun store key => store.set key []) Store.empty
    let session : Session :=
      ⟨{ Services.start none false with store := store }, Connection.new 0 true⟩
    let pattern := "\x7ba*,b/*\x7d"
    (∀ key ∈ store.keys, ∃ matched,
        Glob.Ends (Bytes.ofText pattern) (Bytes.ofText key) matched) ∧
      ∃ listed others left,
        session.Lists pattern
          (fun key => Glob.Ends (Bytes.ofText pattern) (Bytes.ofText key) true) listed ∧
        ("a" ∈ listed ∧ "b/c" ∈ listed ∧ "c" ∉ listed) ∧
        session.Lists "*" (fun key => holdsSlash key = false) others ∧
        ("a" ∈ others ∧ "b/c" ∉ others ∧ "c" ∈ others) ∧
        others.foldl (fun reached key => (reached.ask .del [Bytes.ofText key]).2) session =
          session.withStore left ∧
        left.keys ≠ [] := by
  intro store session pattern
  have stored : store.keys = ["a", "b/c", "c"] := by decide +kernel
  have first : Glob.Ends (Bytes.ofText pattern) (Bytes.ofText "a") true :=
    Glob.matches?_eq_some_iff.mp (by decide +kernel)
  have second : Glob.Ends (Bytes.ofText pattern) (Bytes.ofText "b/c") true :=
    Glob.matches?_eq_some_iff.mp (by decide +kernel)
  have third : Glob.Ends (Bytes.ofText pattern) (Bytes.ofText "c") false :=
    Glob.matches?_eq_some_iff.mp (by decide +kernel)
  have unmatched : ¬Glob.Ends (Bytes.ofText pattern) (Bytes.ofText "c") true :=
    Glob.matches?_eq_some_iff.not.mp (by decide +kernel)
  have terminates : ∀ key ∈ store.keys, ∃ matched,
      Glob.Ends (Bytes.ofText pattern) (Bytes.ofText key) matched := by
    rw [stored]
    simp only [List.forall_mem_cons]
    exact ⟨⟨_, first⟩, ⟨_, second⟩, ⟨_, third⟩, by simp⟩
  obtain ⟨named, others, left, star, -, -, removed, -, empties⟩ := session.lists_what_matches
  obtain ⟨listed, lists⟩ := named pattern terminates
  refine ⟨terminates, listed, others, left, lists, ?_, star, ?_, removed, ?_⟩
  · rw [lists.mem_iff, lists.mem_iff, lists.mem_iff]
    exact ⟨⟨by decide +kernel, first⟩, ⟨by decide +kernel, second⟩, fun shown => unmatched shown.2⟩
  · rw [star.mem_iff, star.mem_iff, star.mem_iff]
    decide +kernel
  · rw [ne_eq, empties]
    decide +kernel

/-- The only key holds a slash, and the star lists no key. -/
theorem star_leaves_out_slash :
    let events : List World.Event :=
      [.connect, .receive 0 (CommandKind.set.command (["a/b", "v"].map Bytes.ofText)),
        .receive 0 (CommandKind.keys.command [Bytes.ofText "*"]), .run 0]
    let reached := (World.start none false).after events
    reached.services.store.keys = ["a/b"] ∧
      reached.connections.map Connection.written = [[.ok, .array []]] := by
  decide +kernel

end Session

end RespServer
