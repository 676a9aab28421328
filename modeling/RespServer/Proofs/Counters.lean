import RespServer.Proofs.Asking
import RespServer.Proofs.Discipline
import RespServer.Proofs.RoundTrip

/-!
Contract: whole numbers in keys, which are added to exactly.

Owns:
- `CountsAs`, the number that a key counts as;
- `AddsExactly`, when adding to a key succeeds and what it leaves, for every type of numbers;
- `Adjustment`, a command that adds to a key or subtracts from it, and runs of such commands;
- that the number of a key after a run is the one before with everything that succeeded.

Does not own: fractions, whose sums are rounded.

A sum is taken among all whole numbers and compared with the range of the type afterwards, so that it
is exact where it is in range and refused elsewhere.
-/

namespace RespServer

/-! ## Texts of numbers -/

namespace IntegerType

theorem ascii_of_digits? {octets : Bytes} {number : Nat}
    (read : Decimal.digits? octets = some number) : ∀ octet ∈ octets, octet.toNat < 128 := by
  unfold Decimal.digits? at read
  split at read
  · rename_i areDigits
    intro octet member
    have bounds := List.all_eq_true.mp areDigits.2 octet member
    simp only [Decimal.isDigit, Bool.and_eq_true, decide_eq_true_eq, UInt8.le_iff_toNat_le]
      at bounds
    exact Nat.lt_of_le_of_lt bounds.2 (by decide)
  · cases read

/-- Octets that are read as a number are a sign and digits, hence the spelling of a text. -/
theorem exists_ofText_of_read? {type : IntegerType} {octets : Bytes} {number : Int}
    (read : type.read? octets = some number) : ∃ text, octets = Bytes.ofText text := by
  rw [read?_eq_filter, Option.filter_eq_some_iff] at read
  have denoted := read.1
  have signedDigits : ∀ (sign : UInt8) (rest : Bytes) (value : Nat), sign.toNat < 128 →
      Decimal.digits? rest = some value → ∃ text, sign :: rest = Bytes.ofText text :=
    fun sign rest value ascii found => Frame.exists_ofText_of_ascii
      (List.forall_mem_cons.mpr ⟨ascii, ascii_of_digits? found⟩)
  unfold unbounded? withSign? at denoted
  split at denoted
  · obtain ⟨value, found, -⟩ := Option.map_eq_some_iff.mp denoted
    exact signedDigits 43 _ value (by decide) found
  · split at denoted
    · obtain ⟨value, found, -⟩ := Option.map_eq_some_iff.mp denoted
      exact signedDigits 45 _ value (by decide) found
    · cases denoted
  · obtain ⟨value, found, -⟩ := Option.map_eq_some_iff.mp denoted
    exact Frame.exists_ofText_of_ascii (ascii_of_digits? found)

/-- The canonical text of a number of any type reads back as that number. -/
theorem read?_text_of_holds {type : IntegerType} {number : Int} (holds : type.Holds number) :
    type.read? (Decimal.text number) = some number := by
  cases signed : type.signed with
  | true => exact read?_text signed holds
  | false =>
      cases number with
      | ofNat value =>
          rw [read?_eq_filter, Decimal.text, unbounded?_digits, Option.filter_some,
            if_pos (decide_eq_true holds)]
      | negSucc value =>
          have least : type.least = 0 := by simp [least, signed]
          have above := holds.1
          rw [least] at above
          exact absurd above (Int.not_le.mpr (Int.negSucc_lt_zero value))

end IntegerType

/-! ## Adding -/

namespace Store

/-- The number that a key counts as: zero if it is missing, else the one that its text spells. -/
inductive CountsAs (store : Store) (type : IntegerType) (key : String) : Int → Prop where
  | missing (absent : store.entry? key = none) : CountsAs store type key 0
  | spelled {text : String} {deadline : Option Instant} {number : Int}
      (found : store.entry? key = some ⟨.text (Bytes.ofText text), deadline⟩)
      (read : type.read? (Bytes.ofText text) = some number) : CountsAs store type key number

section Adding

variable {store : Store} {type : IntegerType} {key : String} {number : Int}

/-- A key counts as what is read from its octets. -/
theorem countsAs_iff : store.CountsAs type key number ↔
    ∃ octets, store.text? key = .ok octets ∧ octets.elim (some 0) type.read? = some number := by
  rw [text?_eq]
  constructor
  · rintro (absent | ⟨found, read⟩)
    · rw [absent]
      exact ⟨none, rfl, rfl⟩
    · rw [found]
      exact ⟨_, rfl, read⟩
  · rintro ⟨octets, present, read⟩
    split at present
    · cases present
      cases read
      exact .missing ‹_›
    · cases present
      obtain ⟨text, rfl⟩ := IntegerType.exists_ofText_of_read? read
      exact .spelled ‹_› read
    · cases present

/-- A key counts as one number only. -/
theorem CountsAs.unique {other : Int} (counts : store.CountsAs type key number)
    (alike : store.CountsAs type key other) : number = other := by
  obtain ⟨octets, present, read⟩ := countsAs_iff.mp counts
  obtain ⟨others, same, readAlike⟩ := countsAs_iff.mp alike
  rw [present] at same
  cases same
  rw [read] at readAlike
  exact Option.some.inj readAlike

/-- A key of text that counts as no number spells none. -/
theorem read?_eq_none {octets : Bytes} (found : store.data? key = some (.text octets))
    (uncounted : ∀ current, ¬store.CountsAs type key current) : type.read? octets = none := by
  cases read : type.read? octets with
  | none => rfl
  | some current =>
      have present : store.text? key = .ok (some octets) := by
        rw [text?, found]
      exact absurd (countsAs_iff.mpr ⟨_, present, read⟩) (uncounted current)

/-- What is stored at a key if it counts as no number. -/
theorem data?_of_uncounted (uncounted : ∀ current, ¬store.CountsAs type key current) :
    (∃ octets, store.data? key = some (.text octets)) ∨
      ∃ fields, store.data? key = some (.hash fields) := by
  cases found : store.entry? key with
  | none => exact absurd (.missing found) (uncounted 0)
  | some entry =>
      rw [data?, found]
      cases shape : entry.data with
      | text octets => exact .inl ⟨octets, congrArg some shape⟩
      | hash fields => exact .inr ⟨fields, congrArg some shape⟩

variable {increment : Int}

theorem add_of_counts (counts : store.CountsAs type key number) :
    store.add type key increment =
      if type.Holds (number + increment) then
        .ok (number + increment, store.replace key (Decimal.text (number + increment)))
      else .error .overflow := by
  obtain ⟨octets, present, read⟩ := countsAs_iff.mp counts
  rw [add, present]
  dsimp only
  rw [read]

theorem add_of_text {octets : Bytes} (found : store.data? key = some (.text octets))
    (uncounted : ∀ current, ¬store.CountsAs type key current) :
    store.performOnKey key (.add type increment) = (.failed .notInteger, store) := by
  rw [performOnKey, add, text?, found]
  dsimp only [Option.elim_some]
  rw [read?_eq_none found uncounted]
  rfl

theorem add_of_hash {fields : Fields} (found : store.data? key = some (.hash fields)) :
    store.performOnKey key (.add type increment) = (.failed .otherShape, store) := by
  rw [performOnKey, add, text?, found]
  rfl

end Adding

/-- When adding to a key succeeds, what it leaves then, and what it reports otherwise. -/
structure AddsExactly (store : Store) (type : IntegerType) (key : String) (increment : Int) :
    Prop where
  succeeds : (∃ sum, (store.performOnKey key (.add type increment)).1 = .sum sum) ↔
    ∃ current, store.CountsAs type key current ∧ type.Holds (current + increment)
  sum : ∀ current, store.CountsAs type key current → type.Holds (current + increment) →
    ∃ after, store.performOnKey key (.add type increment) = (.sum (current + increment), after) ∧
      store.Alters key
        (some ⟨.text (Decimal.text (current + increment)), store.deadline? key⟩) after ∧
      type.read? (Decimal.text (current + increment)) = some (current + increment)
  overflow : ∀ current, store.CountsAs type key current → ¬type.Holds (current + increment) →
    store.performOnKey key (.add type increment) = (.failed .overflow, store)
  notInteger : ∀ octets, store.data? key = some (.text octets) →
    (∀ current, ¬store.CountsAs type key current) →
      store.performOnKey key (.add type increment) = (.failed .notInteger, store)
  otherShape : ∀ fields, store.data? key = some (.hash fields) →
    store.performOnKey key (.add type increment) = (.failed .otherShape, store)

theorem addsExactly (store : Store) (type : IntegerType) (key : String) (increment : Int) :
    store.AddsExactly type key increment where
  succeeds := by
    constructor
    · rintro ⟨sum, answered⟩
      by_cases counted : ∃ current, store.CountsAs type key current
      · obtain ⟨current, counts⟩ := counted
        rw [performOnKey, add_of_counts counts] at answered
        split at answered
        · exact ⟨current, counts, ‹_›⟩
        · cases answered
      · have uncounted := not_exists.mp counted
        rcases data?_of_uncounted uncounted with ⟨octets, found⟩ | ⟨fields, found⟩
        · rw [add_of_text found uncounted] at answered
          cases answered
        · rw [add_of_hash found] at answered
          cases answered
    · rintro ⟨current, counts, holds⟩
      refine ⟨current + increment, ?_⟩
      rw [performOnKey, add_of_counts counts, if_pos holds]
      rfl
  sum current counts holds := by
    rw [performOnKey, add_of_counts counts, if_pos holds]
    exact ⟨_, rfl, store.alters_modify key _, IntegerType.read?_text_of_holds holds⟩
  overflow current counts beyond := by
    rw [performOnKey, add_of_counts counts, if_neg beyond]
    rfl
  notInteger _ found uncounted := add_of_text found uncounted
  otherShape _ found := add_of_hash found

/-- The text of a number that is stored is counted as that number. -/
theorem countsAs_of_alters {before after : Store} {type : IntegerType} {key : String}
    {number : Int} {deadline : Option Instant} (holds : type.Holds number)
    (alters : before.Alters key (some ⟨.text (Decimal.text number), deadline⟩) after) :
    after.CountsAs type key number := by
  refine countsAs_iff.mpr ⟨some (Decimal.text number), ?_, IntegerType.read?_text_of_holds holds⟩
  rw [text?_eq, alters.entry_self]

end Store

theorem Request.runAdd_of_counts {scene : Scene} {key : String} {number increment : Int}
    (counts : scene.services.store.CountsAs .int64 key number) :
    runAdd key increment scene =
      if IntegerType.int64.Holds (number + increment) then
        (.reply (Request.number (number + increment)), scene.withStore
          (scene.services.store.replace key (Decimal.text (number + increment))))
      else (.failed .overflow, scene) := by
  rw [runAdd, Store.add_of_counts counts]
  by_cases holds : IntegerType.int64.Holds (number + increment)
  · rw [if_pos holds, if_pos holds]
  · rw [if_neg holds, if_neg holds]

/-! ## Commands that count -/

/-- A command that adds to a key or subtracts from it. An amount is any octets that are read as the
number. -/
inductive Adjustment where
  | incr
  | decr
  | incrby (amount : Bytes) (increment : Int)
      (spelled : IntegerType.int64.read? amount = some increment)
  | decrby (amount : Bytes) (decrement : Int)
      (spelled : IntegerType.int64.read? amount = some decrement)

namespace Adjustment

/-- What a command is to add. -/
def delta : Adjustment → Int
  | .incr => 1
  | .decr => -1
  | .incrby _ increment _ => increment
  | .decrby _ decrement _ => -decrement

/-- Whether a command is to subtract the least number, whose opposite is out of range. -/
def SubtractsLeast : Adjustment → Prop
  | .decrby _ decrement _ => decrement = IntegerType.int64.least
  | .incr | .decr | .incrby _ _ _ => False

instance (adjustment : Adjustment) : Decidable adjustment.SubtractsLeast :=
  match adjustment with
  | .decrby _ decrement _ => inferInstanceAs (Decidable (decrement = IntegerType.int64.least))
  | .incr | .decr | .incrby _ _ _ => inferInstanceAs (Decidable False)

/-- Whether a command is refused by a key that counts as a number. -/
def IsRefused (adjustment : Adjustment) (number : Int) : Prop :=
  ¬IntegerType.int64.Holds (number + adjustment.delta) ∨ adjustment.SubtractsLeast

instance (adjustment : Adjustment) (number : Int) : Decidable (adjustment.IsRefused number) :=
  inferInstanceAs (Decidable (_ ∨ _))

def kind : Adjustment → CommandKind
  | .incr => .incr
  | .decr => .decr
  | .incrby _ _ _ => .incrby
  | .decrby _ _ _ => .decrby

def arguments (key : String) : Adjustment → List Bytes
  | .incr | .decr => [Bytes.ofText key]
  | .incrby amount _ _ | .decrby amount _ _ => [Bytes.ofText key, amount]

def request (key : String) : Adjustment → Request
  | .incr => .add key 1
  | .decr => .add key (-1)
  | .incrby _ increment _ => .add key increment
  | .decrby _ decrement _ => .subtract key decrement

theorem asks (adjustment : Adjustment) (key : String) :
    Request.Asks adjustment.kind (adjustment.arguments key) (adjustment.request key) := by
  cases adjustment with
  | incr => exact .incr key
  | decr => exact .decr key
  | incrby amount increment spelled => exact .incrby key spelled
  | decrby amount decrement spelled => exact .decrby key spelled

/-- A request to adjust is one to add, except that the least number is not subtracted. -/
theorem run_request (adjustment : Adjustment) (key : String) (scene : Scene) :
    (adjustment.request key).run scene =
      if adjustment.SubtractsLeast then (.failed .overflow, scene)
      else Request.runAdd key adjustment.delta scene := by
  cases adjustment with
  | incr | decr | incrby => exact (if_neg id).symm
  | decrby amount decrement spelled =>
      have turned := IntegerType.int64_holds_neg_iff (IntegerType.holds_of_read? spelled)
      change (if IntegerType.int64.Holds (-decrement) then _ else _) =
        if decrement = IntegerType.int64.least then _ else _
      by_cases isLeast : decrement = IntegerType.int64.least
      · rw [if_pos isLeast, if_neg fun holds => turned.mp holds isLeast]
      · rw [if_neg isLeast, if_pos (turned.mpr isLeast)]
        rfl

end Adjustment

namespace Session

def adjust (session : Session) (key : String) (adjustment : Adjustment) : Outcome × Session :=
  session.ask adjustment.kind (adjustment.arguments key)

/-- The session after adjustments, the first of them first. -/
def adjustEach (session : Session) (key : String) (adjustments : List Adjustment) : Session :=
  adjustments.foldl (fun reached adjustment => (reached.adjust key adjustment).2) session

/-- The sum of what the adjustments that succeed add. -/
def gained (session : Session) (key : String) : List Adjustment → Int
  | [] => 0
  | adjustment :: rest =>
      let (outcome, next) := session.adjust key adjustment
      (if outcome.succeeds then adjustment.delta else 0) + next.gained key rest

/-- A key counts as a number, its deadline stays, and all other keys stay as they are. -/
structure Reaches (before : Session) (key : String) (number : Int) (after : Session) : Prop where
  counts : after.services.store.CountsAs .int64 key number
  deadline : after.services.store.deadline? key = before.services.store.deadline? key
  others : ∀ other, other ≠ key →
    after.services.store.entry? other = before.services.store.entry? other

theorem Reaches.trans {first second third : Session} {key : String} {number last : Int}
    (earlier : first.Reaches key number second) (later : second.Reaches key last third) :
    first.Reaches key last third :=
  ⟨later.counts, later.deadline.trans earlier.deadline,
    fun other different => (later.others other different).trans (earlier.others other different)⟩

section Run

variable {session : Session} {key : String} {number : Int}
  (counts : session.services.store.CountsAs .int64 key number)
include counts

theorem adjust_of_refused {adjustment : Adjustment} (refused : adjustment.IsRefused number) :
    session.adjust key adjustment = (.failed .overflow, session) := by
  refine ask_of_reading (adjustment.asks key) ?_ rfl
  rw [Adjustment.run_request]
  split
  · rfl
  · rename_i other
    exact (Request.runAdd_of_counts counts).trans (if_neg (refused.resolve_right other))

/-- What is not refused is stored and replied; the reply holds the number in full. -/
theorem adjust_of_accepted {adjustment : Adjustment} (accepted : ¬adjustment.IsRefused number) :
    ∃ (sum : Int64) (after : Session),
      session.adjust key adjustment = (.reply (.integer sum), after) ∧
        sum.toInt = number + adjustment.delta ∧
        session.Reaches key (number + adjustment.delta) after := by
  obtain ⟨inRange, other⟩ := not_or.mp accepted
  have holds := Decidable.not_not.mp inRange
  have alters : Store.Alters _ key _ (session.services.store.replace key _) :=
    session.services.store.alters_modify key (.text (Decimal.text (number + adjustment.delta)))
  have ran : (adjustment.request key).run session.scene =
      (.reply (Request.number (number + adjustment.delta)), session.scene.withStore
        (session.services.store.replace key (Decimal.text (number + adjustment.delta)))) := by
    rw [Adjustment.run_request, if_neg other]
    exact (Request.runAdd_of_counts counts).trans (if_pos holds)
  refine ⟨_, _, ask_of_run (adjustment.asks key) ran rfl, ?_, ?_, ?_, ?_⟩
  · have least : IntegerType.int64.least = -2 ^ 63 := rfl
    have greatest : IntegerType.int64.greatest = 2 ^ 63 - 1 := rfl
    rw [IntegerType.Holds, least, greatest] at holds
    exact Int64.toInt_ofInt_of_le holds.1 (by omega)
  · exact Store.countsAs_of_alters holds alters
  · change (Store.entry? (session.services.store.replace key _) key).bind Entry.deadline = _
    rw [alters.entry_self]
    rfl
  · exact fun other different => alters.entry_other different

/-- After any adjustments, whether refused or not, a key counts as the number before with all that
succeeded. -/
theorem reaches_adjustEach (adjustments : List Adjustment) :
    session.Reaches key (number + session.gained key adjustments)
      (session.adjustEach key adjustments) := by
  induction adjustments generalizing session number with
  | nil =>
      rw [gained, Int.add_zero]
      exact ⟨counts, rfl, fun _ _ => rfl⟩
  | cons adjustment rest inductionHypothesis =>
      rw [gained, adjustEach, List.foldl_cons, ← adjustEach]
      by_cases refused : adjustment.IsRefused number
      · rw [adjust_of_refused counts refused]
        change session.Reaches key (number + (0 + session.gained key rest)) _
        rw [Int.zero_add]
        exact inductionHypothesis counts
      · obtain ⟨sum, after, done, -, reaches⟩ := adjust_of_accepted counts refused
        rw [done]
        change session.Reaches key (number + (adjustment.delta + after.gained key rest)) _
        rw [← Int.add_assoc]
        exact reaches.trans (inductionHypothesis reaches.counts)

end Run

/-- What an adjustment of a key that counts as a number comes to. -/
structure AdjustsExactly (session : Session) (key : String) (number : Int)
    (adjustment : Adjustment) : Prop where
  refuses : (session.adjust key adjustment).1.succeeds = false ↔
    ¬IntegerType.int64.Holds (number + adjustment.delta) ∨ adjustment.SubtractsLeast
  unchanged : (session.adjust key adjustment).1.succeeds = false →
    session.adjust key adjustment = (.failed .overflow, session)
  replies : (session.adjust key adjustment).1.succeeds = true →
    ∃ sum : Int64, (session.adjust key adjustment).1 = .reply (.integer sum) ∧
      sum.toInt = number + adjustment.delta

theorem adjustsExactly {session : Session} {key : String} {number : Int}
    (counts : session.services.store.CountsAs .int64 key number) (adjustment : Adjustment) :
    session.AdjustsExactly key number adjustment := by
  by_cases refused : adjustment.IsRefused number
  · have done := adjust_of_refused counts refused
    constructor
    · rw [done]
      exact iff_of_true rfl refused
    · exact fun _ => done
    · rw [done]
      exact fun succeeded => absurd succeeded Bool.false_ne_true
  · obtain ⟨sum, after, done, exact, -⟩ := adjust_of_accepted counts refused
    constructor
    · rw [done]
      exact iff_of_false nofun refused
    · rw [done]
      exact fun failed => absurd failed nofun
    · rw [done]
      exact fun _ => ⟨sum, rfl, exact⟩

/-- For every type of numbers, adding to a key of any store succeeds exactly where the key counts as
a number and the exact sum is in range; the sum is stored as its canonical text under the deadline
of the key. A key that counts as a 64-bit number, after any commands that add to it or subtract from
it, counts as that number with all that succeeded; the next of them is refused exactly where the
result would leave the range, or where it subtracts the least number. -/
theorem counters_are_exact (session : Session) (key : String) {start : Int}
    (counts : session.services.store.CountsAs .int64 key start)
    (adjustments : List Adjustment) :
    let reached := session.adjustEach key adjustments
    let number := start + session.gained key adjustments
    (∀ (store : Store) (type : IntegerType) (key : String) (increment : Int),
        store.AddsExactly type key increment) ∧
      session.Reaches key number reached ∧
      ∀ next, reached.AdjustsExactly key number next := by
  have reaches := reaches_adjustEach counts adjustments
  exact ⟨Store.addsExactly, reaches, adjustsExactly reaches.counts⟩

/-- From one below the greatest number, one more is reached and no further; the least number is not
subtracted, and zero may be spelled with a sign. -/
theorem greatest_reached_from_below :
    let store := Store.empty.put "n" (.text (Bytes.ofText "+9223372036854775806")) (some 5)
    let session : Session :=
      ⟨{ Services.start none false with store := store }, Connection.new 0 true⟩
    let adjustments : List Adjustment :=
      [.incr, .incr,
        .decrby (Bytes.ofText "-9223372036854775808") (-9223372036854775808) (by decide),
        .incrby (Bytes.ofText "-0") 0 (by decide)]
    let reached := session.adjustEach "n" adjustments
    session.gained "n" adjustments = 1 ∧
      reached.services.store.CountsAs .int64 "n" 9223372036854775807 ∧
      reached.services.store.deadline? "n" = some 5 ∧
      reached.adjust "n" .incr = (.failed .overflow, reached) := by
  intro store session adjustments reached
  have stored := (Store.empty.alters_put "n" (.text (Bytes.ofText "+9223372036854775806"))
    (some 5)).entry_self
  have counts : session.services.store.CountsAs .int64 "n" 9223372036854775806 :=
    .spelled stored (by decide)
  have gained : session.gained "n" adjustments = 1 := by decide +kernel
  obtain ⟨-, reaches, next⟩ := counters_are_exact session "n" counts adjustments
  rw [gained] at reaches next
  refine ⟨gained, reaches.counts, ?_, ?_⟩
  · rw [reaches.deadline, Store.deadline?, stored]
    rfl
  · exact (next .incr).unchanged ((next .incr).refuses.mpr (.inl (by decide)))

end Session

end RespServer
