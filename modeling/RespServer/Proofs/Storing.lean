import RespServer.Proofs.Asking
import RespServer.Proofs.BreakingOff
import RespServer.Proofs.Discipline

/-!
Contract: what a command that stores octets may say, and what comes of it.

Owns:
- `Limit`, a time to live as an amount in a unit;
- `Says`, the grammar of the arguments: a key, a value, and at most one time to live and one
  condition in any order;
- that exactly what the grammar allows is accepted, and that the order of the options is nothing;
- the effect on the store, and how long the key is said to live right after it.

Does not own: deadlines that the clock cannot show (`Proofs.BreakingOff`).

The options are read one by one, and each is refused if it was given before. So what remains to be
read is a smaller grammar: once a time to live is known, the rest says none, and likewise for a
condition.
-/

namespace RespServer

/-! ## What arguments say -/

/-- How long a value is to live, as an option says it. -/
inductive Limit where
  | seconds (amount : Int)
  | milliseconds (amount : Int)
deriving DecidableEq, Repr

namespace Limit

def duration : Limit → Duration
  | .seconds amount => amount.toNat * 1000
  | .milliseconds amount => amount.toNat

/-- The whole seconds of the duration, rounded. -/
def wholeSeconds : Limit → Int
  | .seconds amount => amount
  | .milliseconds amount => (amount + 500) / 1000

/-- A word for a unit and a positive amount of it, or nothing. -/
inductive Spelled : List Bytes → Option Limit → Prop where
  | absent : Spelled [] none
  | seconds {word amount : Bytes} {count : Int} (unit : capitals? word = some "EX")
      (read : IntegerType.int64.read? amount = some count) (positive : 0 < count) :
      Spelled [word, amount] (some (.seconds count))
  | milliseconds {word amount : Bytes} {count : Int} (unit : capitals? word = some "PX")
      (read : IntegerType.int64.read? amount = some count) (positive : 0 < count) :
      Spelled [word, amount] (some (.milliseconds count))

end Limit

/-- A word for a condition, or nothing. -/
inductive SetCondition.Spelled : List Bytes → Option SetCondition → Prop where
  | absent : Spelled [] none
  | ifMissing {word : Bytes} (spelled : capitals? word = some "NX") :
      Spelled [word] (some .ifMissing)
  | ifPresent {word : Bytes} (spelled : capitals? word = some "XX") :
      Spelled [word] (some .ifPresent)

/-- What a command that stores octets says. -/
structure Storing where
  key : String
  value : Bytes
  limit : Option Limit
  condition : Option SetCondition

namespace Storing

def lifetime (storing : Storing) : Option Duration :=
  storing.limit.map Limit.duration

def request (storing : Storing) : Request :=
  .set storing.key storing.value storing.lifetime storing.condition

/-- How many seconds the key is said to live right after its value was stored. -/
def timeToLive (storing : Storing) : Int :=
  storing.limit.elim (-1) Limit.wholeSeconds

/-- The clock can show the deadline of what is stored. -/
def IsWithinClock (storing : Storing) (store : Store) : Prop :=
  ∀ lifetime, storing.lifetime = some lifetime → store.isBeyond lifetime = false

/-- What is stored under the key. -/
def entry (storing : Storing) (now : Instant) : Entry :=
  ⟨.text storing.value, storing.lifetime.map (now + ·)⟩

/-- Options in either order. -/
inductive Options : List Bytes → Option Limit → Option SetCondition → Prop where
  | limitFirst {timed conditional : List Bytes} {limit : Option Limit}
      {condition : Option SetCondition} (lives : Limit.Spelled timed limit)
      (depends : SetCondition.Spelled conditional condition) :
      Options (timed ++ conditional) limit condition
  | conditionFirst {timed conditional : List Bytes} {limit : Option Limit}
      {condition : Option SetCondition} (lives : Limit.Spelled timed limit)
      (depends : SetCondition.Spelled conditional condition) :
      Options (conditional ++ timed) limit condition

/-- The grammar of the arguments: a key that is a text, a value of any octets, and options. -/
inductive Says : List Bytes → Storing → Prop where
  | intro {word value : Bytes} {options : List Bytes} {key : String} {limit : Option Limit}
      {condition : Option SetCondition} (named : Bytes.text? word = some key)
      (optional : Options options limit condition) :
      Says (word :: value :: options) ⟨key, value, limit, condition⟩

end Storing

/-! ## Options -/

theorem Limit.Spelled.eq_nil {options : List Bytes} (spelled : Limit.Spelled options none) :
    options = [] := by
  cases spelled
  rfl

theorem SetCondition.Spelled.eq_nil {options : List Bytes}
    (spelled : SetCondition.Spelled options none) : options = [] := by
  cases spelled
  rfl

namespace Storing.Options

variable {options : List Bytes} {limit : Option Limit} {condition : Option SetCondition}

/-- Options without a time to live. -/
theorem condition_only (said : Options options none condition) :
    SetCondition.Spelled options condition := by
  cases said with
  | limitFirst lives depends =>
      rw [lives.eq_nil, List.nil_append]
      exact depends
  | conditionFirst lives depends =>
      rw [lives.eq_nil, List.append_nil]
      exact depends

/-- Options without a condition. -/
theorem limit_only (said : Options options limit none) : Limit.Spelled options limit := by
  cases said with
  | limitFirst lives depends =>
      rw [depends.eq_nil, List.append_nil]
      exact lives
  | conditionFirst lives depends =>
      rw [depends.eq_nil, List.nil_append]
      exact lives

end Storing.Options

theorem Storing.Says.exists_spelled {arguments : List Bytes} {storing : Storing}
    (said : Says arguments storing) : ∃ timed, Limit.Spelled timed storing.limit := by
  cases said with
  | intro named optional =>
      cases optional with
      | limitFirst lives depends => exact ⟨_, lives⟩
      | conditionFirst lives depends => exact ⟨_, lives⟩

namespace Request

open ArgumentReader

variable {name : String}

/-- A word that spells others in capitals is a text. -/
theorem exists_text_of_capitals {word : Bytes} {capitals : String}
    (spelled : capitals? word = some capitals) :
    ∃ text, Bytes.text? word = some text ∧ Text.uppercase text = capitals := by
  rw [capitals?, Option.map_eq_some_iff] at spelled
  exact spelled

/-- What is read of a time to live in front of other options. -/
theorem setOptions_limit (name : String) {timed : List Bytes} {limit : Option Limit}
    (lives : Limit.Spelled timed limit) (condition : Option SetCondition) (rest : List Bytes) :
    setOptions name none condition (timed ++ rest) =
      setOptions name (limit.map Limit.duration) condition rest := by
  cases lives with
  | absent => rfl
  | seconds unit read positive | milliseconds unit read positive =>
      obtain ⟨text, spelled, capitals⟩ := exists_text_of_capitals unit
      rw [List.cons_append, List.cons_append, List.nil_append, setOptions, spelled]
      dsimp only
      rw [capitals, if_pos (by decide), read]
      dsimp only
      rw [if_neg (Int.not_le.mpr positive)]
      simp [Limit.duration]

/-- What is read of a condition in front of other options. -/
theorem setOptions_condition (name : String) {conditional : List Bytes}
    {condition : Option SetCondition} (depends : SetCondition.Spelled conditional condition)
    (lifetime : Option Duration) (rest : List Bytes) :
    setOptions name lifetime none (conditional ++ rest) =
      setOptions name lifetime condition rest := by
  cases depends with
  | absent => rfl
  | ifMissing spelled | ifPresent spelled =>
      obtain ⟨text, spelled, capitals⟩ := exists_text_of_capitals spelled
      rw [List.cons_append, List.nil_append, setOptions, spelled]
      dsimp only
      rw [capitals]
      simp

/-- Options that the grammar allows are accepted. -/
theorem setOptions_of_options {options : List Bytes} {limit : Option Limit}
    {condition : Option SetCondition} (said : Storing.Options options limit condition) :
    setOptions name none none options = .ok (limit.map Limit.duration, condition) := by
  cases said with
  | limitFirst lives depends =>
      have whole := setOptions_condition name depends (limit.map Limit.duration) []
      rw [List.append_nil] at whole
      rw [setOptions_limit name lives, whole, setOptions]
  | conditionFirst lives depends =>
      have whole := setOptions_limit name lives condition []
      rw [List.append_nil] at whole
      rw [setOptions_condition name depends, whole, setOptions]

/-- What is accepted behind what is known already: options of which those that were given before
are absent. -/
structure Completes (lifetime read : Option Duration) (condition chosen : Option SetCondition)
    (options : List Bytes) (limit : Option Limit) (said : Option SetCondition) : Prop where
  allowed : Storing.Options options limit said
  lives : read = lifetime.or (limit.map Limit.duration)
  depends : chosen = condition.or said
  livesOnce : lifetime.isSome → limit = none
  dependsOnce : condition.isSome → said = none

theorem Completes.nil (lifetime : Option Duration) (condition : Option SetCondition) :
    Completes lifetime lifetime condition condition [] none none :=
  ⟨.limitFirst .absent .absent, Option.or_none.symm, Option.or_none.symm, fun _ => rfl,
    fun _ => rfl⟩

/-- A time to live in front of options that say none. -/
theorem Completes.limit {duration : Duration} {read : Option Duration}
    {condition chosen said : Option SetCondition} {rest timed : List Bytes} {limit : Option Limit}
    {first : Limit} (lives : Limit.Spelled timed (some first)) (lasts : first.duration = duration)
    (later : Completes (some duration) read condition chosen rest limit said) :
    Completes none read condition chosen (timed ++ rest) (some first) said where
  allowed := by
    have said := later.allowed
    rw [later.livesOnce rfl] at said
    exact .limitFirst lives said.condition_only
  lives := by
    rw [later.lives, ← lasts]
    rfl
  depends := later.depends
  livesOnce := nofun
  dependsOnce := later.dependsOnce

/-- A condition in front of options that say none. -/
theorem Completes.condition {lifetime read : Option Duration} {chosen said : Option SetCondition}
    {rest conditional : List Bytes} {limit : Option Limit} {first : SetCondition}
    (depends : SetCondition.Spelled conditional (some first))
    (later : Completes lifetime read (some first) chosen rest limit said) :
    Completes lifetime read none chosen (conditional ++ rest) limit (some first) where
  allowed := by
    have said := later.allowed
    rw [later.dependsOnce rfl] at said
    exact .conditionFirst said.limit_only depends
  lives := later.lives
  depends := by
    rw [later.depends]
    rfl
  livesOnce := later.livesOnce
  dependsOnce := nofun

/-- Only options that the grammar allows are accepted. -/
theorem completes_of_accepted {lifetime read : Option Duration}
    {condition chosen : Option SetCondition} {options : List Bytes}
    (accepted : setOptions name lifetime condition options = .ok (read, chosen)) :
    ∃ limit said, Completes lifetime read condition chosen options limit said := by
  fun_induction setOptions name lifetime condition options with
  | case1 lifetime condition =>
      cases accepted
      exact ⟨none, none, .nil _ _⟩
  | case6 lifetime condition word text spelled option isUnit amountWord rest amount read positive
      unit inductionHypothesis =>
      have capitals : capitals? word = some option := capitals?_of_text? spelled
      have vacant : lifetime = none := Option.isNone_iff_eq_none.mp isUnit.2
      obtain ⟨limit, said, later⟩ := inductionHypothesis accepted
      subst vacant
      rcases isUnit.1 with isSeconds | isMilliseconds
      · have lives : Limit.Spelled [word, amountWord] (some (.seconds amount)) :=
          .seconds (isSeconds ▸ capitals) read (Int.not_le.mp positive)
        exact ⟨_, _, later.limit lives (by simp [Limit.duration, unit, isSeconds])⟩
      · have lives : Limit.Spelled [word, amountWord] (some (.milliseconds amount)) :=
          .milliseconds (isMilliseconds ▸ capitals) read (Int.not_le.mp positive)
        exact ⟨_, _, later.limit lives (by simp [Limit.duration, unit, isMilliseconds])⟩
  | case7 lifetime condition word rest text spelled option _ isMissing inductionHypothesis =>
      have capitals : capitals? word = some "NX" := isMissing.1 ▸ capitals?_of_text? spelled
      have vacant : condition = none := Option.isNone_iff_eq_none.mp isMissing.2
      obtain ⟨limit, said, later⟩ := inductionHypothesis accepted
      subst vacant
      exact ⟨_, _, later.condition (.ifMissing capitals)⟩
  | case8 lifetime condition word rest text spelled option _ _ isPresent inductionHypothesis =>
      have capitals : capitals? word = some "XX" := isPresent.1 ▸ capitals?_of_text? spelled
      have vacant : condition = none := Option.isNone_iff_eq_none.mp isPresent.2
      obtain ⟨limit, said, later⟩ := inductionHypothesis accepted
      subst vacant
      exact ⟨_, _, later.condition (.ifPresent capitals)⟩
  | case2 | case3 | case4 | case5 | case9 => cases accepted

theorem setOptions_eq_ok_iff {lifetime : Option Duration} {condition : Option SetCondition}
    {options : List Bytes} :
    setOptions name none none options = .ok (lifetime, condition) ↔
      ∃ limit, Storing.Options options limit condition ∧ lifetime = limit.map Limit.duration := by
  constructor
  · intro accepted
    obtain ⟨limit, said, completes⟩ := completes_of_accepted accepted
    have chosen := completes.depends
    rw [Option.none_or] at chosen
    subst chosen
    exact ⟨limit, completes.allowed, completes.lives.trans Option.none_or⟩
  · rintro ⟨limit, said, rfl⟩
    exact setOptions_of_options said

/-! ## The whole command -/

/-- Behind a key and a value there are only options. -/
theorem reader_set_cons (name key : String) (value : Bytes) (options : List Bytes) :
    reader .set name (Bytes.ofText key :: value :: options) =
      (setOptions name none none options).map fun read => (.set key value read.1 read.2, []) := by
  rw [reader, bind_of_ok _ (text_ofText name key _), bind_of_ok _ (octets_cons name value options),
    bind_of_ok _ (remaining_apply options)]
  cases read : setOptions name none none options with
  | error cause => rfl
  | ok pair => rfl

/-- Exactly what the grammar allows is read, and nothing is left over. -/
theorem reader_set_eq_ok_iff {arguments rest : List Bytes} {request : Request} :
    reader .set name arguments = .ok (request, rest) ↔
      rest = [] ∧ ∃ storing, Storing.Says arguments storing ∧ request = storing.request := by
  constructor
  · intro read
    obtain ⟨key, afterKey, readKey, later⟩ := bind_eq_ok read
    obtain ⟨value, options, readValue, -⟩ := bind_eq_ok later
    rw [text_eq_ok readKey, octets_eq_ok readValue] at read ⊢
    rw [reader_set_cons] at read
    cases readOptions : setOptions name none none options with
    | error cause =>
        rw [readOptions] at read
        cases read
    | ok pair =>
        rw [readOptions] at read
        cases read
        obtain ⟨limit, said, lifetime⟩ := setOptions_eq_ok_iff.mp readOptions
        refine ⟨rfl, ⟨key, value, limit, pair.2⟩, .intro (Bytes.text?_ofText key) said, ?_⟩
        rw [lifetime]
        rfl
  · rintro ⟨rfl, storing, said, rfl⟩
    obtain ⟨named, optional⟩ := said
    rw [← Bytes.ofText_of_text? named, reader_set_cons, setOptions_of_options optional]
    rfl

theorem ofCommand_set_eq_ok_iff {command : Command} (isSet : command.kind = .set)
    {request : Request} :
    ofCommand command = .ok request ↔
      ∃ storing, Storing.Says command.arguments storing ∧ request = storing.request := by
  rw [ofCommand, isSet]
  constructor
  · intro accepted
    obtain ⟨rest, read⟩ := run_eq_ok accepted
    exact (reader_set_eq_ok_iff.mp read).2
  · intro said
    exact run_of_all_read (reader_set_eq_ok_iff.mpr ⟨rfl, said⟩)

/-- The options are accepted, or refused, in either order alike. -/
theorem reader_set_swap {timed conditional : List Bytes} {limit : Option Limit}
    {condition : Option SetCondition} (lives : Limit.Spelled timed limit)
    (depends : SetCondition.Spelled conditional condition) (word value : Bytes) :
    reader .set name (word :: value :: (timed ++ conditional)) =
      reader .set name (word :: value :: (conditional ++ timed)) := by
  cases named : Bytes.text? word with
  | none =>
      have refused := text_of_none named name
      rw [reader, bind_of_error _ (refused _), bind_of_error _ (refused _)]
  | some key =>
      rw [← Bytes.ofText_of_text? named, reader_set_cons, reader_set_cons,
        setOptions_of_options (.limitFirst lives depends),
        setOptions_of_options (.conditionFirst lives depends)]

end Request

/-! ## Carrying out -/

namespace Storing

variable {storing : Storing} {scene : Scene}

/-- A value that is not to be stored. -/
theorem run_of_denied
    (denied : SetCondition.admits storing.condition
      (scene.services.store.contains storing.key) = false) :
    storing.request.run scene = (.reply .null, scene) := by
  change (if SetCondition.admits _ _ then _ else (Outcome.reply .null, scene)) = _
  rw [denied]
  rfl

/-- A value that is to be stored, whatever the key holds. -/
theorem run_of_admitted
    (admitted : SetCondition.admits storing.condition
      (scene.services.store.contains storing.key) = true)
    (within : storing.IsWithinClock scene.services.store) :
    ∃ stored, storing.request.run scene = (.reply .ok, scene.withStore stored) ∧
      scene.services.store.Alters storing.key (some (storing.entry scene.services.store.now))
        stored := by
  change ∃ stored, (if SetCondition.admits _ _ then _ else (Outcome.reply .null, scene)) = _ ∧ _
  rw [admitted, if_pos rfl]
  cases lives : storing.lifetime with
  | none =>
      refine ⟨_, rfl, ?_⟩
      rw [entry, lives]
      exact scene.services.store.alters_put storing.key _ none
  | some lifetime =>
      obtain ⟨deadline, shown⟩ := Store.after?_of_not_isBeyond (within lifetime lives)
      dsimp only
      rw [Store.setFor?, shown, Request.after?_eq_some shown]
      refine ⟨_, rfl, ?_⟩
      rw [entry, lives]
      exact scene.services.store.alters_put storing.key _ _

/-- The whole seconds of a time to live are those that are left in the instant it begins. -/
theorem count_of_spelled {options : List Bytes} {limit : Limit}
    (spelled : Limit.Spelled options (some limit)) :
    Frame.count ((limit.duration + 500) / 1000) = Request.number limit.wholeSeconds := by
  have whole : limit.wholeSeconds = ((limit.duration + 500) / 1000 : Nat) := by
    cases spelled with
    | seconds unit read positive | milliseconds unit read positive =>
        simp only [Limit.wholeSeconds, Limit.duration]
        omega
  rw [whole]
  rfl

/-- In the instant in which a value was stored, its key has its whole time to live left. -/
theorem timeToLiveOf_of_entry {stored : Store} {arguments : List Bytes}
    (said : Says arguments storing)
    (found : stored.entry? storing.key = some (storing.entry stored.now)) :
    Request.timeToLiveOf storing.key stored = Request.number storing.timeToLive := by
  obtain ⟨timed, spelled⟩ := said.exists_spelled
  rw [Request.timeToLiveOf, Store.remaining?, Store.contains_eq, found, Option.bind_some, entry,
    lifetime, timeToLive]
  cases limited : storing.limit with
  | none => rfl
  | some limit =>
      rw [limited] at spelled
      change Frame.count ((stored.now + limit.duration - stored.now + 500) / 1000) = _
      rw [Nat.add_sub_cancel_left]
      exact count_of_spelled spelled

/-- The same as a command says it that asks for the time to live. -/
theorem execute_ttl {arguments : List Bytes} (said : Says arguments storing)
    (found : scene.services.store.entry? storing.key =
      some (storing.entry scene.services.store.now)) :
    (CommandKind.ttl.command [Bytes.ofText storing.key]).execute scene =
      (.reply (Request.number storing.timeToLive), scene) := by
  have asked : Request.ofCommand (CommandKind.ttl.command [Bytes.ofText storing.key]) =
      .ok (.timeToLive storing.key) := Request.oneKey_ofText _ _ storing.key
  rw [Command.execute, asked]
  exact congrArg (fun frame => (Outcome.reply frame, scene)) (timeToLiveOf_of_entry said found)

/-- What a command that stores octets leads to, and how long it says that the key lives. -/
structure Stores (storing : Storing) (command : Command) (scene : Scene) (stored : Store) :
    Prop where
  outcome : command.execute scene = (.reply .ok, scene.withStore stored)
  alters : scene.services.store.Alters storing.key
    (some (storing.entry scene.services.store.now)) stored
  timeToLive : (CommandKind.ttl.command [Bytes.ofText storing.key]).execute
    (scene.withStore stored) = (.reply (Request.number storing.timeToLive), scene.withStore stored)

end Storing

/-- Exactly what the grammar says is accepted, with its options in either order; a value is stored
if the condition admits it, and then its key lives as long as was said. -/
theorem Command.stores_what_it_says {command : Command} (isSet : command.kind = .set) :
    (∀ request, Request.ofCommand command = .ok request ↔
      ∃ storing, Storing.Says command.arguments storing ∧ request = storing.request) ∧
    (∀ word value timed conditional limit condition, Limit.Spelled timed limit →
      SetCondition.Spelled conditional condition →
        Request.ofCommand { command with arguments := word :: value :: (timed ++ conditional) } =
          Request.ofCommand
            { command with arguments := word :: value :: (conditional ++ timed) }) ∧
    ∀ storing scene, Storing.Says command.arguments storing →
      if SetCondition.admits storing.condition (scene.services.store.contains storing.key) then
        storing.IsWithinClock scene.services.store → ∃ stored, storing.Stores command scene stored
      else command.execute scene = (.reply .null, scene) := by
  refine ⟨fun request => Request.ofCommand_set_eq_ok_iff isSet, ?_, ?_⟩
  · intro word value timed conditional limit condition lives depends
    rw [Request.ofCommand, Request.ofCommand]
    dsimp only
    rw [isSet]
    exact congrArg (Except.map Prod.fst) (Request.reader_set_swap lives depends word value)
  · intro storing scene said
    have accepted := (Request.ofCommand_set_eq_ok_iff isSet).mpr ⟨storing, said, rfl⟩
    have executed : command.execute scene = storing.request.run scene := by
      rw [Command.execute, accepted]
    split
    · rename_i admitted
      intro within
      obtain ⟨stored, ran, alters⟩ := Storing.run_of_admitted admitted within
      have found := alters.entry_self
      rw [← alters.now] at found
      exact ⟨stored, executed.trans ran, alters, Storing.execute_ttl said found⟩
    · rename_i denied
      rw [executed]
      exact Storing.run_of_denied (Bool.not_eq_true _ ▸ denied)

/-- A hash gives way to octets that look like an option; the condition comes first, and the amount
has a sign and zeros. -/
theorem Command.hash_gives_way_to_octets :
    let command := Command.new "sEt" (["k", "EX", "xX", "pX", "+01500"].map Bytes.ofText)
    let store := Store.empty.put "k" (.hash ∅) (some 5)
    let scene : Scene := ⟨{ Services.start none false with store := store }, true⟩
    let storing : Storing := ⟨"k", Bytes.ofText "EX", some (.milliseconds 1500), some .ifPresent⟩
    command.kind = .set ∧ Storing.Says command.arguments storing ∧
      storing.IsWithinClock store ∧ storing.timeToLive = 2 ∧
      (∃ stored, storing.Stores command scene stored) ∧
      Request.ofCommand command = .ok storing.request := by
  intro command store scene storing
  have isSet : command.kind = .set := by decide
  have said : Storing.Says command.arguments storing := by
    have lives : Limit.Spelled (["pX", "+01500"].map Bytes.ofText) (some (.milliseconds 1500)) :=
      .milliseconds (by decide +kernel) (by decide +kernel) (by decide)
    have depends : SetCondition.Spelled (["xX"].map Bytes.ofText) (some .ifPresent) :=
      .ifPresent (by decide +kernel)
    exact .intro (by decide +kernel) (.conditionFirst lives depends)
  have within : storing.IsWithinClock store := by
    intro lifetime lives
    cases lives
    decide
  obtain ⟨accepts, -, carriesOut⟩ := Command.stores_what_it_says isSet
  have stored := carriesOut storing scene said
  rw [if_pos (by decide +kernel)] at stored
  exact ⟨isSet, said, within, by decide, stored within, (accepts _).mpr ⟨storing, said, rfl⟩⟩

end RespServer
