import RespServer.Proofs.Execution

/-!
Contract: the keys that a command names, and what it is to do with their deadlines, as its
arguments say it.

Owns:
- `keyArguments?`, the arguments that are keys, by the kind of the command;
- `Treatment`, the ways in which a command treats the deadline of a key that it names;
- the time to live and the condition among the options of a command that stores octets;
- that the readers of arguments find the same keys and ask for the same treatment.

Does not own: what carrying out a command does to a store (`Proofs.Discipline`).

Everything about a command is said here of its arguments as they were sent, so that a reader that
took a key, an amount or an option from elsewhere would be found out.
-/

namespace RespServer

/-- What happens to a key that a successful command names. -/
inductive Treatment where
  /-- Value and deadline stay. -/
  | untouched
  /-- The key is gone. -/
  | removed
  /-- If the key is still there, it has the deadline that it had; none if it is new. -/
  | kept
  /-- The key has a new value, which lives that long or for ever. -/
  | stored (lifetime : Option Duration)
  /-- If the key was there, its value stays and lives that long. -/
  | limited (lifetime : Duration)
deriving DecidableEq

/-! ## What arguments say -/

/-- The word that octets spell, in capitals. -/
def capitals? (word : Bytes) : Option String :=
  (Bytes.text? word).map Text.uppercase

theorem capitals?_of_text? {word : Bytes} {text : String} (spelled : Bytes.text? word = some text) :
    capitals? word = some (Text.uppercase text) := by
  rw [capitals?, spelled, Option.map_some]

/-- How many milliseconds there are in the unit that an option names. -/
def timeUnit? (word : Bytes) : Option Duration :=
  match capitals? word with
  | some "EX" => some 1000
  | some "PX" => some 1
  | _ => none

def conditionOf? (word : Bytes) : Option SetCondition :=
  match capitals? word with
  | some "NX" => some .ifMissing
  | some "XX" => some .ifPresent
  | _ => none

/-- The amount that follows the first unit among options. -/
def lifetimeIn : List Bytes → Option Duration
  | word :: amount :: rest =>
      match timeUnit? word with
      | some unit => (IntegerType.int64.read? amount).map fun amount => amount.toNat * unit
      | none => lifetimeIn (amount :: rest)
  | _ => none

/-- The first condition among options; an amount is none. -/
def conditionIn : List Bytes → Option SetCondition
  | [] => none
  | [word] => conditionOf? word
  | word :: amount :: rest =>
      if (timeUnit? word).isSome then conditionIn rest
      else (conditionOf? word).or (conditionIn (amount :: rest))

/-- The first of each two arguments. -/
def firstOfEachTwo : List Bytes → List Bytes
  | first :: _ :: rest => first :: firstOfEachTwo rest
  | rest => rest

namespace CommandKind

/-- The arguments that are keys; none if all keys are named. -/
def keyArguments? (kind : CommandKind) (arguments : List Bytes) : Option (List Bytes) :=
  match kind with
  | .flushall => none
  | .mget | .del | .exist => some arguments
  | .mset => some (firstOfEachTwo arguments)
  | .append | .decr | .decrby | .get | .getdel | .incr | .incrby | .incrbyfloat | .set | .setnx
  | .strlen | .expire | .ttl | .type | .hdel | .hget | .hgetall | .hset => some (arguments.take 1)
  | _ => some []

/-- What is to happen to a key that is named, depending on whether it is present. -/
def treatment (kind : CommandKind) (arguments : List Bytes) (isPresent : Bool) : Treatment :=
  match kind with
  | .append | .incr | .decr | .incrby | .decrby | .incrbyfloat | .hset | .hdel => .kept
  | .mset => .stored none
  | .setnx => if isPresent then .untouched else .stored none
  | .set =>
      let options := arguments.drop 2
      if SetCondition.admits (conditionIn options) isPresent then .stored (lifetimeIn options)
      else .untouched
  | .expire =>
      match arguments[1]?.bind IntegerType.int64.read? with
      | some seconds => if 0 < seconds then .limited (seconds.toNat * 1000) else .removed
      | none => .untouched
  | .getdel | .del | .flushall => .removed
  | _ => .untouched

end CommandKind

/-! ## What requests ask for -/

namespace Work

/-- The keys that work names; none if it names all. -/
def named? : Work → Option (List String)
  | .delete keys | .readEach keys => some keys
  | .storeEach pairs => some (pairs.map Prod.fst)
  | .listKeys _ | .countKeys => some []
  | .clear => none

def treatment : Work → Treatment
  | .delete _ | .clear => .removed
  | .storeEach _ => .stored none
  | .readEach _ | .listKeys _ | .countKeys => .untouched

end Work

namespace Request

/-- The keys that a request names; none if it names all. -/
def named? : Request → Option (List String)
  | .append key _ | .add key _ | .subtract key _ | .addFloat key _ | .get key | .take key
  | .set key _ _ _ | .setIfMissing key _ | .length key | .expire key _ | .timeToLive key
  | .typeName key | .removeFields key _ | .readField key _ | .readFields key
  | .setFields key _ => some [key]
  | .exist keys => some keys
  | .defer work => work.named?
  | _ => some []

def treatment (request : Request) (isPresent : Bool) : Treatment :=
  match request with
  | .append _ _ | .add _ _ | .subtract _ _ | .addFloat _ _ | .removeFields _ _
  | .setFields _ _ => .kept
  | .set _ _ lifetime condition =>
      if SetCondition.admits condition isPresent then .stored lifetime else .untouched
  | .setIfMissing _ _ => if isPresent then .untouched else .stored none
  | .expire _ seconds => if 0 < seconds then .limited (seconds.toNat * 1000) else .removed
  | .take _ => .removed
  | .defer work => work.treatment
  | _ => .untouched

/-- The request names the keys that the arguments name, and asks for the same treatment. -/
structure Follows (kind : CommandKind) (arguments : List Bytes) (request : Request) : Prop where
  named : kind.keyArguments? arguments = request.named?.map (List.map Bytes.ofText)
  treatment : ∀ isPresent, kind.treatment arguments isPresent = request.treatment isPresent

end Request

/-! ## Readers -/

namespace Request

open ArgumentReader

/-! ### Options -/

theorem lifetimeIn_cons {word : Bytes} (noUnit : timeUnit? word = none) (rest : List Bytes) :
    lifetimeIn (word :: rest) = lifetimeIn rest := by
  cases rest with
  | nil => rfl
  | cons amount others => rw [lifetimeIn, noUnit]

theorem conditionIn_cons {word : Bytes} (noUnit : timeUnit? word = none) (rest : List Bytes) :
    conditionIn (word :: rest) = (conditionOf? word).or (conditionIn rest) := by
  cases rest with
  | nil =>
      rw [conditionIn, conditionIn]
      cases conditionOf? word <;> rfl
  | cons amount others =>
      rw [conditionIn, noUnit]
      rfl

/-- An option that is a condition is no unit. -/
theorem condition_of_capitals {word : Bytes} {text : String} {condition : SetCondition}
    (spelled : capitals? word = some text)
    (isCondition : text = "NX" ∧ condition = .ifMissing ∨ text = "XX" ∧ condition = .ifPresent) :
    timeUnit? word = none ∧ conditionOf? word = some condition := by
  rw [timeUnit?, conditionOf?, spelled]
  rcases isCondition with ⟨rfl, rfl⟩ | ⟨rfl, rfl⟩ <;> exact ⟨rfl, rfl⟩

theorem timeUnit?_of_capitals {word : Bytes} {text : String}
    (spelled : capitals? word = some text) (isUnit : text = "EX" ∨ text = "PX") :
    timeUnit? word = some (if text = "EX" then 1000 else 1) := by
  rw [timeUnit?, spelled]
  rcases isUnit with rfl | rfl <;> rfl

/-- Options that are accepted hold the time to live and the condition, unless these were given
before. -/
theorem options_of_setOptions {name : String} {lifetime read : Option Duration}
    {condition chosen : Option SetCondition} {arguments : List Bytes}
    (accepted : setOptions name lifetime condition arguments = .ok (read, chosen)) :
    read = lifetime.or (lifetimeIn arguments) ∧
      chosen = condition.or (conditionIn arguments) := by
  fun_induction setOptions name lifetime condition arguments with
  | case1 =>
      cases accepted
      exact ⟨Option.or_none.symm, Option.or_none.symm⟩
  | case6 lifetime condition word text spelled option isUnit amountWord rest amount read positive
      unit inductionHypothesis =>
      have capitals : capitals? word = some option := capitals?_of_text? spelled
      have unitOf : timeUnit? word = some unit := timeUnit?_of_capitals capitals isUnit.1
      have vacant : lifetime = none := Option.isNone_iff_eq_none.mp isUnit.2
      rw [lifetimeIn, conditionIn, unitOf, read, vacant]
      exact inductionHypothesis accepted
  | case7 lifetime condition word rest text spelled option _ isMissing inductionHypothesis =>
      have capitals : capitals? word = some option := capitals?_of_text? spelled
      obtain ⟨noUnit, found⟩ := condition_of_capitals capitals (.inl ⟨isMissing.1, rfl⟩)
      have vacant : condition = none := Option.isNone_iff_eq_none.mp isMissing.2
      rw [lifetimeIn_cons noUnit, conditionIn_cons noUnit, found, vacant]
      exact inductionHypothesis accepted
  | case8 lifetime condition word rest text spelled option _ _ isPresent inductionHypothesis =>
      have capitals : capitals? word = some option := capitals?_of_text? spelled
      obtain ⟨noUnit, found⟩ := condition_of_capitals capitals (.inr ⟨isPresent.1, rfl⟩)
      have vacant : condition = none := Option.isNone_iff_eq_none.mp isPresent.2
      rw [lifetimeIn_cons noUnit, conditionIn_cons noUnit, found, vacant]
      exact inductionHypothesis accepted
  | case2 | case3 | case4 | case5 | case9 => cases accepted

theorem firstOfEachTwo_of_keyPairs {name : String} {arguments : List Bytes}
    {pairs : List (String × Bytes)} (accepted : keyPairs name arguments = .ok pairs) :
    firstOfEachTwo arguments = (pairs.map Prod.fst).map Bytes.ofText := by
  fun_induction keyPairs name arguments generalizing pairs with
  | case1 =>
      cases accepted
      rfl
  | case5 word value rest key spelled others later inductionHypothesis =>
      cases accepted
      rw [firstOfEachTwo, inductionHypothesis later, List.map_cons, List.map_cons,
        Bytes.ofText_of_text? spelled]
  | case2 | case3 | case4 => cases accepted

/-! ### All kinds -/

/-- A request that is read from arguments names the keys that these name, and asks for the treatment
that they ask for. -/
theorem ReadFrom.follows {name : String} {kind : CommandKind} {arguments : List Bytes}
    {request : Request} (read : ReadFrom name kind arguments request) :
    request.Follows kind arguments := by
  cases read with
  | set key value accepted =>
      obtain ⟨lives, depends⟩ := options_of_setOptions accepted
      rw [Option.none_or] at lives depends
      subst lives depends
      exact ⟨rfl, fun _ => rfl⟩
  | expire key spelled =>
      refine ⟨rfl, fun isPresent => ?_⟩
      change (match IntegerType.int64.read? _ with | some seconds => _ | none => _) = _
      rw [spelled]
      rfl
  | mset accepted => exact ⟨congrArg some (firstOfEachTwo_of_keyPairs accepted), fun _ => rfl⟩
  | _ => exact ⟨rfl, fun _ => rfl⟩

example :
    CommandKind.set.treatment (["key", "value", "nx", "Px", "1500"].map Bytes.ofText) false =
      .stored (some 1500) := by
  decide +kernel

theorem follows_of_ofCommand {command : Command} {request : Request}
    (read : ofCommand command = .ok request) :
    request.Follows command.kind command.arguments :=
  (readFrom_of_ofCommand read).follows

end Request

end RespServer
