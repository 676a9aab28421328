import RespServer.Command.Request

/-!
Contract: what the readers of arguments can yield, whatever the arguments are.

Owns:
- what each reader of one or more arguments has read, if it has read anything;
- the relation `Yields` and its rules for pure values, failures and sequences;
- `ReadFrom`, what the arguments of each kind of command are read as, and that each reader keeps to
  it;
- that a reader yields deferred work exactly if the kind is one of the deferred kinds, that a time
  to live is positive, and that requests of a kind of their own come from that kind.

Does not own: which arguments a reader accepts (`Proofs.Arity`).

What is read is compared with the arguments from the front. Behind the last argument that a request
depends on nothing is said of the rest.
-/

namespace RespServer

namespace ArgumentReader

/-! ## Links of a chain -/

section Links

variable {name : String} {arguments rest : List Bytes}

theorem bind_eq_ok {first : ArgumentReader α} {next : α → ArgumentReader β} {value : β}
    (read : (first >>= next) arguments = .ok (value, rest)) :
    ∃ middle unread, first arguments = .ok (middle, unread) ∧
      next middle unread = .ok (value, rest) := by
  change (first arguments >>= fun read => next read.1 read.2) = _ at read
  cases begun : first arguments with
  | error failure =>
      rw [begun] at read
      cases read
  | ok pair =>
      rw [begun] at read
      exact ⟨pair.1, pair.2, rfl, read⟩

theorem octets_eq_ok {argument : Bytes} (read : octets name arguments = .ok (argument, rest)) :
    arguments = argument :: rest := by
  cases arguments with
  | nil => cases read
  | cons first others =>
      cases read
      rfl

theorem text_eq_ok {text : String} (read : ArgumentReader.text name arguments = .ok (text, rest)) :
    arguments = Bytes.ofText text :: rest := by
  obtain ⟨argument, unread, readFirst, readNext⟩ := bind_eq_ok read
  rw [octets_eq_ok readFirst]
  cases spelled : Bytes.text? argument with
  | none =>
      rw [spelled] at readNext
      cases readNext
  | some text =>
      rw [spelled] at readNext
      cases readNext
      rw [Bytes.ofText_of_text? spelled]

theorem integer_eq_ok {number : Int} (read : integer name arguments = .ok (number, rest)) :
    ∃ argument, arguments = argument :: rest ∧ IntegerType.int64.read? argument = some number := by
  obtain ⟨argument, unread, readFirst, readNext⟩ := bind_eq_ok read
  refine ⟨argument, ?_⟩
  rw [octets_eq_ok readFirst]
  cases spelled : IntegerType.int64.read? argument with
  | none =>
      rw [spelled] at readNext
      cases readNext
  | some number =>
      rw [spelled] at readNext
      cases readNext
      exact ⟨rfl, rfl⟩

theorem textsOf_eq_ok {texts : List String} (read : textsOf arguments = .ok texts) :
    arguments = texts.map Bytes.ofText := by
  induction arguments generalizing texts with
  | nil =>
      cases read
      rfl
  | cons argument others inductionHypothesis =>
      rw [textsOf] at read
      cases spelled : Bytes.text? argument with
      | none =>
          rw [spelled] at read
          cases read
      | some text =>
          rw [spelled] at read
          cases later : textsOf others with
          | error failure =>
              rw [later] at read
              cases read
          | ok others =>
              rw [later] at read
              cases read
              rw [inductionHypothesis later, List.map_cons, Bytes.ofText_of_text? spelled]

theorem lift_eq_ok {reading : Except Failure α} {value : α}
    (read : (liftM reading : ArgumentReader α) arguments = .ok (value, rest)) :
    reading = .ok value ∧ rest = arguments := by
  cases reading with
  | error failure => cases read
  | ok value =>
      cases read
      exact ⟨rfl, rfl⟩

theorem someTexts_eq_ok {texts : List String}
    (read : someTexts name arguments = .ok (texts, rest)) :
    arguments = texts.map Bytes.ofText := by
  obtain ⟨first, unread, readFirst, readNext⟩ := bind_eq_ok read
  obtain ⟨others, last, readOthers, whole⟩ := bind_eq_ok readNext
  obtain ⟨remainder, nothing, readAll, spelled⟩ := bind_eq_ok readOthers
  cases readAll
  cases whole
  rw [text_eq_ok readFirst, textsOf_eq_ok (lift_eq_ok spelled).1, List.map_cons]

theorem run_eq_ok {reader : ArgumentReader α} {value : α}
    (read : run reader arguments = .ok value) : ∃ rest, reader arguments = .ok (value, rest) := by
  unfold run at read
  cases all : StateT.run reader arguments with
  | error failure =>
      rw [all] at read
      cases read
  | ok pair =>
      rw [all] at read
      cases read
      exact ⟨pair.2, all⟩

end Links

/-! ## What readers yield -/

/-- Every value that a reader yields is related to the arguments that it was read from. -/
def Yields (reader : ArgumentReader α) (relation : List Bytes → α → Prop) : Prop :=
  ∀ arguments value rest, reader arguments = .ok (value, rest) → relation arguments value

section Rules

variable {name : String} {relation : List Bytes → β → Prop}

theorem yields_pure {value : β} (holds : ∀ arguments, relation arguments value) :
    Yields (pure value) relation := by
  intro arguments yielded rest read
  cases read
  exact holds arguments

theorem yields_throw (failure : Failure) : Yields (throw failure : ArgumentReader β) relation := by
  intro arguments yielded rest read
  cases read

/-- What comes first may have read any arguments. -/
theorem yields_bind {first : ArgumentReader α} {next : α → ArgumentReader β}
    (later : ∀ value, Yields (next value) fun _ result => ∀ arguments, relation arguments result) :
    Yields (first >>= next) relation := by
  intro arguments yielded rest read
  obtain ⟨middle, unread, readFirst, readNext⟩ := bind_eq_ok read
  exact later middle _ _ _ readNext arguments

theorem yields_octets {next : Bytes → ArgumentReader β}
    (later : ∀ argument, Yields (next argument) fun rest => relation (argument :: rest)) :
    Yields (octets name >>= next) relation := by
  intro arguments yielded rest read
  obtain ⟨argument, unread, readFirst, readNext⟩ := bind_eq_ok read
  rw [octets_eq_ok readFirst]
  exact later argument _ _ _ readNext

theorem yields_text {next : String → ArgumentReader β}
    (later : ∀ text, Yields (next text) fun rest => relation (Bytes.ofText text :: rest)) :
    Yields (text name >>= next) relation := by
  intro arguments yielded rest read
  obtain ⟨text, unread, readFirst, readNext⟩ := bind_eq_ok read
  rw [text_eq_ok readFirst]
  exact later text _ _ _ readNext

theorem yields_integer {next : Int → ArgumentReader β}
    (later : ∀ argument number, IntegerType.int64.read? argument = some number →
      Yields (next number) fun rest => relation (argument :: rest)) :
    Yields (integer name >>= next) relation := by
  intro arguments yielded rest read
  obtain ⟨number, unread, readFirst, readNext⟩ := bind_eq_ok read
  obtain ⟨argument, rfl, spelled⟩ := integer_eq_ok readFirst
  exact later argument number spelled _ _ _ readNext

theorem yields_someTexts {next : List String → ArgumentReader β}
    (later : ∀ texts, Yields (next texts) fun _ => relation (texts.map Bytes.ofText)) :
    Yields (someTexts name >>= next) relation := by
  intro arguments yielded rest read
  obtain ⟨texts, unread, readFirst, readNext⟩ := bind_eq_ok read
  rw [someTexts_eq_ok readFirst]
  exact later texts _ _ _ readNext

theorem yields_remaining {next : List Bytes → ArgumentReader β}
    (later : ∀ arguments, Yields (next arguments) fun _ => relation arguments) :
    Yields (remaining >>= next) relation := by
  intro arguments yielded rest read
  obtain ⟨all, nothing, readAll, readNext⟩ := bind_eq_ok read
  cases readAll
  exact later arguments _ _ _ readNext

theorem yields_lift {reading : Except Failure α} {next : α → ArgumentReader β}
    (later : ∀ value, reading = .ok value → Yields (next value) relation) :
    Yields (liftM reading >>= next) relation := by
  intro arguments yielded rest read
  obtain ⟨value, unread, readFirst, readNext⟩ := bind_eq_ok read
  obtain ⟨accepted, rfl⟩ := lift_eq_ok readFirst
  exact later value accepted _ _ _ readNext

end Rules

end ArgumentReader

namespace Request

open ArgumentReader

/-! ## What each kind is read as -/

/-- What the arguments of a command by that name are read as, one constructor for each request that
a kind can ask for. -/
inductive ReadFrom (name : String) : CommandKind → List Bytes → Request → Prop where
  | auth (password : Bytes) : ReadFrom name .auth arguments (.auth password)
  | client (subcommand : String) : ReadFrom name .client arguments (.client subcommand)
  | echo (message : Bytes) : ReadFrom name .echo arguments (.echo message)
  | ping (payload : Option Bytes) : ReadFrom name .ping arguments (.ping payload)
  | quit : ReadFrom name .quit arguments .quit
  | select (index : Int) : ReadFrom name .select arguments (.select index)
  | readSetting (pattern : String) : ReadFrom name .config arguments (.readSetting pattern)
  | changeSetting (parameter value : String) :
      ReadFrom name .config arguments (.changeSetting parameter value)
  | dbsize : ReadFrom name .dbsize arguments (.defer .countKeys)
  | flushall : ReadFrom name .flushall arguments (.defer .clear)
  | info : ReadFrom name .info arguments .info
  | shutdown : ReadFrom name .shutdown arguments .shutdown
  | append (key : String) (suffix : Bytes) :
      ReadFrom name .append (Bytes.ofText key :: rest) (.append key suffix)
  | decr (key : String) : ReadFrom name .decr (Bytes.ofText key :: rest) (.add key (-1))
  | decrby (key : String) (decrement : Int) :
      ReadFrom name .decrby (Bytes.ofText key :: rest) (.subtract key decrement)
  | get (key : String) : ReadFrom name .get (Bytes.ofText key :: rest) (.get key)
  | getdel (key : String) : ReadFrom name .getdel (Bytes.ofText key :: rest) (.take key)
  | incr (key : String) : ReadFrom name .incr (Bytes.ofText key :: rest) (.add key 1)
  | incrby (key : String) (increment : Int) :
      ReadFrom name .incrby (Bytes.ofText key :: rest) (.add key increment)
  | incrbyfloat (key : String) (increment : Binary64) :
      ReadFrom name .incrbyfloat (Bytes.ofText key :: rest) (.addFloat key increment)
  | mget (keys : List String) :
      ReadFrom name .mget (keys.map Bytes.ofText) (.defer (.readEach keys))
  | mset {pairs : List (String × Bytes)} (accepted : keyPairs name arguments = .ok pairs) :
      ReadFrom name .mset arguments (.defer (.storeEach pairs))
  | set (key : String) (value : Bytes) {options : List Bytes} {lifetime : Option Duration}
      {condition : Option SetCondition}
      (accepted : setOptions name none none options = .ok (lifetime, condition)) :
      ReadFrom name .set (Bytes.ofText key :: value :: options)
        (.set key value lifetime condition)
  | setnx (key : String) (value : Bytes) :
      ReadFrom name .setnx (Bytes.ofText key :: rest) (.setIfMissing key value)
  | strlen (key : String) : ReadFrom name .strlen (Bytes.ofText key :: rest) (.length key)
  | del (keys : List String) :
      ReadFrom name .del (keys.map Bytes.ofText) (.defer (.delete keys))
  | exist (keys : List String) : ReadFrom name .exist (keys.map Bytes.ofText) (.exist keys)
  | expire (key : String) {amount : Bytes} {seconds : Int}
      (spelled : IntegerType.int64.read? amount = some seconds) :
      ReadFrom name .expire (Bytes.ofText key :: amount :: rest) (.expire key seconds)
  | keys (pattern : String) : ReadFrom name .keys arguments (.defer (.listKeys pattern))
  | ttl (key : String) : ReadFrom name .ttl (Bytes.ofText key :: rest) (.timeToLive key)
  | type (key : String) : ReadFrom name .type (Bytes.ofText key :: rest) (.typeName key)
  | hdel (key : String) (first : Bytes) (others : List Bytes) :
      ReadFrom name .hdel (Bytes.ofText key :: first :: others)
        (.removeFields key (first :: others))
  | hget (key : String) (field : Bytes) :
      ReadFrom name .hget (Bytes.ofText key :: rest) (.readField key field)
  | hgetall (key : String) : ReadFrom name .hgetall (Bytes.ofText key :: rest) (.readFields key)
  | hset (key : String) {fields : List Bytes} (paired : arePairs fields = true) :
      ReadFrom name .hset (Bytes.ofText key :: fields) (.setFields key (fieldPairs fields))
  | publish (channel : String) (message : Bytes) :
      ReadFrom name .publish arguments (.publish channel message)
  | unknown : ReadFrom name .unknown arguments (.unknown name)

/-- The rules of `Yields` follow the text of each reader down to the request that it returns. An
argument is kept in sight only if a later constructor could name it. -/
theorem reader_yields (kind : CommandKind) (name : String) :
    Yields (reader kind name) (ReadFrom name kind) := by
  cases kind <;> unfold reader
  all_goals try unfold oneKey
  all_goals
    repeat'
      with_reducible first
      | apply yields_text; intro text
      | apply yields_octets; intro octets
      | apply yields_integer; intro argument number spelled
      | apply yields_someTexts; intro texts
      | apply yields_remaining; intro all
      | apply yields_lift; intro value accepted
      | apply yields_bind; intro value
      | apply yields_throw
      | apply yields_pure
      | split
      | dsimp only
  all_goals
    intros
    constructor
  all_goals assumption

theorem readFrom_of_ofCommand {command : Command} {request : Request}
    (read : ofCommand command = .ok request) :
    ReadFrom command.name command.kind command.arguments request := by
  obtain ⟨rest, read⟩ := run_eq_ok read
  exact reader_yields _ _ _ _ _ read

/-! ## What requests promise -/

/-- Whether the request leaves its work to the worker pool. -/
def isDeferred : Request → Bool
  | .defer _ => true
  | _ => false

/-- The time to live that the request gives a key, if any. -/
def lifetime? : Request → Option Duration
  | .set _ _ lifetime _ => lifetime
  | _ => none

/-- The kind of the commands that alone ask for the request, where that counts: the presentation
of a secret, and what is answered with a text of the client. -/
def owner? : Request → Option CommandKind
  | .auth _ => some .auth
  | .client _ => some .client
  | .changeSetting _ _ => some .config
  | .unknown _ => some .unknown
  | _ => none

/-- What the reader of a kind's arguments promises of the request. -/
structure Suits (kind : CommandKind) (request : Request) : Prop where
  deferral : request.isDeferred = kind.isDeferred
  positive : ∀ lifetime ∈ request.lifetime?, 0 < lifetime
  owner : ∀ owner ∈ request.owner?, kind = owner

theorem positive_of_setOptions {name : String} {lifetime read : Option Duration}
    {condition chosen : Option SetCondition} {arguments : List Bytes}
    (positive : ∀ duration ∈ lifetime, 0 < duration)
    (accepted : setOptions name lifetime condition arguments = .ok (read, chosen)) :
    ∀ duration ∈ read, 0 < duration := by
  fun_induction setOptions name lifetime condition arguments with
  | case1 =>
      cases accepted
      exact positive
  | case6 _ _ _ _ _ option _ _ _ amount _ above unit inductionHypothesis =>
      apply inductionHypothesis _ accepted
      intro duration member
      cases member
      have amountPositive : 0 < amount.toNat := by omega
      have unitPositive : 0 < unit := by
        change 0 < if _ then _ else _
        split <;> decide
      exact Nat.mul_pos amountPositive unitPositive
  | case7 _ _ _ _ _ _ _ _ _ inductionHypothesis => exact inductionHypothesis positive accepted
  | case8 _ _ _ _ _ _ _ _ _ _ inductionHypothesis => exact inductionHypothesis positive accepted
  | case2 | case3 | case4 | case5 | case9 => cases accepted

theorem ReadFrom.suits {name : String} {kind : CommandKind} {arguments : List Bytes}
    {request : Request} (read : ReadFrom name kind arguments request) : request.Suits kind := by
  cases read with
  | set key value accepted =>
      have positive := positive_of_setOptions (by simp) accepted
      exact ⟨rfl, positive, by simp [owner?]⟩
  | _ => exact ⟨rfl, by simp [lifetime?], by simp [owner?]⟩

theorem suits_of_ofCommand {command : Command} {request : Request}
    (read : ofCommand command = .ok request) : request.Suits command.kind :=
  (readFrom_of_ofCommand read).suits

end Request

end RespServer
