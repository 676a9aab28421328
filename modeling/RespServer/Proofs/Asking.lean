import RespServer.Proofs.Replay

/-!
Contract: how a client asks for what concerns keys.

Owns:
- `Asks`, the arguments by which a command of a kind asks for a request, one constructor for each
  kind;
- that reading such arguments yields that request;
- `Session.ask`, carrying out such a command at once, and what it yields.

Does not own: arguments that are refused (`Proofs.Refusals`), and which options of a command that
stores octets are accepted (`Request.setOptions`).

A number is asked for by any octets that are read as it, so `+5` and `05` ask for what `5` asks
for. Keys are texts, and only their spelling is read as them.
-/

namespace RespServer

namespace CommandKind

/-- The command of a kind with arguments, by the name that the kind has in capitals. -/
def command (kind : CommandKind) (arguments : List Bytes) : Command :=
  Command.new kind.name arguments

/-- The name of a kind finds the kind. -/
@[simp] theorem kind_command (kind : CommandKind) (arguments : List Bytes) :
    (kind.command arguments).kind = kind := by
  cases kind <;> rfl

end CommandKind

namespace ArgumentReader

variable {name : String} {arguments rest : List Bytes}

theorem bind_of_ok {first : ArgumentReader α} {value : α} (next : α → ArgumentReader β)
    (read : first arguments = .ok (value, rest)) : (first >>= next) arguments = next value rest := by
  change (first arguments >>= fun read => next read.1 read.2) = _
  rw [read]
  rfl

theorem bind_of_error {first : ArgumentReader α} {cause : Failure} (next : α → ArgumentReader β)
    (refused : first arguments = .error cause) : (first >>= next) arguments = .error cause := by
  change (first arguments >>= fun read => next read.1 read.2) = _
  rw [refused]
  rfl

theorem run_of_all_read {reader : ArgumentReader α} {value : α}
    (read : reader arguments = .ok (value, [])) : reader.run arguments = .ok value :=
  congrArg (Except.map Prod.fst) read

theorem octets_cons (name : String) (argument : Bytes) (rest : List Bytes) :
    octets name (argument :: rest) = .ok (argument, rest) :=
  rfl

theorem text_ofText (name text : String) (rest : List Bytes) :
    ArgumentReader.text name (Bytes.ofText text :: rest) = .ok (text, rest) := by
  rw [ArgumentReader.text, bind_of_ok _ (octets_cons name _ rest), Bytes.text?_ofText]
  rfl

theorem text_of_some {argument : Bytes} {text : String}
    (spelled : Bytes.text? argument = some text) (name : String) (rest : List Bytes) :
    ArgumentReader.text name (argument :: rest) = .ok (text, rest) := by
  rw [← Bytes.ofText_of_text? spelled]
  exact text_ofText name text rest

theorem text_of_none {argument : Bytes} (unspelled : Bytes.text? argument = none) (name : String)
    (rest : List Bytes) : ArgumentReader.text name (argument :: rest) = .error .notText := by
  rw [ArgumentReader.text, bind_of_ok _ (octets_cons name argument rest), unspelled]
  rfl

theorem integer_of_read {argument : Bytes} {number : Int}
    (spelled : IntegerType.int64.read? argument = some number) (name : String)
    (rest : List Bytes) : integer name (argument :: rest) = .ok (number, rest) := by
  rw [integer, bind_of_ok _ (octets_cons name argument rest), spelled]
  rfl

theorem remaining_apply (arguments : List Bytes) :
    remaining arguments = .ok (arguments, []) :=
  rfl

theorem lift_of_ok {reading : Except Failure α} {value : α} (read : reading = .ok value)
    (arguments : List Bytes) :
    (liftM reading : ArgumentReader α) arguments = .ok (value, arguments) := by
  rw [read]
  rfl

theorem textsOf_map (texts : List String) : textsOf (texts.map Bytes.ofText) = .ok texts := by
  induction texts with
  | nil => rfl
  | cons text rest inductionHypothesis =>
      rw [List.map_cons, textsOf, Bytes.text?_ofText, inductionHypothesis]

theorem someTexts_map (name text : String) (texts : List String) :
    someTexts name ((text :: texts).map Bytes.ofText) = .ok (text :: texts, []) := by
  have others : ArgumentReader.texts (texts.map Bytes.ofText) = .ok (texts, []) := by
    rw [ArgumentReader.texts, bind_of_ok _ (remaining_apply _)]
    exact lift_of_ok (textsOf_map texts) []
  rw [List.map_cons, someTexts, bind_of_ok _ (text_ofText name text _), bind_of_ok _ others]
  rfl

end ArgumentReader

namespace Request

open ArgumentReader

/-- Keys and values by turns. -/
def keysAndValues (pairs : List (String × Bytes)) : List Bytes :=
  pairs.flatMap fun pair => [Bytes.ofText pair.1, pair.2]

/-- Fields and values by turns. -/
def fieldsAndValues (pairs : List (Bytes × Bytes)) : List Bytes :=
  pairs.flatMap fun pair => [pair.1, pair.2]

/-- A command of the kind asks for the request by these arguments. -/
inductive Asks : CommandKind → List Bytes → Request → Prop where
  | append (key : String) (suffix : Bytes) :
      Asks .append [Bytes.ofText key, suffix] (.append key suffix)
  | dbsize : Asks .dbsize [] (.defer .countKeys)
  | decr (key : String) : Asks .decr [Bytes.ofText key] (.add key (-1))
  | decrby (key : String) {amount : Bytes} {decrement : Int}
      (spelled : IntegerType.int64.read? amount = some decrement) :
      Asks .decrby [Bytes.ofText key, amount] (.subtract key decrement)
  | del (key : String) (others : List String) :
      Asks .del ((key :: others).map Bytes.ofText) (.defer (.delete (key :: others)))
  | exist (key : String) (others : List String) :
      Asks .exist ((key :: others).map Bytes.ofText) (.exist (key :: others))
  | expire (key : String) {amount : Bytes} {seconds : Int}
      (spelled : IntegerType.int64.read? amount = some seconds) :
      Asks .expire [Bytes.ofText key, amount] (.expire key seconds)
  | get (key : String) : Asks .get [Bytes.ofText key] (.get key)
  | getdel (key : String) : Asks .getdel [Bytes.ofText key] (.take key)
  | hdel (key : String) (name : Bytes) (others : List Bytes) :
      Asks .hdel (Bytes.ofText key :: name :: others) (.removeFields key (name :: others))
  | hget (key : String) (field : Bytes) :
      Asks .hget [Bytes.ofText key, field] (.readField key field)
  | hgetall (key : String) : Asks .hgetall [Bytes.ofText key] (.readFields key)
  | hset (key : String) (pair : Bytes × Bytes) (others : List (Bytes × Bytes)) :
      Asks .hset (Bytes.ofText key :: fieldsAndValues (pair :: others))
        (.setFields key (pair :: others))
  | incr (key : String) : Asks .incr [Bytes.ofText key] (.add key 1)
  | incrby (key : String) {amount : Bytes} {increment : Int}
      (spelled : IntegerType.int64.read? amount = some increment) :
      Asks .incrby [Bytes.ofText key, amount] (.add key increment)
  | mget (key : String) (others : List String) :
      Asks .mget ((key :: others).map Bytes.ofText) (.defer (.readEach (key :: others)))
  | mset (pair : String × Bytes) (others : List (String × Bytes)) :
      Asks .mset (keysAndValues (pair :: others)) (.defer (.storeEach (pair :: others)))
  | set (key : String) (value : Bytes) {options : List Bytes} {lifetime : Option Duration}
      {condition : Option SetCondition}
      (accepted : ∀ name, setOptions name none none options = .ok (lifetime, condition)) :
      Asks .set (Bytes.ofText key :: value :: options) (.set key value lifetime condition)
  | setnx (key : String) (value : Bytes) :
      Asks .setnx [Bytes.ofText key, value] (.setIfMissing key value)
  | strlen (key : String) : Asks .strlen [Bytes.ofText key] (.length key)

/-! ### Lists of pairs -/

theorem keyPairs_keysAndValues (name : String) (pairs : List (String × Bytes)) :
    keyPairs name (keysAndValues pairs) = .ok pairs := by
  induction pairs with
  | nil => rfl
  | cons pair rest inductionHypothesis =>
      change keyPairs name (Bytes.ofText pair.1 :: pair.2 :: keysAndValues rest) = _
      rw [keyPairs, Bytes.text?_ofText, inductionHypothesis]

theorem fieldPairs_fieldsAndValues (pairs : List (Bytes × Bytes)) :
    fieldPairs (fieldsAndValues pairs) = pairs := by
  induction pairs with
  | nil => rfl
  | cons pair rest inductionHypothesis =>
      change pair :: fieldPairs (fieldsAndValues rest) = _
      rw [inductionHypothesis]

/-- Two arguments for each element are an even number of arguments. -/
theorem arePairs_flatMap (first second : α → Bytes) (element : α) (rest : List α) :
    arePairs ((element :: rest).flatMap fun element => [first element, second element]) = true := by
  have even : (rest.flatMap fun element => [first element, second element]).length % 2 = 0 := by
    induction rest with
    | nil => rfl
    | cons element rest inductionHypothesis =>
        rw [List.flatMap_cons, List.length_append, List.length_cons, List.length_singleton]
        omega
  rw [arePairs, List.flatMap_cons, List.length_append, List.length_cons, List.length_singleton,
    Nat.add_mod, even]
  rfl

theorem arePairs_fieldsAndValues (pair : Bytes × Bytes) (others : List (Bytes × Bytes)) :
    arePairs (fieldsAndValues (pair :: others)) = true :=
  arePairs_flatMap Prod.fst Prod.snd pair others

theorem arePairs_keysAndValues (pair : String × Bytes) (others : List (String × Bytes)) :
    arePairs (keysAndValues (pair :: others)) = true :=
  arePairs_flatMap (fun pair : String × Bytes => Bytes.ofText pair.1) Prod.snd pair others

/-! ### Reading -/

theorem oneKey_ofText (name : String) (request : String → Request) (key : String) :
    (oneKey name request).run [Bytes.ofText key] = .ok (request key) := by
  refine run_of_all_read ?_
  rw [oneKey, bind_of_ok _ (text_ofText name key [])]
  rfl

/-- What a command asks for is what is read from its arguments. -/
theorem reader_of_asks {kind : CommandKind} {arguments : List Bytes} {request : Request}
    (asks : Asks kind arguments request) (name : String) :
    (reader kind name).run arguments = .ok request := by
  cases asks with
  | dbsize => rfl
  | decr key | get key | getdel key | hgetall key | incr key | strlen key =>
      exact oneKey_ofText name _ key
  | append key octets | hget key octets | setnx key octets =>
      refine run_of_all_read ?_
      rw [reader, bind_of_ok _ (text_ofText name key _)]
      rfl
  | decrby key spelled | expire key spelled | incrby key spelled =>
      refine run_of_all_read ?_
      rw [reader, bind_of_ok _ (text_ofText name key _),
        bind_of_ok _ (integer_of_read spelled name [])]
      rfl
  | del key others | exist key others | mget key others =>
      refine run_of_all_read ?_
      rw [reader, bind_of_ok _ (someTexts_map name key others)]
      rfl
  | hdel key field others =>
      refine run_of_all_read ?_
      rw [reader, bind_of_ok _ (text_ofText name key _)]
      rfl
  | hset key pair others =>
      refine run_of_all_read ?_
      rw [reader, bind_of_ok _ (text_ofText name key _), bind_of_ok _ (remaining_apply _),
        if_pos (arePairs_fieldsAndValues pair others), fieldPairs_fieldsAndValues]
      rfl
  | mset pair others =>
      refine run_of_all_read ?_
      rw [reader, bind_of_ok _ (remaining_apply _), if_pos (arePairs_keysAndValues pair others),
        bind_of_ok _ (lift_of_ok (keyPairs_keysAndValues name _) [])]
      rfl
  | set key value accepted =>
      refine run_of_all_read ?_
      rw [reader, bind_of_ok _ (text_ofText name key _), bind_of_ok _ (octets_cons name value _),
        bind_of_ok _ (remaining_apply _), bind_of_ok _ (lift_of_ok (accepted name) [])]
      rfl

/-- The one option that asks for a missing key. -/
theorem setOptions_ifMissing (name : String) :
    setOptions name none none [Bytes.ofText "NX"] = .ok (none, some .ifMissing) := by
  rw [setOptions, Bytes.text?_ofText]
  rfl

theorem ofCommand_of_asks {kind : CommandKind} {arguments : List Bytes} {request : Request}
    (asks : Asks kind arguments request) :
    ofCommand (kind.command arguments) = .ok request := by
  rw [ofCommand, CommandKind.kind_command]
  exact reader_of_asks asks _

end Request

/-! ## Carrying out -/

/-- A command is carried out as the request that it asks for. -/
theorem Command.execute_of_asks {kind : CommandKind} {arguments : List Bytes} {request : Request}
    (asks : Request.Asks kind arguments request) (scene : Scene) :
    (kind.command arguments).execute scene = request.run scene := by
  rw [Command.execute, Request.ofCommand_of_asks asks]

namespace Session

/-- What a session lets a command see and change. -/
def scene (session : Session) : Scene :=
  ⟨session.services, session.connection.authenticated⟩

/-- Carries out a command of a kind with arguments; work that it defers is done at once. -/
def ask (session : Session) (kind : CommandKind) (arguments : List Bytes) : Outcome × Session :=
  session.performAtOnce (kind.command arguments)

section Asking

variable {session : Session} {kind : CommandKind} {arguments : List Bytes} {request : Request}

theorem ask_of_run (asks : Request.Asks kind arguments request) {outcome : Outcome}
    {store : Store} (ran : request.run session.scene = (outcome, session.scene.withStore store))
    (atOnce : outcome.isAtOnce = true) :
    session.ask kind arguments = (outcome, session.withStore store) := by
  have executed : (kind.command arguments).execute
      ⟨session.services, session.connection.authenticated⟩ =
        (outcome, session.scene.withStore store) :=
    (Command.execute_of_asks asks _).trans ran
  rw [ask, performAtOnce, executed]
  cases outcome with
  | deferred work => cases atOnce
  | reply | failed | aborted => rfl

/-- A request that leaves the store alone leaves the session alone. -/
theorem ask_of_reading (asks : Request.Asks kind arguments request) {outcome : Outcome}
    (ran : request.run session.scene = (outcome, session.scene))
    (atOnce : outcome.isAtOnce = true) : session.ask kind arguments = (outcome, session) :=
  ask_of_run asks ran atOnce

theorem ask_of_work {work : Work} (asks : Request.Asks kind arguments (.defer work))
    {frame : Frame} {store : Store} (ran : work.run session.services.store = (.reply frame, store)) :
    session.ask kind arguments = (.reply frame, session.withStore store) := by
  have executed : (kind.command arguments).execute
      ⟨session.services, session.connection.authenticated⟩ = (.deferred work, session.scene) :=
    Command.execute_of_asks asks _
  have worked : work.run session.scene.services.store = (.reply frame, store) := ran
  rw [ask, performAtOnce, executed]
  dsimp only
  rw [worked]
  rfl

end Asking

end Session

end RespServer
