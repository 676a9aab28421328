/-!
Contract: the commands that the server knows by name.

Owns:
- the kinds of command in the order of statistics, with their names;
- which kinds run deferred, which are supported and which are implemented;
- finding the kind of a name, without regard to ASCII case.

Does not own: arguments and effects (`Request`).
-/

namespace RespServer

/-- The kinds of command; `unknown` stands for every other name. -/
inductive CommandKind where
  -- connection
  | auth | client | echo | ping | quit | select
  -- server
  | config | dbsize | flushall | info | shutdown
  -- texts
  | append | decr | decrby | get | getdel | incr | incrby | incrbyfloat | mget | mset | set
  | setnx | strlen
  -- keys
  | del | exist | expire | keys | ttl | type
  -- hashes
  | hdel | hget | hgetall | hset
  -- channels
  | publish | subscribe | unsubscribe
  -- transactions
  | exec | multi | watch
  | unknown
deriving DecidableEq, Repr, Inhabited

namespace CommandKind

def all : List CommandKind :=
  [.auth, .client, .echo, .ping, .quit, .select,
    .config, .dbsize, .flushall, .info, .shutdown,
    .append, .decr, .decrby, .get, .getdel, .incr, .incrby, .incrbyfloat, .mget, .mset, .set,
    .setnx, .strlen,
    .del, .exist, .expire, .keys, .ttl, .type,
    .hdel, .hget, .hgetall, .hset,
    .publish, .subscribe, .unsubscribe,
    .exec, .multi, .watch,
    .unknown]

theorem mem_all (kind : CommandKind) : kind ∈ all := by
  cases kind <;> decide

/-- The position among all kinds. -/
def index (kind : CommandKind) : Nat :=
  kind.ctorIdx

/-- The list is in the order of the positions. -/
theorem index_all : all.map index = List.range 41 := by
  decide

/-- The position finds the kind in the list. -/
theorem getElem?_all_index (kind : CommandKind) : all[kind.index]? = some kind := by
  cases kind <;> rfl

theorem index_injective {left right : CommandKind} (same : left.index = right.index) :
    left = right := by
  have found := getElem?_all_index left
  rw [same, getElem?_all_index right] at found
  exact (Option.some.inj found).symm

def name : CommandKind → String
  | .auth => "AUTH"
  | .client => "CLIENT"
  | .echo => "ECHO"
  | .ping => "PING"
  | .quit => "QUIT"
  | .select => "SELECT"
  | .config => "CONFIG"
  | .dbsize => "DBSIZE"
  | .flushall => "FLUSHALL"
  | .info => "INFO"
  | .shutdown => "SHUTDOWN"
  | .append => "APPEND"
  | .decr => "DECR"
  | .decrby => "DECRBY"
  | .get => "GET"
  | .getdel => "GETDEL"
  | .incr => "INCR"
  | .incrby => "INCRBY"
  | .incrbyfloat => "INCRBYFLOAT"
  | .mget => "MGET"
  | .mset => "MSET"
  | .set => "SET"
  | .setnx => "SETNX"
  | .strlen => "STRLEN"
  | .del => "DEL"
  | .exist => "EXISTS"
  | .expire => "EXPIRE"
  | .keys => "KEYS"
  | .ttl => "TTL"
  | .type => "TYPE"
  | .hdel => "HDEL"
  | .hget => "HGET"
  | .hgetall => "HGETALL"
  | .hset => "HSET"
  | .publish => "PUBLISH"
  | .subscribe => "SUBSCRIBE"
  | .unsubscribe => "UNSUBSCRIBE"
  | .exec => "EXEC"
  | .multi => "MULTI"
  | .watch => "WATCH"
  | .unknown => "UNKNOWN"

/-- The name in small letters, as statistics show it. -/
def smallName (kind : CommandKind) : String :=
  String.ofList (kind.name.toList.map Char.toLower)

/-- The kind with a name, in any mixture of ASCII capitals and small letters. -/
def ofName? (name : String) : Option CommandKind :=
  let capitals := String.ofList (name.toList.map Char.toUpper)
  all.find? fun kind => kind.name = capitals

/-- The wording for a name that is no kind's. -/
def noSuchName : String :=
  "Matching variant not found"

/-- The kind with a name, or the kind of all other names. -/
def ofName (name : String) : CommandKind :=
  (ofName? name).getD .unknown

/-- Kinds whose work is done by the worker pool, after the command was taken up. -/
def isDeferred : CommandKind → Bool
  | .del | .mget | .mset | .keys | .dbsize | .flushall => true
  | _ => false

/-- Kinds that run without the setting for unsupported commands. -/
def isSupported : CommandKind → Bool
  | .setnx | .getdel | .incrbyfloat => false
  | _ => true

/-- Kinds that do something. -/
def isImplemented : CommandKind → Bool
  | .subscribe | .unsubscribe | .multi | .exec | .watch => false
  | _ => true

end CommandKind

end RespServer
