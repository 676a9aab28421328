import RespServer.Glob
import RespServer.Number.Binary64.Shortest
import RespServer.Server.Services
import RespServer.Store.Expiry
import RespServer.Store.Hash
import RespServer.Store.Text

/-!
Contract: carrying out requests.

Owns:
- the effect and the outcome of every request, and of every kind of deferred work;
- what the completion of deferred work reports.

Does not own: whether a request may run, and where its reply goes (`Session`).
-/

namespace RespServer

/-! ## Settings -/

/-- The only setting that can be changed while the server runs. -/
def unsupportedSetting : String :=
  "enable-unsupported-commands"

/-- Settings that are fixed when the server starts. -/
def fixedSettings : List String :=
  ["bind", "port", "requirepass", "workers", "max-frame-size"]

/-- The keys that a pattern matches; none if the search never ends for one of them. -/
def matchingKeys? (pattern : Bytes) : List String → Option (List String)
  | [] => some []
  | key :: rest =>
      match Glob.matches? pattern (Bytes.ofText key) with
      | none => none
      | some matched =>
          (matchingKeys? pattern rest).map fun keys => if matched then key :: keys else keys

/-! ## Deferred work -/

inductive WorkResult where
  | reply (frame : Frame)
  | failed (cause : Failure)
  | aborted (reason : Abort)
deriving DecidableEq

/-- What the worker pool reports of deferred work: its reply, or its failure marked as one of
deferred work. Work that breaks off is reported as an internal failure; of work that never ends
there is no report. -/
def WorkResult.report : WorkResult → Option (Except Failure Frame)
  | .reply frame => some (.ok frame)
  | .failed cause => some (.error (.execution cause))
  | .aborted .endlessSearch => none
  | .aborted _ => some (.error (.internal "deferred command panicked"))

namespace Work

/-- Removes keys. Returns how many of them there were. -/
def deleteEach (store : Store) : List String → Nat × Store
  | [] => (0, store)
  | key :: rest =>
      let (removed, remaining) := deleteEach (store.erase key) rest
      (removed + (store.contains key).toNat, remaining)

/-- The octets of a key, or the null value if there are none. -/
def valueOrNull (store : Store) (key : String) : Frame :=
  match store.text? key with
  | .ok (some octets) => .bulk octets
  | _ => .null

def run (work : Work) (store : Store) : WorkResult × Store :=
  match work with
  | .delete keys =>
      let (removed, store) := deleteEach store keys
      (.reply (.count removed), store)
  | .readEach keys => (.reply (.array (keys.map (valueOrNull store))), store)
  | .storeEach pairs =>
      (.reply .ok, pairs.foldl (fun store pair => store.set pair.1 pair.2) store)
  | .listKeys pattern =>
      match matchingKeys? (Bytes.ofText pattern) store.keys with
      | none => (.aborted .endlessSearch, store)
      | some keys => (.reply (.array (keys.map .bulkText)), store)
  | .countKeys => (.reply (.count store.size), store)
  | .clear => (.reply .ok, store.clear)

end Work

/-! ## Requests -/

inductive Outcome where
  | reply (frame : Frame)
  /-- The worker pool is to do the rest. -/
  | deferred (work : Work)
  | failed (cause : Failure)
  | aborted (reason : Abort)
deriving DecidableEq

/-- What a request can see and change: the services, and whether its connection has presented
the secret. -/
structure Scene where
  services : Services
  authenticated : Bool

namespace Scene

def withStore (scene : Scene) (store : Store) : Scene :=
  { scene with services := { scene.services with store := store } }

end Scene

namespace Request

def number (value : Int) : Frame :=
  .integer (Int64.ofInt value)

/-- A reply of octets, or the null value. -/
def octetsOrNull : Option Bytes → Frame
  | none => .null
  | some octets => .bulk octets

def runAuth (password : Bytes) (scene : Scene) : Outcome × Scene :=
  match scene.services.password with
  | none => (.reply (.failure "Client sent AUTH, but no password is set"), scene)
  | some secret =>
      if secret = password then (.reply .ok, { scene with authenticated := true })
      else
        (.reply (.error "WRONGPASS invalid username-password pair or user is disabled."), scene)

/-- Acknowledges what client libraries say about themselves. -/
def runClient (subcommand : String) : Outcome :=
  if subcommand = "SETINFO" ∨ subcommand = "SETNAME" then .reply .ok
  else if subcommand = "GETNAME" then .reply .null
  else .failed (unknownSubcommand subcommand)

/-- Lists the settings that a pattern matches, each with its value. -/
def runReadSetting (pattern : String) (services : Services) : Outcome :=
  match Glob.matches? (Bytes.ofText pattern) (Bytes.ofText unsupportedSetting) with
  | none => .aborted .endlessSearch
  | some false => .reply (.array [])
  | some true =>
      let value := if services.allowUnsupported then "yes" else "no"
      .reply (.array [.bulkText unsupportedSetting, .bulkText value])

/-- What a text says about a setting that is on or off. -/
def switch? (value : String) : Option Bool :=
  let word := Text.lowercase value
  if word = "yes" ∨ word = "true" then some true
  else if word = "no" ∨ word = "false" then some false
  else none

def runChangeSetting (parameter value : String) (scene : Scene) : Outcome × Scene :=
  if parameter ∈ fixedSettings then
    (.failed (.invalidState
      ("CONFIG SET failed (possibly related to argument '" ++ parameter
        ++ "') - can't set immutable config")), scene)
  else if parameter ≠ unsupportedSetting then
    (.failed (.invalidArgument
      ("Unknown option or number of arguments for CONFIG SET - '" ++ parameter ++ "'")), scene)
  else match switch? value with
    | none =>
        (.failed (.invalidArgument
          ("Invalid argument '" ++ value ++ "' for CONFIG SET '" ++ parameter ++ "'")), scene)
    | some allowed =>
        (.reply .ok,
          { scene with services := { scene.services with allowUnsupported := allowed } })

def runAdd (key : String) (increment : Int) (scene : Scene) : Outcome × Scene :=
  match scene.services.store.add .int64 key increment with
  | .error cause => (.failed cause, scene)
  | .ok (sum, store) => (.reply (number sum), scene.withStore store)

def runAddFloat (key : String) (increment : Binary64) (scene : Scene) : Outcome × Scene :=
  match scene.services.store.text? key with
  | .error cause => (.failed cause, scene)
  | .ok octets =>
      match octets.elim (some (Binary64.zero false)) Binary64.read? with
      | none => (.failed .notFloat, scene)
      | some current =>
          let sum := current + increment
          if sum.isFinite then
            (.reply (.bulk sum.text), scene.withStore (scene.services.store.replace key sum.text))
          else (.failed (.arithmetic "increment would produce NaN or Infinity"), scene)

def runTake (key : String) (scene : Scene) : Outcome × Scene :=
  match scene.services.store.text? key with
  | .error cause => (.failed cause, scene)
  | .ok none => (.reply .null, scene)
  | .ok (some octets) => (.reply (.bulk octets), scene.withStore (scene.services.store.erase key))

def runSet (key : String) (value : Bytes) (lifetime : Option Duration)
    (condition : Option SetCondition) (scene : Scene) : Outcome × Scene :=
  let store := scene.services.store
  let holds :=
    match condition with
    | none => true
    | some .ifMissing => !store.contains key
    | some .ifPresent => store.contains key
  if holds then
    match lifetime with
    | none => (.reply .ok, scene.withStore (store.set key value))
    | some lifetime =>
        match store.setFor? key value lifetime with
        | none => (.aborted .deadlineOverflow, scene)
        | some store => (.reply .ok, scene.withStore store)
  else (.reply .null, scene)

/-- Lets a key expire; at once if the time is not positive. -/
def runExpire (key : String) (seconds : Int) (scene : Scene) : Outcome × Scene :=
  let store := scene.services.store
  if seconds ≤ 0 then
    (.reply (.count (store.contains key).toNat), scene.withStore (store.erase key))
  else match store.expire? key (seconds.toNat * 1000) with
    | none => (.aborted .deadlineOverflow, scene)
    | some (applied, store) => (.reply (.count applied.toNat), scene.withStore store)

/-- The time to live in seconds, rounded; negative if the key does not expire or exist. -/
def timeToLiveOf (key : String) (store : Store) : Frame :=
  match store.remaining? key with
  | some remaining => .count ((remaining + 500) / 1000)
  | none => number (if store.contains key then -1 else -2)

/-- The report of the server's statistics and of the number of its keys. -/
def information (services : Services) : String :=
  services.statistics.report ++ "\r\n# Keyspace\r\ndb0:keys=" ++ toString services.store.size
    ++ "\r\n"

/-- The reply that a reading of the store yields, or its failure. -/
def outcomeOf (reading : Except Failure α) (reply : α → Frame) : Outcome :=
  match reading with
  | .error cause => .failed cause
  | .ok value => .reply (reply value)

/-- The reply and the new store that a change of the store yields, or its failure. -/
def changeOf (change : Except Failure (Nat × Store)) (scene : Scene) : Outcome × Scene :=
  match change with
  | .error cause => (.failed cause, scene)
  | .ok (count, store) => (.reply (.count count), scene.withStore store)

def runSetFields (key : String) (fields : List (Bytes × Bytes)) (scene : Scene) :
    Outcome × Scene :=
  let (added, store) := scene.services.store.setFields key fields
  (outcomeOf added .count, scene.withStore store)

def run (request : Request) (scene : Scene) : Outcome × Scene :=
  let services := scene.services
  let store := services.store
  match request with
  | .auth password => runAuth password scene
  | .client subcommand => (runClient subcommand, scene)
  | .echo message => (.reply (.bulk message), scene)
  | .ping none => (.reply (.simple "PONG"), scene)
  | .ping (some payload) => (.reply (.bulk payload), scene)
  | .quit => (.reply .ok, scene)
  | .select index =>
      if index = 0 then (.reply .ok, scene)
      else (.failed (.invalidArgument "DB index is out of range"), scene)
  | .readSetting pattern => (runReadSetting pattern services, scene)
  | .changeSetting parameter value => runChangeSetting parameter value scene
  | .info => (.reply (.bulkText (information services)), scene)
  | .shutdown => (.reply .ok, { scene with services := { services with stopping := true } })
  | .append key suffix => changeOf (store.append key suffix) scene
  | .add key increment => runAdd key increment scene
  | .subtract key decrement =>
      if IntegerType.int64.Holds (-decrement) then runAdd key (-decrement) scene
      else (.failed .overflow, scene)
  | .addFloat key increment => runAddFloat key increment scene
  | .get key => (outcomeOf (store.text? key) octetsOrNull, scene)
  | .take key => runTake key scene
  | .set key value lifetime condition => runSet key value lifetime condition scene
  | .setIfMissing key value =>
      if store.contains key then (.reply (.count 0), scene)
      else (.reply (.count 1), scene.withStore (store.set key value))
  | .length key =>
      (outcomeOf (store.text? key) fun octets => .count (octets.elim 0 List.length), scene)
  | .exist keys => (.reply (.count (keys.countP store.contains)), scene)
  | .expire key seconds => runExpire key seconds scene
  | .timeToLive key => (.reply (timeToLiveOf key store), scene)
  | .typeName key => (.reply (.simple ((store.data? key).elim "none" Data.typeName)), scene)
  | .removeFields key fields => changeOf (store.removeFields key fields) scene
  | .readField key field => (outcomeOf (store.field? key field) octetsOrNull, scene)
  | .readFields key =>
      (outcomeOf (store.fields key) fun pairs =>
        .array (pairs.flatMap fun pair => [.bulk pair.1, .bulk pair.2]), scene)
  | .setFields key fields => runSetFields key fields scene
  | .publish channel message =>
      let (count, pubsub) := services.pubsub.publish channel message
      (.reply (.count count), { scene with services := { services with pubsub := pubsub } })
  | .defer work => (.deferred work, scene)
  | .unknown name => (.reply (.failure ("unknown command '" ++ name ++ "'")), scene)

end Request

/-- Reads a command's arguments and carries it out. -/
def Command.execute (command : Command) (scene : Scene) : Outcome × Scene :=
  match Request.ofCommand command with
  | .error cause => (.failed cause, scene)
  | .ok request => request.run scene

end RespServer
