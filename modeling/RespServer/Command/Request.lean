import RespServer.Command.Arguments
import RespServer.Command.Basic
import RespServer.Store.Basic

/-!
Contract: what a command asks for.

Owns:
- the type `Request`, a command with its arguments read, and the type `Work` of what is deferred;
- the arguments of every kind of command, and which of two faults is reported.

Does not own: carrying out a request (`Request.run`, `Work.run`).
-/

namespace RespServer

/-- Work on the store that the worker pool does. -/
inductive Work where
  | delete (keys : List String)
  | readEach (keys : List String)
  | storeEach (pairs : List (String × Bytes))
  | listKeys (pattern : String)
  | countKeys
  | clear
deriving DecidableEq, Repr

inductive SetCondition where
  | ifMissing
  | ifPresent
deriving DecidableEq, Repr

/-- A command with its arguments read. -/
inductive Request where
  | auth (password : Bytes)
  /-- The subcommand is in capitals. -/
  | client (subcommand : String)
  | echo (message : Bytes)
  | ping (payload : Option Bytes)
  | quit
  | select (index : Int)
  /-- The pattern is in small letters. -/
  | readSetting (pattern : String)
  /-- The parameter is in small letters. -/
  | changeSetting (parameter value : String)
  | info
  | shutdown
  | append (key : String) (suffix : Bytes)
  | add (key : String) (increment : Int)
  | subtract (key : String) (decrement : Int)
  | addFloat (key : String) (increment : Binary64)
  | get (key : String)
  | take (key : String)
  | set (key : String) (value : Bytes) (lifetime : Option Duration)
      (condition : Option SetCondition)
  | setIfMissing (key : String) (value : Bytes)
  | length (key : String)
  | exist (keys : List String)
  | expire (key : String) (seconds : Int)
  | timeToLive (key : String)
  | typeName (key : String)
  | removeFields (key : String) (fields : List Bytes)
  | readField (key : String) (field : Bytes)
  | readFields (key : String)
  | setFields (key : String) (fields : List (Bytes × Bytes))
  | publish (channel : String) (message : Bytes)
  | defer (work : Work)
  | unknown (name : String)
deriving DecidableEq, Repr

namespace Request

open ArgumentReader

/-! ## Arguments of single kinds -/

/-- The subcommand of a command is not one of its own. -/
def unknownSubcommand (subcommand : String) : Failure :=
  .invalidArgument ("unknown subcommand '" ++ Text.lowercase subcommand ++ "'")

/-- A time to live is not positive. -/
def invalidLifetime : Failure :=
  .invalidArgument "invalid expire time in 'set' command"

/-- The options of a command that stores octets: a time to live in seconds or milliseconds and a
condition, each at most once. -/
def setOptions (name : String) (lifetime : Option Duration) (condition : Option SetCondition) :
    List Bytes → Except Failure (Option Duration × Option SetCondition)
  | [] => .ok (lifetime, condition)
  | argument :: rest =>
      match Bytes.text? argument with
      | none => .error .notText
      | some text =>
          let option := Text.uppercase text
          if (option = "EX" ∨ option = "PX") ∧ lifetime.isNone then
            match rest with
            | [] => .error (.wrongNumberOfArguments name)
            | amount :: rest =>
                match IntegerType.int64.read? amount with
                | none => .error .notInteger
                | some amount =>
                    if amount ≤ 0 then .error invalidLifetime
                    else
                      let unit := if option = "EX" then 1000 else 1
                      setOptions name (some (amount.toNat * unit)) condition rest
          else if option = "NX" ∧ condition.isNone then
            setOptions name lifetime (some .ifMissing) rest
          else if option = "XX" ∧ condition.isNone then
            setOptions name lifetime (some .ifPresent) rest
          else .error .badOption

/-- The options of a command that stops the server; they change nothing. -/
def shutdownOptions : List Bytes → Except Failure Unit
  | [] => .ok ()
  | argument :: rest =>
      match Bytes.text? argument with
      | none => .error .notText
      | some text =>
          if Text.uppercase text ∈ ["SAVE", "NOSAVE", "NOW", "FORCE"] then shutdownOptions rest
          else .error .badOption

/-- Keys and values by turns; the keys are texts. -/
def keyPairs (name : String) : List Bytes → Except Failure (List (String × Bytes))
  | [] => .ok []
  | [_] => .error (.wrongNumberOfArguments name)
  | key :: value :: rest =>
      match Bytes.text? key with
      | none => .error .notText
      | some key =>
          match keyPairs name rest with
          | .error failure => .error failure
          | .ok pairs => .ok ((key, value) :: pairs)

/-- Fields and values by turns; a last field without value is left out. -/
def fieldPairs : List Bytes → List (Bytes × Bytes)
  | field :: value :: rest => (field, value) :: fieldPairs rest
  | _ => []

/-- Whether arguments come in pairs, at least one. -/
def arePairs (arguments : List Bytes) : Bool :=
  !arguments.isEmpty && arguments.length % 2 == 0

/-! ## All kinds -/

def oneKey (name : String) (request : String → Request) : ArgumentReader Request := do
  let key ← text name
  finish name
  return request key

def reader (kind : CommandKind) (name : String) : ArgumentReader Request :=
  match kind with
  | .auth => do
      -- of a user name and a password, only the password counts
      let first ← octets name
      let password ← if ← hasMore then octets name else pure first
      finish name
      return .auth password
  | .client => do
      let subcommand ← text name
      let _ ← remaining
      return .client (Text.uppercase subcommand)
  | .echo => do
      let message ← octets name
      finish name
      return .echo message
  | .ping => do
      let payload ← if ← hasMore then some <$> octets name else pure none
      finish name
      return .ping payload
  | .quit => do
      finish name
      return .quit
  | .select => do
      let index ← integer name
      finish name
      return .select index
  | .config => do
      let subcommand := Text.uppercase (← text name)
      if subcommand = "GET" then
        let pattern ← text name
        finish name
        return .readSetting (Text.lowercase pattern)
      else if subcommand = "SET" then
        let parameter ← text name
        let value ← text name
        finish name
        return .changeSetting (Text.lowercase parameter) value
      else throw (unknownSubcommand subcommand)
  | .dbsize => do
      finish name
      return .defer .countKeys
  | .flushall => do
      if ← hasMore then
        let option ← text name
        if Text.uppercase option ∉ ["ASYNC", "SYNC"] then throw .badOption
      finish name
      return .defer .clear
  | .info => do
      let _ ← texts
      return .info
  | .shutdown => do
      shutdownOptions (← remaining)
      return .shutdown
  | .append => do
      let key ← text name
      let suffix ← octets name
      finish name
      return .append key suffix
  | .decr => oneKey name fun key => .add key (-1)
  | .decrby => do
      let key ← text name
      let decrement ← integer name
      finish name
      return .subtract key decrement
  | .get => oneKey name .get
  | .getdel => oneKey name .take
  | .incr => oneKey name fun key => .add key 1
  | .incrby => do
      let key ← text name
      let increment ← integer name
      finish name
      return .add key increment
  | .incrbyfloat => do
      let key ← text name
      let increment ← float name
      finish name
      return .addFloat key increment
  | .mget => return .defer (.readEach (← someTexts name))
  | .mset => do
      let arguments ← remaining
      if arePairs arguments then return .defer (.storeEach (← keyPairs name arguments))
      else throw (.wrongNumberOfArguments name)
  | .set => do
      let key ← text name
      let value ← octets name
      let (lifetime, condition) ← setOptions name none none (← remaining)
      return .set key value lifetime condition
  | .setnx => do
      let key ← text name
      let value ← octets name
      finish name
      return .setIfMissing key value
  | .strlen => oneKey name .length
  | .del => return .defer (.delete (← someTexts name))
  | .exist => return .exist (← someTexts name)
  | .expire => do
      let key ← text name
      let seconds ← integer name
      finish name
      return .expire key seconds
  | .keys => do
      let pattern ← text name
      finish name
      return .defer (.listKeys pattern)
  | .ttl => oneKey name .timeToLive
  | .type => oneKey name .typeName
  | .hdel => do
      let key ← text name
      let first ← octets name
      return .removeFields key (first :: (← remaining))
  | .hget => do
      let key ← text name
      let field ← octets name
      finish name
      return .readField key field
  | .hgetall => oneKey name .readFields
  | .hset => do
      let key ← text name
      let arguments ← remaining
      if arePairs arguments then return .setFields key (fieldPairs arguments)
      else throw (.wrongNumberOfArguments name)
  | .publish => do
      let channel ← text name
      let message ← octets name
      finish name
      return .publish channel message
  | .unknown => do
      let _ ← remaining
      return .unknown name
  | .subscribe | .unsubscribe | .exec | .multi | .watch =>
      throw (.internal (kind.name ++ " reached execution without an implementation"))

/-- What a command asks for, or what is wrong with its arguments. -/
def ofCommand (command : Command) : Except Failure Request :=
  (reader command.kind command.name).run command.arguments

end Request

end RespServer
