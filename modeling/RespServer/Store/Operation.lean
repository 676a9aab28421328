import RespServer.Store.Expiry
import RespServer.Store.Hash
import RespServer.Store.Text

/-!
Contract: the operations of the store as data.

Owns:
- the operations on one key and on all keys;
- what each of them answers;
- `Store.perform`, which carries an operation out.

Does not own: what the operations ought to do (`Reference.perform`).
-/

namespace RespServer

inductive KeyOperation where
  | set (octets : Bytes)
  | setFor (octets : Bytes) (lifetime : Duration)
  | replace (octets : Bytes)
  | remove
  | expire (lifetime : Duration)
  | append (suffix : Bytes)
  | add (type : IntegerType) (increment : Int)
  | setField (field value : Bytes)
  | removeFields (names : List Bytes)
  | readText
  | readData
  | isPresent
  | readRemaining
  | readField (name : Bytes)
  | readFields

inductive Operation where
  | onKey (key : String) (operation : KeyOperation)
  | clear
  | size
  | keys

inductive StoreAnswer where
  | done
  | octets (found : Option Bytes)
  /-- A count of octets or fields. -/
  | counted (count : Nat)
  | sum (value : Int)
  | isNew (value : Bool)
  | holds (value : Bool)
  | data (found : Option Data)
  | removed (found : Option Entry)
  | pairs (fields : List (Bytes × Bytes))
  | remaining (found : Option Duration)
  | size (count : Nat)
  | keys (keys : List String)
  | failed (cause : Failure)
  /-- The clock cannot show a deadline. -/
  | overflow

namespace Store

/-- The answer of a reading, or its failure. -/
def answerOf (reading : Except Failure α) (answer : α → StoreAnswer) : StoreAnswer :=
  match reading with
  | .error cause => .failed cause
  | .ok value => answer value

/-- The answer and the new store of a change, or its failure. -/
def answerOfChange (store : Store) (change : Except Failure (α × Store))
    (answer : α → StoreAnswer) : StoreAnswer × Store :=
  match change with
  | .error cause => (.failed cause, store)
  | .ok (value, changed) => (answer value, changed)

def performOnKey (store : Store) (key : String) : KeyOperation → StoreAnswer × Store
  | .set octets => (.done, store.set key octets)
  | .setFor octets lifetime =>
      match store.setFor? key octets lifetime with
      | none => (.overflow, store)
      | some changed => (.done, changed)
  | .replace octets => (.done, store.replace key octets)
  | .remove => (.removed (store.entry? key), store.erase key)
  | .expire lifetime =>
      match store.expire? key lifetime with
      | none => (.overflow, store)
      | some (applied, changed) => (.holds applied, changed)
  | .append suffix => answerOfChange store (store.append key suffix) .counted
  | .add type increment => answerOfChange store (store.add type key increment) .sum
  | .setField field value => answerOfChange store (store.setField key field value) .isNew
  | .removeFields names => answerOfChange store (store.removeFields key names) .counted
  | .readText => (answerOf (store.text? key) .octets, store)
  | .readData => (.data (store.data? key), store)
  | .isPresent => (.holds (store.contains key), store)
  | .readRemaining => (.remaining (store.remaining? key), store)
  | .readField name => (answerOf (store.field? key name) .octets, store)
  | .readFields => (answerOf (store.fields key) .pairs, store)

def perform (store : Store) : Operation → StoreAnswer × Store
  | .onKey key operation => store.performOnKey key operation
  | .clear => (.done, store.clear)
  | .size => (.size store.size, store)
  | .keys => (.keys store.keys, store)

end Store

end RespServer
