import RespServer.Store.Basic

/-!
Contract: keys that hold octets.

Owns:
- reading, storing and replacing octets;
- appending to them;
- adding to the whole number that they spell.

Does not own: fractions, which a command adds (`Request.run`).
-/

namespace RespServer.Store

/-- The octets of a key; none if there is no such key. -/
def text? (store : Store) (key : String) : Except Failure (Option Bytes) :=
  match store.data? key with
  | none => .ok none
  | some (.text octets) => .ok (some octets)
  | some (.hash _) => .error .otherShape

def set (store : Store) (key : String) (octets : Bytes) : Store :=
  store.put key (.text octets) none

/-- Stores octets that expire after a duration; none if the clock cannot show the deadline. -/
def setFor? (store : Store) (key : String) (octets : Bytes) (lifetime : Duration) :
    Option Store :=
  (store.now.after? lifetime).map fun deadline => store.put key (.text octets) (some deadline)

def replace (store : Store) (key : String) (octets : Bytes) : Store :=
  store.modify key (.text octets)

/-- Appends octets to those of the key, which is created if it is missing. Returns the new
length. -/
def append (store : Store) (key : String) (suffix : Bytes) : Except Failure (Nat × Store) :=
  match store.text? key with
  | .error failure => .error failure
  | .ok none => .ok (suffix.length, store.set key suffix)
  | .ok (some octets) =>
      let appended := octets ++ suffix
      .ok (appended.length, store.replace key appended)

/-- Adds to the whole number that the octets of the key spell; a missing key counts as zero.
Returns the sum, which the key then spells. -/
def add (store : Store) (type : IntegerType) (key : String) (increment : Int) :
    Except Failure (Int × Store) :=
  match store.text? key with
  | .error failure => .error failure
  | .ok octets =>
      match octets.elim (some 0) type.read? with
      | none => .error .notInteger
      | some current =>
          let sum := current + increment
          if type.Holds sum then .ok (sum, store.replace key (Decimal.text sum))
          else .error .overflow

end RespServer.Store
