import RespServer.Store.Basic

/-!
Contract: keys that hold fields with values.

Owns:
- reading one field or all fields;
- setting fields, which creates the key if it is missing;
- removing fields, which removes the key with the last of them.

Does not own: the order of replies; fields come in the order of their octets by their type.
-/

namespace RespServer.Store

/-- The fields of a key; none if there is no such key. -/
def hash? (store : Store) (key : String) : Except Failure (Option Fields) :=
  match store.data? key with
  | none => .ok none
  | some (.hash fields) => .ok (some fields)
  | some (.text _) => .error .otherShape

def field? (store : Store) (key : String) (field : Bytes) : Except Failure (Option Bytes) :=
  match store.hash? key with
  | .error failure => .error failure
  | .ok none => .ok none
  | .ok (some fields) => .ok fields[field]?

def fields (store : Store) (key : String) : Except Failure (List (Bytes × Bytes)) :=
  match store.hash? key with
  | .error failure => .error failure
  | .ok none => .ok []
  | .ok (some fields) => .ok fields.toList

/-- Sets a field, creating the key if it is missing. Returns whether the field is new. -/
def setField (store : Store) (key : String) (field value : Bytes) :
    Except Failure (Bool × Store) :=
  match store.hash? key with
  | .error failure => .error failure
  | .ok found =>
      let fields := found.getD ∅
      .ok (!fields.contains field, store.modify key (.hash (fields.insert field value)))

/-- Sets fields one after the other, up to one that cannot be set; those before it stay set.
Returns how many of them were new. -/
def setFields (store : Store) (key : String) : List (Bytes × Bytes) → Except Failure Nat × Store
  | [] => (.ok 0, store)
  | (field, value) :: rest =>
      match store.setField key field value with
      | .error failure => (.error failure, store)
      | .ok (isNew, store) =>
          let (added, store) := store.setFields key rest
          (added.map (· + isNew.toNat), store)

/-- Removes fields one after the other. Returns how many of them there were. -/
def eraseFields (fields : Fields) : List Bytes → Nat × Fields
  | [] => (0, fields)
  | field :: rest =>
      let (removed, remaining) := eraseFields (fields.erase field) rest
      (removed + (fields.contains field).toNat, remaining)

/-- Removes fields of a key, and the key if no field is left. Returns how many there were. -/
def removeFields (store : Store) (key : String) (names : List Bytes) :
    Except Failure (Nat × Store) :=
  match store.hash? key with
  | .error failure => .error failure
  | .ok none => .ok (0, store)
  | .ok (some fields) =>
      let (removed, remaining) := eraseFields fields names
      if remaining.isEmpty then .ok (removed, store.erase key)
      else .ok (removed, store.modify key (.hash remaining))

end RespServer.Store
