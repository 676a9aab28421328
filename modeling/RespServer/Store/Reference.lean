import RespServer.Store.Operation

/-!
Contract: what the operations of the store ought to do, on a plain map with deadlines.

Owns:
- the map, with a clock and without an index;
- the effect of an operation on the entry of the key that it names, and on nothing else;
- the disappearance of the entries whose deadline is reached.

Does not own: the store itself, whose index and sweep are compared with this.
-/

namespace RespServer

namespace KeyOperation

/-- The answer and the new entry when octets replace those of an entry, deadline kept. -/
def keepDeadline (found : Option Entry) (data : Data) : Option Entry :=
  some ⟨data, found.bind Entry.deadline⟩

/-- The answer to an operation on octets, or its failure on an entry of another shape. -/
def onText (found : Option Entry) (change : Option Bytes → StoreAnswer × Option Entry) :
    StoreAnswer × Option Entry :=
  match found with
  | none => change none
  | some ⟨.text octets, _⟩ => change (some octets)
  | some ⟨.hash _, _⟩ => (.failed .otherShape, found)

/-- The answer to an operation on fields, or its failure on an entry of another shape. -/
def onHash (found : Option Entry) (change : Option Fields → StoreAnswer × Option Entry) :
    StoreAnswer × Option Entry :=
  match found with
  | none => change none
  | some ⟨.hash fields, _⟩ => change (some fields)
  | some ⟨.text _, _⟩ => (.failed .otherShape, found)

/-- What an operation answers about the entry of its key at an instant, and the entry that the
key has afterwards. -/
def effect (operation : KeyOperation) (now : Instant) (found : Option Entry) :
    StoreAnswer × Option Entry :=
  match operation with
  | .set octets => (.done, some ⟨.text octets, none⟩)
  | .setFor octets lifetime =>
      match now.after? lifetime with
      | none => (.overflow, found)
      | some deadline => (.done, some ⟨.text octets, some deadline⟩)
  | .replace octets => (.done, keepDeadline found (.text octets))
  | .remove => (.removed found, none)
  | .expire lifetime =>
      match now.after? lifetime with
      | none => (.overflow, found)
      | some deadline =>
          (.holds found.isSome, found.map fun entry => { entry with deadline := some deadline })
  | .append suffix => onText found fun octets =>
      let appended := octets.getD [] ++ suffix
      (.counted appended.length, keepDeadline found (.text appended))
  | .add type increment => onText found fun octets =>
      match octets.elim (some 0) type.read? with
      | none => (.failed .notInteger, found)
      | some current =>
          if type.Holds (current + increment) then
            (.sum (current + increment),
              keepDeadline found (.text (Decimal.text (current + increment))))
          else (.failed .overflow, found)
  | .setField field value => onHash found fun fields =>
      (.isNew (!(fields.getD ∅).contains field),
        keepDeadline found (.hash ((fields.getD ∅).insert field value)))
  | .removeFields names => onHash found fun fields =>
      match fields with
      | none => (.counted 0, found)
      | some fields =>
          let remaining := fields.filter fun field _ => !names.contains field
          (.counted (fields.size - remaining.size),
            if remaining.isEmpty then none else keepDeadline found (.hash remaining))
  | .readText => onText found fun octets => (.octets octets, found)
  | .readData => (.data (found.map Entry.data), found)
  | .isPresent => (.holds found.isSome, found)
  | .readRemaining =>
      (.remaining ((found.bind Entry.deadline).map fun deadline => deadline - now), found)
  | .readField name => onHash found fun fields =>
      (.octets (fields.bind fun fields => fields[name]?), found)
  | .readFields => onHash found fun fields =>
      (.pairs (fields.elim [] Std.ExtTreeMap.toList), found)

end KeyOperation

/-- A map from keys to values with deadlines, and a clock. -/
structure Reference where
  now : Instant
  entries : Std.ExtTreeMap String Entry

namespace Reference

/-- The map without the entries whose deadline is reached. -/
def expire (reference : Reference) : Reference :=
  { reference with
    entries := reference.entries.filter fun _ entry =>
      !entry.deadline.any fun deadline => deadline ≤ reference.now }

/-- Lets time pass; entries whose deadline is reached disappear. -/
def advance (reference : Reference) (duration : Duration) : Reference :=
  { reference with now := reference.now + duration }.expire

/-- Carries out an operation. One on a key acts on the entry of that key only. -/
def perform (reference : Reference) : Operation → StoreAnswer × Reference
  | .onKey key operation =>
      let (answer, entry) := operation.effect reference.now reference.entries[key]?
      (answer, { reference with entries := reference.entries.alter key fun _ => entry })
  | .clear => (.done, { reference with entries := ∅ })
  | .size => (.size reference.entries.size, reference)
  | .keys => (.keys reference.entries.keys, reference)

def ofStore (store : Store) : Reference :=
  ⟨store.now, store.entries⟩

end Reference

end RespServer
