import Std.Data.ExtTreeMap
import Std.Data.ExtTreeSet
import RespServer.Failure.Basic

/-!
Contract: the keys of the server, their values and their deadlines.

Owns:
- instants of the clock and the sum of an instant and a duration;
- the shapes of values;
- the index of deadlines, ordered by time and then by key;
- storing, finding and removing a key, with the index kept in step.

Does not own: what the values mean (`Store.Text`, `Store.Hash`) and when keys expire
(`Store.Expiry`).
-/

namespace RespServer

/-! ## Time -/

/-- Milliseconds since the store was created. -/
abbrev Instant := Nat

/-- Milliseconds. -/
abbrev Duration := Nat

namespace Instant

/-- What the clock shows, in milliseconds, when the store is created. -/
def origin : Duration :=
  1000

/-- The instant after a duration; none if its whole seconds on the clock exceed 63 bits. -/
def after? (start : Instant) (duration : Duration) : Option Instant :=
  if (origin + start + duration) / 1000 < Nat.pow 2 63 then some (start + duration) else none

end Instant

/-! ## Values -/

/-- The fields of a hash. They are kept in ascending order of their octets, so that whoever lists
them needs no sorting. -/
abbrev Fields := Std.ExtTreeMap Bytes Bytes

/-- The shapes of a stored value. -/
inductive Data where
  | text (octets : Bytes)
  | hash (fields : Fields)

def Data.typeName : Data → String
  | .text _ => "string"
  | .hash _ => "hash"

/-- A stored value and the instant at which it expires, if it does. -/
structure Entry where
  data : Data
  deadline : Option Instant

/-! ## The index of deadlines -/

/-- A key that expires at a deadline. -/
structure Due where
  deadline : Instant
  key : String
deriving DecidableEq, Repr

namespace Due

/-- The earlier deadline first; of keys with one deadline, the lesser first. -/
def order : Due → Due → Ordering :=
  compareLex (compareOn Due.deadline) (compareOn Due.key)

instance : Ord Due :=
  ⟨order⟩

instance : Std.TransOrd Due :=
  inferInstanceAs (Std.TransCmp (compareLex (compareOn Due.deadline) (compareOn Due.key)))

instance : Std.LawfulEqOrd Due where
  eq_of_compare {left right} same := by
    have parts : compareLex (compareOn Due.deadline) (compareOn Due.key) left right = .eq := same
    rw [compareLex_eq_eq] at parts
    obtain ⟨sameDeadline, sameKey⟩ := parts
    cases left
    cases right
    simp only [compareOn, Std.compare_eq_iff_eq] at sameDeadline sameKey
    simp [sameDeadline, sameKey]

end Due

/-! ## The store -/

/-- The keys of the server. -/
structure Store where
  now : Instant
  entries : Std.ExtTreeMap String Entry
  /-- The keys with a deadline, the next to expire first. -/
  deadlines : Std.ExtTreeSet Due
  /-- Whether the expiry task has been told of an earlier deadline and has not yet looked. -/
  wakeUp : Bool

namespace Store

def empty : Store :=
  ⟨0, ∅, ∅, false⟩

def entry? (store : Store) (key : String) : Option Entry :=
  store.entries[key]?

def data? (store : Store) (key : String) : Option Data :=
  (store.entry? key).map Entry.data

def contains (store : Store) (key : String) : Bool :=
  store.entries.contains key

def size (store : Store) : Nat :=
  store.entries.size

/-- The keys, ascending. The entries are kept in this order, which is that of the octets, so that
nothing needs sorting. -/
def keys (store : Store) : List String :=
  store.entries.keys

/-- The index without a key's deadline, if it has one. -/
def untrack (store : Store) (key : String) : Option Instant → Store
  | none => store
  | some deadline => { store with deadlines := store.deadlines.erase ⟨deadline, key⟩ }

/-- The index with a key's deadline, if it has one. The expiry task is told if the key is the
next to expire. -/
def track (store : Store) (key : String) : Option Instant → Store
  | none => store
  | some deadline =>
      let deadlines := store.deadlines.insert ⟨deadline, key⟩
      { store with
        deadlines := deadlines
        wakeUp := store.wakeUp || deadlines.min?.any fun due => due.key = key }

/-- Stores a value with its deadline; the previous value and deadline of the key are gone. -/
def put (store : Store) (key : String) (data : Data) (deadline : Option Instant) : Store :=
  let previous := (store.entry? key).bind Entry.deadline
  let stored := { store with entries := store.entries.insert key ⟨data, deadline⟩ }
  (stored.untrack key previous).track key deadline

/-- Removes a key; the store is unchanged if there is none. -/
def erase (store : Store) (key : String) : Store :=
  match store.entry? key with
  | none => store
  | some entry =>
      { store with entries := store.entries.erase key }.untrack key entry.deadline

def clear (store : Store) : Store :=
  { store with entries := ∅, deadlines := ∅ }

/-- Changes the value of a key, or creates it without a deadline. An existing deadline stays. -/
def modify (store : Store) (key : String) (data : Data) : Store :=
  { store with
    entries := store.entries.insert key ⟨data, (store.entry? key).bind Entry.deadline⟩ }

end Store

end RespServer
