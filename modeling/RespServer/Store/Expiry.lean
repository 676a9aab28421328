import RespServer.Store.Basic

/-!
Contract: when keys expire.

Owns:
- setting and reading the deadline of a key;
- the sweep, which removes the keys whose deadline is reached;
- the passing of time.

Does not own: when the sweep runs; a server runs it before every step (`World.step`).
-/

namespace RespServer.Store

/-- Lets a key expire after a duration. Returns whether there is such a key; none if the clock
cannot show the deadline, which is found before the key is looked for. -/
def expire? (store : Store) (key : String) (lifetime : Duration) : Option (Bool × Store) :=
  (store.now.after? lifetime).map fun deadline =>
    match store.entry? key with
    | none => (false, store)
    | some entry =>
        let stored :=
          { store with entries := store.entries.insert key { entry with deadline := deadline } }
        (true, (stored.untrack key entry.deadline).track key (some deadline))

/-- How long a key has to live; none if it does not exist or does not expire. -/
def remaining? (store : Store) (key : String) : Option Duration :=
  ((store.entry? key).bind Entry.deadline).map fun deadline => deadline - store.now

def nextDeadline? (store : Store) : Option Instant :=
  store.deadlines.min?.map Due.deadline

def expired (store : Store) : List Due :=
  store.deadlines.toList.takeWhile fun due => due.deadline ≤ store.now

def sweep (store : Store) : Store :=
  store.expired.foldl
    (fun store due =>
      { store with
        entries := store.entries.erase due.key
        deadlines := store.deadlines.erase due })
    store

/-- Lets time pass; keys whose deadline is reached are removed. -/
def advance (store : Store) (duration : Duration) : Store :=
  { store with now := store.now + duration }.sweep

end RespServer.Store
