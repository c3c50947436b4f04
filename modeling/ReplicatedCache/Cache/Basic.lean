/-
The cache: a bounded number of entries, of which the least recently used one makes room for a
new key, and each of which expires once it has been idle for too long.

A search tree leads from a key to the handle of its entry in the order of use. Expired entries
stay in place until their key is read or written.

* `Cache.get`, `Cache.put`, `Cache.remove`: the three accesses;
* `Cache.apply`: the effect of an operation;
* `Cache.contains`: whether a key occupies a slot, expired or not;
* `Cache.entries`, `Cache.keys`: what is not expired, most recently used first.
-/
import ReplicatedCache.Cache.Counters
import ReplicatedCache.Cache.Entry
import ReplicatedCache.Cache.UseOrder
import ReplicatedCache.Operation
import Std.Data.TreeMap

namespace ReplicatedCache

/-- A cache of at most `capacity` entries. -/
structure Cache where
  /-- Leads from each key to the handle of its entry. -/
  index : Std.TreeMap String Nat
  order : UseOrder Entry
  tally : CacheCounters
  capacity : Nat
  /-- How long an entry may be idle, in nanoseconds; without it no entry expires. -/
  ttl : Option Nat
  capacity_pos : 0 < capacity

namespace Cache

/-- Nanoseconds in a second. -/
def nanosPerSecond : Nat := 1000000000

/-- A time to live given in seconds; zero and less mean that nothing expires. -/
def ttlOfSeconds (seconds : Int) : Option Nat :=
  if 0 < seconds then some (seconds.toNat * nanosPerSecond) else none

/-- An empty cache. It holds at least one entry, also if none are asked for. -/
def empty (capacity : Nat) (ttl : Option Nat) : Cache where
  index := ∅
  order := .empty
  tally := {}
  capacity := max capacity 1
  ttl := ttl
  capacity_pos := by omega

/-- The number of entries held, expired ones included. -/
def size (c : Cache) : Nat := c.index.size

/-- Whether `key` occupies a slot, expired or not. -/
def contains (c : Cache) (key : String) : Bool := c.index.contains key

/-- The counters, with the number of entries as it is now. -/
def counters (c : Cache) : CacheCounters := c.tally.setTotal c.size

/-- Whether the entry with handle `i` has expired. -/
def expiredAt (c : Cache) (i : Nat) (now : Moment) : Bool :=
  match c.order.get? i with
  | some e => e.expired c.ttl now
  | none => false

/-- Brings the counted number of entries up to date. -/
def recount (c : Cache) : Cache := { c with tally := c.tally.setTotal c.index.size }

/-- Drops the expired entry of `key`, which has the handle `i`. -/
def expire (c : Cache) (key : String) (i : Nat) : Cache :=
  recount { c with
    index := c.index.erase key
    order := (c.order.remove i).2
    tally := c.tally.expiration }

/-- Drops the least recently used entry. -/
def evict (c : Cache) : Cache :=
  match c.order.popOldest with
  | (some e, order) =>
      { c with index := c.index.erase e.key, order, tally := c.tally.eviction }
  | (none, order) => { c with order }

/-- Adds an entry for a key that has none, making room for it if the cache is full. -/
def insertFresh (c : Cache) (key value : String) (now : Moment) : Cache :=
  let c := if c.capacity ≤ c.index.size then c.evict else c
  let (i, order) := c.order.add ⟨key, value, now⟩
  recount { c with index := c.index.insert key i, order }

/-- Reads a key. An entry that is found becomes the most recently used one and starts a new idle
time; an expired one is dropped and counts as absent. -/
def get (c : Cache) (key : String) (now : Moment) : Option String × Cache :=
  match c.index[key]? with
  | none => (none, { c with tally := c.tally.miss })
  | some i =>
      if c.expiredAt i now then
        let c := c.expire key i
        (none, { c with tally := c.tally.miss })
      else
        let order := (c.order.renew i).update i (·.touch now)
        match order.get? i with
        | some e => (some e.value, { c with order, tally := c.tally.hit })
        | none => (none, { c with order })

/-- Writes a key. A live entry is overwritten and becomes the most recently used one; an expired
one is dropped first, and the key is then added afresh. -/
def put (c : Cache) (key value : String) (now : Moment) : Cache :=
  match c.index[key]? with
  | none => c.insertFresh key value now
  | some i =>
      if c.expiredAt i now then (c.expire key i).insertFresh key value now
      else
        let order := c.order.update i fun e => { e with value, lastAccess := now }
        { c with order := order.renew i }

/-- Drops a key, expired or not, and says whether it was there. -/
def remove (c : Cache) (key : String) : Bool × Cache :=
  match c.index[key]? with
  | some i =>
      (true, recount { c with index := c.index.erase key, order := (c.order.remove i).2 })
  | none => (false, c)

/-- The effect of an operation. -/
def apply (c : Cache) (op : Operation) (now : Moment) : Cache :=
  match op with
  | .put key value => c.put key value now
  | .delete key => (c.remove key).2

/-- The entries that have not expired, most recently used first. -/
def live (c : Cache) (now : Moment) : List Entry :=
  c.order.entries.filter fun e => !e.expired c.ttl now

/-- The keys and values that have not expired, most recently used first. -/
def entries (c : Cache) (now : Moment) : List (String × String) :=
  (c.live now).map fun e => (e.key, e.value)

/-- The keys that have not expired, most recently used first. -/
def keys (c : Cache) (now : Moment) : List String :=
  (c.live now).map Entry.key

end Cache

end ReplicatedCache
