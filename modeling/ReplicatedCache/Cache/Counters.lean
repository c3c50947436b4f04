/-
What a cache counts about its use, and the hit rate that follows from it:

* `CacheCounters`: hits, misses, evictions, expirations and the number of entries;
* `CacheCounters.hitRate`: the share of reads that found their key.
-/
import ReplicatedCache.Decimal.Binary64

namespace ReplicatedCache

/-- The counters of a cache. -/
structure CacheCounters where
  /-- Reads that returned a value. -/
  hits : Nat := 0
  /-- Reads that found no value, or only an expired one. -/
  misses : Nat := 0
  /-- Entries dropped to make room. -/
  evictions : Nat := 0
  /-- Entries dropped because they had been idle for too long. -/
  expirations : Nat := 0
  /-- Entries held. -/
  totalEntries : Nat := 0
  deriving DecidableEq, Repr

namespace CacheCounters

def hit (c : CacheCounters) : CacheCounters := { c with hits := c.hits + 1 }

def miss (c : CacheCounters) : CacheCounters := { c with misses := c.misses + 1 }

def eviction (c : CacheCounters) : CacheCounters := { c with evictions := c.evictions + 1 }

def expiration (c : CacheCounters) : CacheCounters := { c with expirations := c.expirations + 1 }

def setTotal (c : CacheCounters) (n : Nat) : CacheCounters := { c with totalEntries := n }

/-- Hits over all reads, and zero before the first read. Both counts are rounded to a double
before they are divided. -/
def hitRate (c : CacheCounters) : Binary64 :=
  if c.hits + c.misses = 0 then .zero
  else (Binary64.ofNat c.hits).div (Binary64.ofNat (c.hits + c.misses))

end CacheCounters

end ReplicatedCache
