/-
The JSON bodies of answers, with their members in the order in which they are written.

* `Reply.entry`, `Reply.stored`, `Reply.deleted`, `Reply.entries`: answers about keys;
* `Reply.applied`: what a replica says about an operation, and `ReplicateReply` to read it back;
* `Reply.stats`, `Reply.health`: answers about the node;
* `json` of the counters and of the report of a replay;
* `Reply.fault`, `Fault.status`: the answer to a request that failed.
-/
import ReplicatedCache.Cache.Counters
import ReplicatedCache.Fault
import ReplicatedCache.Json.Record
import ReplicatedCache.Json.Value
import ReplicatedCache.Log.Replay
import ReplicatedCache.Replication.Counters
import ReplicatedCache.Node.Settings
import ReplicatedCache.Time.Timestamp

namespace ReplicatedCache

/-- What a replica says about an operation it was sent. -/
structure ReplicateReply where
  success : Bool
  deriving DecidableEq, Repr

namespace ReplicateReply

/-- The only member of the reply, if it has been read. -/
structure Draft where
  success : Option Bool := none

def shape : Json.RecordShape Draft ReplicateReply where
  blank := {}
  fields := [.of "success" Json.readFlag Draft.success fun d b => { d with success := some b }]
  finish := fun d => d.success.map ReplicateReply.mk

def json (r : ReplicateReply) : Json := .obj [("success", .bool r.success)]

end ReplicateReply

/-- The number that the status line of an answer gives for a fault. -/
def Fault.status : Fault → Nat
  | notFound _ => 404
  | invalidRequest _ => 400
  | replication _ => 502
  | durability _ | recovery _ | malformedRecord _ _ | internal _ => 500

/-- The counts of a cache. -/
def CacheCounters.json (c : CacheCounters) : Json :=
  .obj
    [("hits", .nat c.hits), ("misses", .nat c.misses), ("evictions", .nat c.evictions),
     ("expirations", .nat c.expirations), ("total_entries", .nat c.totalEntries)]

/-- The reported counts of a queue. -/
def ReplicationCounters.Summary.json (s : ReplicationCounters.Summary) : Json :=
  .obj
    [("enqueued", .nat s.enqueued), ("pending", .nat s.pending), ("delivered", .nat s.delivered),
     ("failed", .nat s.failed)]

/-- What a replay did, without its warnings. -/
def Log.Report.json (r : Log.Report) : Json :=
  .obj [("puts", .nat r.puts), ("deletes", .nat r.deletes), ("skipped", .nat r.skipped)]

namespace Reply

/-- A key that was found, with its value. -/
def entry (key value : String) : Json :=
  .obj [("key", .str key), ("value", .str value), ("found", .bool true)]

/-- A change of a key that was made, with a remark. -/
def changed (key remark : String) : Json :=
  .obj [("success", .bool true), ("key", .str key), ("message", .str remark)]

def stored (key : String) : Json := changed key ("Key '" ++ key ++ "' set successfully")

def deleted (key : String) : Json := changed key ("Key '" ++ key ++ "' deleted successfully")

/-- All entries, in the given order. -/
def entries (items : List (String × String)) : Json :=
  .obj
    [("entries",
      .arr (items.map fun (key, value) => .obj [("key", .str key), ("value", .str value)]))]

/-- The role, the capacity and the counters of a node; those of its queue only on a primary. -/
def stats (role : Role) (capacity : Nat) (c : CacheCounters)
    (replication : Option ReplicationCounters.Summary) : Json :=
  .obj
    ([("role", .str role.name), ("capacity", .nat capacity), ("hits", .nat c.hits),
      ("misses", .nat c.misses), ("evictions", .nat c.evictions),
      ("expirations", .nat c.expirations), ("total_entries", .nat c.totalEntries),
      ("hit_rate", .real c.hitRate)] ++
     (match replication with
      | some summary => [("replication", summary.json)]
      | none => []))

def health (role : Role) (now : Timestamp) : Json :=
  .obj [("status", .str "healthy"), ("role", .str role.name), ("timestamp", .str now.text)]

def fault (f : Fault) : Json := .obj [("error", .str f.message)]

end Reply

end ReplicatedCache
