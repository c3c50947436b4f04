/-
A node: a cache, the log that makes its changes durable and, on a primary, the queue through
which they reach the replicas. A change goes through the three in this order:

1. its record is appended to the log; if that fails, nothing else happens;
2. the cache is changed;
3. on a primary, a change asked for by a client is queued for the replicas.

* `Host`: a node together with the disk that outlives it;
* `Host.get`, `Host.put`, `Host.delete`: requests of clients;
* `Host.receive`: a change received from a primary;
* `Host.outbox`, `Host.withQueue`: the queue of a node, and the node with another one;
* `Node.openWith`: a node whose cache is rebuilt from its log.
-/
import ReplicatedCache.Log.Append
import ReplicatedCache.Replication.Queue
import ReplicatedCache.Node.Settings

namespace ReplicatedCache

/-- A running node. Without a log its contents live in memory only; without a queue it is a
replica. -/
structure Node where
  cache : Cache
  log : Option LogWriter
  queue : Option SendQueue

/-- A node and the disk it runs on. -/
structure Host where
  node : Node
  disk : Disk

/-- How a node is set up. -/
structure NodeSetup where
  capacity : Nat
  /-- How long an entry may be idle, in nanoseconds. -/
  ttl : Option Nat
  /-- Where the log is, if there is one. -/
  logPath : Option String
  /-- Whether each record is forced to the disk. -/
  fsync : Bool

namespace Node

def role (n : Node) : Role := if n.queue.isSome then .primary else .replica

/-- The counters of the queue, on a primary. -/
def replication (n : Node) : Option ReplicationCounters := n.queue.map (·.counters)

/-- A node with an empty cache whose log is a device without a name; what the device holds
already is replayed first. -/
def onDevice (setup : NodeSetup) (queue : Option SendQueue) (disk : Disk) (device : Nat)
    (now : Moment) : Log.Report × Node :=
  let (report, cache) :=
    Log.replay (disk.contentOf device) (Cache.empty setup.capacity setup.ttl) now
  (report, ⟨cache, some (.attach device), queue⟩)

/-- A node whose cache is rebuilt from its log, which is then opened for appending. -/
def openWith (setup : NodeSetup) (queue : Option SendQueue) (disk : Disk) (now : Moment) :
    Except Fault Node × Log.Report × Disk :=
  let cache := Cache.empty setup.capacity setup.ttl
  match setup.logPath with
  | none => (.ok ⟨cache, none, queue⟩, {}, disk)
  | some path =>
      match Log.replayFile disk path cache now with
      | (.error fault, _) => (.error fault, {}, disk)
      | (.ok report, cache) =>
          match LogWriter.openAt disk path setup.fsync with
          | (.error fault, disk) => (.error fault, report, disk)
          | (.ok writer, disk) => (.ok ⟨cache, some writer, queue⟩, report, disk)

end Node

namespace Host

/-- Appends the record of an operation to the log, if the node has one. -/
def record (h : Host) (op : Operation) : Except Fault Unit × Host :=
  match h.node.log with
  | none => (.ok (), h)
  | some writer =>
      let (result, writer, disk) := writer.append h.disk op
      (result, { node := { h.node with log := some writer }, disk })

/-- Changes the cache. -/
def applyToCache (h : Host) (op : Operation) (now : Moment) : Host :=
  { h with node := { h.node with cache := h.node.cache.apply op now } }

/-- Queues an operation for the replicas; a queue nobody reads refuses it without harm. -/
def enqueue (h : Host) (op : Operation) : Host :=
  match h.node.queue with
  | none => h
  | some queue => { h with node := { h.node with queue := some (queue.enqueue op).2 } }

/-- Carries out an operation: log, cache and, if `forward` is set, queue. A fault of the log
leaves cache and queue alone. -/
def perform (h : Host) (op : Operation) (forward : Bool) (now : Moment) :
    Except Fault Unit × Host :=
  match h.record op with
  | (.error fault, h) => (.error fault, h)
  | (.ok (), h) =>
      let h := h.applyToCache op now
      (.ok (), if forward then h.enqueue op else h)

/-- Reads a key. -/
def get (h : Host) (key : String) (now : Moment) : Option String × Host :=
  let (value, cache) := h.node.cache.get key now
  (value, { h with node := { h.node with cache } })

/-- Writes a key for a client. -/
def put (h : Host) (key value : String) (now : Moment) : Except Fault Unit × Host :=
  h.perform (.put key value) true now

/-- Deletes a key for a client, whether it is there or not. -/
def delete (h : Host) (key : String) (now : Moment) : Except Fault Unit × Host :=
  h.perform (.delete key) true now

/-- Carries out an operation received from a primary. It is logged here too, but never
forwarded. -/
def receive (h : Host) (op : Operation) (now : Moment) : Except Fault Unit × Host :=
  h.perform op false now

/-- The queue of a node. A node that has none is as one whose queue nobody reads. -/
def outbox (h : Host) : SendQueue := h.node.queue.getD (SendQueue.close {})

/-- The node with another queue, or with none. -/
def withQueue (h : Host) (queue : Option SendQueue) : Host := ⟨{ h.node with queue }, h.disk⟩

/-- The bytes of the log, if the node has one. -/
def logBytes (h : Host) : Bytes :=
  match h.node.log with
  | some writer => h.disk.contentOf writer.device
  | none => []

end Host

end ReplicatedCache
