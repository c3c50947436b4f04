/-
What is counted about replication:

* `ReplicationCounters`: tasks queued and taken off the queue, and the outcomes of the sends;
* `ReplicationCounters.pending`: the tasks still waiting;
* `ReplicationCounters.summary`: what is reported of the counts.
-/
namespace ReplicatedCache

/-- Counts of tasks and of sends to single replicas. -/
structure ReplicationCounters where
  /-- Tasks accepted by the queue. -/
  enqueued : Nat := 0
  /-- Tasks taken off the queue by a sender. -/
  dequeued : Nat := 0
  /-- Sends that the replica confirmed. -/
  delivered : Nat := 0
  /-- Sends that failed or took too long. -/
  failed : Nat := 0
  deriving DecidableEq, Repr

namespace ReplicationCounters

def enqueue (c : ReplicationCounters) : ReplicationCounters := { c with enqueued := c.enqueued + 1 }

def dequeue (c : ReplicationCounters) : ReplicationCounters := { c with dequeued := c.dequeued + 1 }

def deliver (c : ReplicationCounters) : ReplicationCounters :=
  { c with delivered := c.delivered + 1 }

def fail (c : ReplicationCounters) : ReplicationCounters := { c with failed := c.failed + 1 }

/-- Tasks accepted and not taken off again; never below zero. -/
def pending (c : ReplicationCounters) : Nat := c.enqueued - c.dequeued

/-- What is reported about replication. -/
structure Summary where
  enqueued : Nat := 0
  pending : Nat := 0
  delivered : Nat := 0
  failed : Nat := 0
  deriving DecidableEq, Repr

/-- The reported counts: the tasks still waiting stand in place of those taken. -/
def summary (c : ReplicationCounters) : Summary :=
  ⟨c.enqueued, c.pending, c.delivered, c.failed⟩

end ReplicationCounters

end ReplicatedCache
