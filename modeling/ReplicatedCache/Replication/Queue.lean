/-
The queue between a primary and its senders. It is unbounded and keeps the order of the
mutations.

* `SendQueue.enqueue`: adds a task, unless nobody will ever take it;
* `SendQueue.take`: takes the oldest task;
* `SendQueue.close`: the receiving end is gone, and the tasks with it.
-/
import ReplicatedCache.Operation
import ReplicatedCache.Replication.Counters

namespace ReplicatedCache

/-- Operations waiting to be sent to the replicas, oldest first. -/
structure SendQueue where
  waiting : List Operation := []
  /-- Whether somebody can still take tasks. -/
  receiving : Bool := true
  counters : ReplicationCounters := {}
  deriving DecidableEq, Repr

namespace SendQueue

/-- Adds a task behind the others and says whether it was accepted. -/
def enqueue (q : SendQueue) (op : Operation) : Bool × SendQueue :=
  if q.receiving then
    (true, { q with waiting := q.waiting ++ [op], counters := q.counters.enqueue })
  else (false, q)

@[simp] theorem waiting_enqueue (q : SendQueue) (op : Operation) :
    (q.enqueue op).2.waiting = q.waiting ++ if q.receiving then [op] else [] := by
  rw [enqueue]
  split <;> simp

@[simp] theorem receiving_enqueue (q : SendQueue) (op : Operation) :
    (q.enqueue op).2.receiving = q.receiving := by
  rw [enqueue]
  split <;> rfl

@[simp] theorem enqueued_enqueue (q : SendQueue) (op : Operation) :
    (q.enqueue op).2.counters.enqueued =
      q.counters.enqueued + if q.receiving then 1 else 0 := by
  rw [enqueue]
  split <;> rfl

/-- Takes the oldest task. Whoever delivers it counts it as taken. -/
def take (q : SendQueue) : Option Operation × SendQueue :=
  match q.waiting with
  | op :: rest => (some op, { q with waiting := rest })
  | [] => (none, q)

/-- Taking a task takes it off the front. -/
theorem take_waiting (q : SendQueue) : q.take.1.toList ++ q.take.2.waiting = q.waiting := by
  rw [take]
  split
  next h => exact h.symm
  next => rfl

@[simp] theorem receiving_take (q : SendQueue) : q.take.2.receiving = q.receiving := by
  rw [take]
  split <;> rfl

@[simp] theorem counters_take (q : SendQueue) : q.take.2.counters = q.counters := by
  rw [take]
  split <;> rfl

/-- The receiving end is gone: waiting tasks are lost and no others are accepted. -/
def close (q : SendQueue) : SendQueue :=
  { q with waiting := [], receiving := false }

end SendQueue

end ReplicatedCache
