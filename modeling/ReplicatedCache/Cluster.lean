/-
A primary, its replicas and the network between them, with one sender that delivers every change
before the next request is served.

* `Replica`: a node, or something else that listens at the address of one;
* `Replica.receive`: what comes back for a request, and the replica after it;
* `Replica.deliver`: one send to a replica, and the replica after it;
* `Cluster.settle`: the sender delivers all that waits in the queue of the primary;
* `Cluster.stop`: the sender is told to stop, and exits;
* `Cluster.settle_run`: what the sender does then is a run of its pool.
-/
import ReplicatedCache.Api.Service
import ReplicatedCache.Replication.Client
import ReplicatedCache.Replication.Pool

namespace ReplicatedCache

/-- What stands at the address of a replica. -/
inductive Replica where
  | node (host : Host)
  /-- Nothing listens there. -/
  | dead
  /-- Something that gives one reply to every request. -/
  | canned (reply : NetworkReply)

namespace Replica

/-- What comes back for a request, and the replica after it. -/
def receive (r : Replica) (request : Http.Request) (now : Moment) (clock : Timestamp) :
    NetworkReply × Replica :=
  match r with
  | node host =>
      let (response, host) := host.serve now clock request
      (.response response.status (Utf8.encode response.body) true, node host)
  | dead => (.unreachable, dead)
  | canned reply => (reply, canned reply)

/-- Sends one operation to a replica at an address and says how that ended. -/
def deliver (r : Replica) (address : String) (op : Operation) (now : Moment) (clock : Timestamp) :
    Except Fault Unit × Replica :=
  match ReplicaClient.destination address with
  | .error fault => (.error fault, r)
  | .ok url =>
      let (reply, r) := r.receive (ReplicaClient.request url op) now clock
      (ReplicaClient.judge url reply, r)

end Replica

/-- A primary and its replicas. The sender reads the queue of the primary. -/
structure Cluster where
  primary : Host
  sender : Pool
  replicas : List Replica
  /-- Whether requests reach the replicas at all. -/
  connected : Bool

namespace Cluster

/-- A cluster with an idle sender. -/
def start (primary : Host) (replicas : List Replica) (connected : Bool) : Cluster :=
  ⟨primary, Pool.start replicas.length 1, replicas, connected⟩

/-- The host name in the address of a replica; all of them are reached by their place in line. -/
def addressOf (replica : Nat) : String := "replica" ++ replica.repr

/-- One send and the replica after it: without a network nothing listens at any address. -/
def send (connected : Bool) (address : String) (r : Replica) (op : Operation) (now : Moment)
    (clock : Timestamp) : Outcome × Replica :=
  if connected then
    let (result, r) := r.deliver address op now clock
    (.ofResult result, r)
  else (.ofResult (Replica.dead.deliver address op now clock).1, r)

/-- The sender makes the sends that are left of the task in its hands, and at most `left` of
them. -/
def sendOn (now : Moment) (clock : Timestamp) : (left : Nat) → Cluster → Cluster
  | 0, c => c
  | left + 1, c =>
      match c.sender.workers[0]? with
      | some (Worker.sending _ op passed) =>
          match c.replicas[passed]? with
          | some r =>
              let (outcome, r) := send c.connected (addressOf passed) r op now clock
              match c.sender.finish? 0 outcome with
              | some sender =>
                  sendOn now clock left { c with sender, replicas := c.replicas.set passed r }
              | none => c
          | none => c
      | _ => c

/-- The sender takes tasks and delivers them, and at most `tasks` of them. -/
def deliverOn (now : Moment) (clock : Timestamp) : (tasks : Nat) → Cluster → Cluster
  | 0, c => c
  | tasks + 1, c =>
      match c.sender.take? 0 with
      | some sender =>
          deliverOn now clock tasks (sendOn now clock c.replicas.length { c with sender })
      | none => c

/-- The cluster, where the sender has been brought what has come into the queue of the primary. -/
def refresh (c : Cluster) : Cluster :=
  { c with sender := { c.sender with queue := c.primary.outbox } }

/-- The cluster, where the primary knows what the sender has left of its queue. -/
def report (c : Cluster) : Cluster :=
  { c with primary := c.primary.withQueue (c.primary.node.queue.map fun _ => c.sender.queue) }

/-- Delivers everything that waits in the queue of the primary. -/
def settle (c : Cluster) (now : Moment) (clock : Timestamp) : Cluster :=
  (deliverOn now clock c.primary.outbox.waiting.length c.refresh).report

/-- Stops the sender, which then exits: no change is queued any more. -/
def stop (c : Cluster) : Cluster :=
  match c.refresh.sender.stop.exit? 0 with
  | some sender => { c with sender }.report
  | none => c

/-! ### What the sender does is a run of its pool -/

variable (now : Moment) (clock : Timestamp)

theorem sendOn_run (left : Nat) (c : Cluster) :
    ∃ events, c.sender.run? events = some (sendOn now clock left c).sender := by
  induction left generalizing c with
  | zero => exact ⟨[], rfl⟩
  | succ left ih =>
      rw [sendOn]
      split
      next number op passed hworker =>
          split
          next r hr =>
              simp only
              split
              next sender hfinish =>
                  obtain ⟨events, hrun⟩ := ih { c with
                    sender
                    replicas := c.replicas.set passed
                      (send c.connected (addressOf passed) r op now clock).2 }
                  refine ⟨.finish 0 (send c.connected (addressOf passed) r op now clock).1 ::
                    events, ?_⟩
                  rw [Pool.run?, Pool.step?, hfinish]
                  exact hrun
              next => exact ⟨[], rfl⟩
          next => exact ⟨[], rfl⟩
      next => exact ⟨[], rfl⟩

theorem deliverOn_run (tasks : Nat) (c : Cluster) :
    ∃ events, c.sender.run? events = some (deliverOn now clock tasks c).sender := by
  induction tasks generalizing c with
  | zero => exact ⟨[], rfl⟩
  | succ tasks ih =>
      rw [deliverOn]
      split
      next sender htake =>
          obtain ⟨sends, hsends⟩ :=
            sendOn_run now clock c.replicas.length { c with sender }
          obtain ⟨events, hrun⟩ := ih (sendOn now clock c.replicas.length { c with sender })
          refine ⟨Pool.visit 0 ++ (sends ++ events), ?_⟩
          rw [Pool.run?_append, Pool.run?_of_take? htake, Option.bind_some, Pool.run?_append,
            hsends]
          exact hrun
      next => exact ⟨[], rfl⟩

/-- **Settling** is a run of the pool that has one worker and reads the queue of the primary. -/
theorem settle_run (c : Cluster) :
    ∃ events, c.refresh.sender.run? events = some (c.settle now clock).sender :=
  deliverOn_run now clock c.primary.outbox.waiting.length c.refresh

end Cluster

end ReplicatedCache
