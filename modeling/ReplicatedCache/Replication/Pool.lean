/-
The workers that take tasks off the queue and send each to every replica in turn, as a machine
whose steps may interleave in any order. Its parts follow the documented behaviour of the async
runtime: a flag that can be watched and counts as raised once nobody is left who could raise it, a
lock that one worker has at a time, a channel with one receiving end, and a wait for the first of
two things that always looks at the flag first.

A worker that wants a task waits for the lock on the receiving end and then, with the lock, for a
task. Before each try of the lock, and before each try to receive, it looks at the stop flag. Every
look and every try is a step of its own, and anything may happen between two of them.

* `Worker`: what one worker is doing;
* `Attempt`: one send to one replica that has come to its end;
* `Pool.enqueue`, `Pool.stop`, `Pool.closeProducers`: what happens to the pool from outside;
* `Pool.look?`, `Pool.lock?`, `Pool.receive?`, `Pool.finish?`, `Pool.leave?`: the steps of a worker,
  where they are possible;
* `Pool.step?`, `Pool.run?`: one event, if it can happen, and several;
* `Pool.take?`, `Pool.exit?`: what an idle worker does if nothing happens between its steps;
* `Pool.queueCounters`, `Pool.workerCounters`: what the counters show, whoever they belong to.
-/
import ReplicatedCache.Fault
import ReplicatedCache.Replication.Queue

namespace ReplicatedCache

/-- How a send to one replica ended. -/
inductive Outcome where
  | delivered
  | failed (reason : String)
  /-- It took longer than a send may take. -/
  | timedOut
  deriving DecidableEq, Repr

/-- How a send ended that was answered. -/
def Outcome.ofResult : Except Fault Unit → Outcome
  | .ok () => .delivered
  | .error fault => .failed fault.message

/-- What one worker is doing. -/
inductive Worker where
  /-- It waits for the lock. -/
  | idle
  /-- It has seen that it need not stop, and is about to try the lock. -/
  | locking
  /-- It has the lock and waits for a task. -/
  | waiting
  /-- It has the lock, has seen that it need not stop, and is about to try to receive. -/
  | receiving
  /-- It delivers a task; `number` counts the tasks taken before it, and the sends to the first
  `passed` replicas have ended. -/
  | sending (number : Nat) (op : Operation) (passed : Nat)
  /-- It has seen that it has to stop or that no task will come, and has let go of the lock. -/
  | leaving
  | exited
  deriving DecidableEq, Repr

/-- Whether a worker has the lock. It lets go of it when it has received a task, and when it is
about to exit. -/
def Worker.hasLock : Worker → Bool
  | waiting | receiving => true
  | idle | locking | sending _ _ _ | leaving | exited => false

/-- A send that has ended. -/
structure Attempt where
  /-- How many tasks were taken before the one that was sent. -/
  number : Nat
  op : Operation
  replica : Nat
  outcome : Outcome
  deriving DecidableEq, Repr

/-- Workers that share a queue. -/
structure Pool where
  /-- The number of replicas. -/
  replicas : Nat
  queue : SendQueue
  workers : List Worker
  /-- Whether the workers have been told to stop. -/
  stopping : Bool
  /-- Whether tasks can still be added. -/
  producing : Bool
  /-- The sends that have ended, oldest first. -/
  attempts : List Attempt
  deriving DecidableEq, Repr

namespace Pool

/-- How many workers a pool is given of which so many are asked for: at least one. -/
def staff (asked : Nat) : Nat := max asked 1

/-- A pool of idle workers. Without any worker nobody ever takes a task. -/
def start (replicas workers : Nat) : Pool where
  replicas := replicas
  queue := if workers = 0 then SendQueue.close {} else {}
  workers := List.replicate workers .idle
  stopping := false
  producing := true
  attempts := []

/-- Adds a task and says whether it was accepted. -/
def enqueue (p : Pool) (op : Operation) : Bool × Pool :=
  let (accepted, queue) := p.queue.enqueue op
  (accepted, { p with queue })

/-- Tells the workers to stop. Each sees it when it looks the next time. -/
def stop (p : Pool) : Pool := { p with stopping := true }

/-- No more tasks will be added. -/
def closeProducers (p : Pool) : Pool := { p with producing := false }

/-- Whether all workers have exited. -/
def finished (p : Pool) : Bool := p.workers.all (· = .exited)

/-- Whether some worker has the lock. -/
def isLocked (p : Pool) : Bool := p.workers.any Worker.hasLock

/-- Replaces worker `w`. -/
def setWorker (p : Pool) (w : Nat) (worker : Worker) : Pool :=
  { p with workers := p.workers.set w worker }

/-- A worker with a task of which `passed` sends have ended: after the last one it is idle. -/
def sendingOrIdle (p : Pool) (number : Nat) (op : Operation) (passed : Nat) : Worker :=
  if passed < p.replicas then .sending number op passed else .idle

/-- Worker `w`, which waits for the lock or for a task, looks whether it has been told to stop. -/
def look? (p : Pool) (w : Nat) : Option Pool :=
  match p.workers[w]? with
  | some .idle => some (p.setWorker w (if p.stopping then .leaving else .locking))
  | some .waiting => some (p.setWorker w (if p.stopping then .leaving else .receiving))
  | _ => none

/-- Worker `w` tries the lock, and waits on if another one has it. -/
def lock? (p : Pool) (w : Nat) : Option Pool :=
  match p.workers[w]? with
  | some .locking => some (p.setWorker w (if p.isLocked then .idle else .waiting))
  | _ => none

/-- Worker `w` tries to receive. It takes the oldest task, counts it and lets go of the lock; where
there is none, it waits on with the lock, or leaves if none will come. -/
def receive? (p : Pool) (w : Nat) : Option Pool :=
  match p.workers[w]? with
  | some .receiving =>
      match p.queue.take with
      | (some op, queue) =>
          let number := p.queue.counters.dequeued
          some ({ p with queue := { queue with counters := queue.counters.dequeue } }.setWorker w
            (p.sendingOrIdle number op 0))
      | (none, _) => some (p.setWorker w (if p.producing then .waiting else .leaving))
  | _ => none

/-- Worker `w` exits. The last one takes the receiving end of the queue with it. -/
def leave? (p : Pool) (w : Nat) : Option Pool :=
  match p.workers[w]? with
  | some .leaving =>
      let p := p.setWorker w .exited
      some (if p.finished then { p with queue := p.queue.close } else p)
  | _ => none

/-- The counters after a send has ended. -/
def count (c : ReplicationCounters) : Outcome → ReplicationCounters
  | .delivered => c.deliver
  | .failed _ => c.fail
  | .timedOut => c.fail

/-- The send of worker `w` ends. -/
def finish? (p : Pool) (w : Nat) (outcome : Outcome) : Option Pool :=
  match p.workers[w]? with
  | some (.sending number op passed) =>
      let attempt : Attempt := ⟨number, op, passed, outcome⟩
      let queue := { p.queue with counters := count p.queue.counters outcome }
      some ({ p with queue, attempts := p.attempts ++ [attempt] }.setWorker w
        (p.sendingOrIdle number op (passed + 1)))
  | _ => none

/-- What can happen to a pool. -/
inductive Event where
  | enqueue (op : Operation)
  /-- The workers are told to stop. -/
  | stop
  /-- No more tasks will be added. -/
  | closeProducers
  | look (worker : Nat)
  | lock (worker : Nat)
  | receive (worker : Nat)
  | leave (worker : Nat)
  | finish (worker : Nat) (outcome : Outcome)
  deriving DecidableEq, Repr

/-- One event, if it can happen. -/
def step? (p : Pool) : Event → Option Pool
  | .enqueue op => some (p.enqueue op).2
  | .stop => some p.stop
  | .closeProducers => some p.closeProducers
  | .look w => p.look? w
  | .lock w => p.lock? w
  | .receive w => p.receive? w
  | .leave w => p.leave? w
  | .finish w outcome => p.finish? w outcome

/-- Several events, one after the other. -/
def run? (p : Pool) : List Event → Option Pool
  | [] => some p
  | e :: events => (p.step? e).bind fun p => p.run? events

theorem run?_append (p : Pool) (events later : List Event) :
    p.run? (events ++ later) = (p.run? events).bind fun p => p.run? later := by
  induction events generalizing p with
  | nil => rfl
  | cons e events ih =>
      rw [List.cons_append, run?, run?, Option.bind_assoc]
      exact congrArg _ (funext ih)

/-- The steps of an idle worker up to its try to receive. -/
def visit (w : Nat) : List Event := [.look w, .lock w, .look w, .receive w]

/-- Idle worker `w` takes the oldest task, where nothing happens between its steps, unless it has to
stop or to wait. -/
def take? (p : Pool) (w : Nat) : Option Pool :=
  if p.stopping || p.queue.waiting.isEmpty then none else p.run? (visit w)

theorem run?_of_take? {p p' : Pool} {w : Nat} (h : p.take? w = some p') :
    p.run? (visit w) = some p' := by
  rw [take?] at h
  split at h
  next => cases h
  next => exact h

/-- Whether an idle worker has nothing left to wait for. -/
def mayExit (p : Pool) : Bool :=
  p.stopping || (!p.producing && p.queue.waiting.isEmpty)

/-- Idle worker `w` exits, where nothing happens between its steps, unless it has something to wait
for. -/
def exit? (p : Pool) (w : Nat) : Option Pool :=
  if p.workers[w]? = some .idle ∧ p.mayExit then
    p.run? ((if p.stopping then [.look w] else visit w) ++ [.leave w])
  else none

/-- The counters of the queue. The workers are given the counters on which they count; unless these
are those of the queue, the queue counts nothing but the tasks that are added. -/
def queueCounters (p : Pool) (shared : Bool) : ReplicationCounters :=
  if shared then p.queue.counters else { enqueued := p.queue.counters.enqueued }

/-- The counters that the workers were given. -/
def workerCounters (p : Pool) (shared : Bool) : ReplicationCounters :=
  if shared then p.queue.counters else { p.queue.counters with enqueued := 0 }

end Pool

end ReplicatedCache
