/-
The workers of a pool in time. Each replica answers its sends by a script, and a send that takes
longer than allowed is cut off. Time is in milliseconds and passes only between two ends of sends.

This follows the documented behaviour of the async runtime on one thread: a worker goes on until it
has to wait, whoever waits for a lock gets it in turn, and a time limit still lets through what is
ready when it is reached.

* `SendAnswer`: how a replica answers one send;
* `Send`: a send with its start and end;
* `Send.endOf`: how a send ends, by its result and the time that it takes;
* `Timeline`: a pool, the scripts of its replicas and the time;
* `Timeline.sleep`: everything that happens within a span of time;
* `Timeline.runOut`: everything that happens until the workers have nothing under way.
-/
import ReplicatedCache.Replication.Pool

namespace ReplicatedCache

/-- How a replica answers one send: when, and with which fault, if any. -/
structure SendAnswer where
  delay : Nat := 0
  failure : Option String := none
  deriving DecidableEq, Repr

/-- What an answer says about the operation. -/
def SendAnswer.result (answer : SendAnswer) : Except Fault Unit :=
  match answer.failure with
  | some text => .error (.replication text)
  | none => .ok ()

/-- A send under way or ended. -/
structure Send where
  worker : Nat
  replica : Nat
  op : Operation
  started : Nat
  /-- When the answer arrives or the send is cut off. -/
  ends : Nat
  outcome : Outcome
  deriving DecidableEq, Repr

namespace Send

/-- How a send ends that may take `timeout` and takes `delay`: after the deadline it is cut off,
whatever its result. An answer that arrives at the last moment still counts. -/
def endOf (timeout delay : Nat) (result : Except Fault Unit) : Outcome :=
  if timeout < delay then .timedOut else .ofResult result

/-- How a send ends that is answered by `answer`, if it may take `timeout`. -/
def outcomeOf (timeout : Nat) (answer : SendAnswer) : Outcome :=
  endOf timeout answer.delay answer.result

end Send

/-- A pool in time. -/
structure Timeline where
  pool : Pool
  /-- How long one send may take. -/
  timeout : Nat
  /-- The answers that each replica has not given yet; after them it answers at once. -/
  scripts : List (List SendAnswer)
  clock : Nat := 0
  /-- The idle workers in the order in which they take tasks. -/
  line : List Nat
  /-- The sends under way, in the order of their start. -/
  underway : List Send := []
  /-- All sends, in the order of their start. -/
  sends : List Send := []
  deriving DecidableEq, Repr

namespace Timeline

/-- A pool of idle workers and replicas with the given scripts. -/
def start (workers timeout : Nat) (scripts : List (List SendAnswer)) : Timeline :=
  let pool := Pool.start scripts.length workers
  { pool, timeout, scripts, line := List.range pool.workers.length }

/-- Adds a task and says whether it was accepted. No worker looks at it before time passes. -/
def enqueue (t : Timeline) (op : Operation) : Bool × Timeline :=
  let (accepted, pool) := t.pool.enqueue op
  (accepted, { t with pool })

/-- Tells the workers to stop. -/
def stop (t : Timeline) : Timeline := { t with pool := t.pool.stop }

/-- No more tasks will be added. -/
def closeProducers (t : Timeline) : Timeline := { t with pool := t.pool.closeProducers }

/-- The next answer of a replica, and its script after it. -/
def nextAnswer (t : Timeline) (replica : Nat) : SendAnswer × Timeline :=
  match t.scripts[replica]? with
  | some (answer :: rest) => (answer, { t with scripts := t.scripts.set replica rest })
  | _ => ({}, t)

/-- Worker `w` sends `op` to a replica. -/
def startSend (t : Timeline) (w replica : Nat) (op : Operation) : Send × Timeline :=
  let (answer, t) := t.nextAnswer replica
  let send : Send :=
    ⟨w, replica, op, t.clock, t.clock + min answer.delay t.timeout,
      Send.outcomeOf t.timeout answer⟩
  (send, { t with sends := t.sends ++ [send] })

/-- The send of worker `w` ends. -/
def finish (t : Timeline) (w : Nat) (outcome : Outcome) : Timeline :=
  match t.pool.finish? w outcome with
  | some pool => { t with pool }
  | none => t

/-- Worker `w` goes on until it has to wait: for the answer to a send, or for a task. At most
`sendsLeft` sends are answered at once. -/
def proceed : (sendsLeft : Nat) → Timeline → (w : Nat) → Timeline
  | 0, t, w => { t with line := t.line ++ [w] }
  | sendsLeft + 1, t, w =>
      match t.pool.workers[w]? with
      | some (.sending _ op passed) =>
          let (send, t) := t.startSend w passed op
          if send.ends ≤ t.clock then proceed sendsLeft (t.finish w send.outcome) w
          else { t with underway := t.underway ++ [send] }
      | _ => { t with line := t.line ++ [w] }

/-- Worker `w` goes on until it has to wait. -/
def goOn (t : Timeline) (w : Nat) : Timeline := proceed (t.pool.replicas + 1) t w

/-- The first worker in line exits or takes a task, if it can. -/
def handOut? (t : Timeline) : Option Timeline :=
  match t.line with
  | [] => none
  | w :: line =>
      match t.pool.exit? w with
      | some pool => some { t with pool, line }
      | none =>
          match t.pool.take? w with
          | some pool => some (goOn { t with pool, line } w)
          | none => none

/-- The first of the sends that end earliest. -/
def earliest? : List Send → Option Send
  | [] => none
  | s :: rest =>
      match earliest? rest with
      | some other => some (if other.ends < s.ends then other else s)
      | none => some s

/-- The next send to end does so, if that is not after `limit`. -/
def endSend? (limit : Option Nat) (t : Timeline) : Option Timeline :=
  match earliest? t.underway with
  | none => none
  | some send =>
      let reached := match limit with
        | some moment => decide (send.ends ≤ moment)
        | none => true
      if reached then
        let t := { t with
          clock := max t.clock send.ends
          underway := t.underway.filter fun other => other.worker ≠ send.worker }
        some ((t.finish send.worker send.outcome).goOn send.worker)
      else none

/-- The next thing that happens, if it is not after `limit`. -/
def step? (limit : Option Nat) (t : Timeline) : Option Timeline :=
  match t.handOut? with
  | some t => some t
  | none => t.endSend? limit

/-- What happens until `limit`, at most `fuel` steps of it. -/
def run (limit : Option Nat) : (fuel : Nat) → Timeline → Timeline
  | 0, t => t
  | fuel + 1, t =>
      match t.step? limit with
      | some t => run limit fuel t
      | none => t

/-- More steps than can happen before another task is added: each hands out a task, ends a send
or lets a worker exit. -/
def bound (t : Timeline) : Nat :=
  (t.pool.queue.waiting.length + t.pool.workers.length) * (t.pool.replicas + 2) + 1

/-- Lets `span` milliseconds pass. What is due at their end has happened then. -/
def sleep (t : Timeline) (span : Nat) : Timeline :=
  let moment := t.clock + span
  { run (some moment) t.bound t with clock := moment }

/-- Lets time pass until nothing more happens by itself. -/
def runOut (t : Timeline) : Timeline := run none t.bound t

end Timeline

end ReplicatedCache
