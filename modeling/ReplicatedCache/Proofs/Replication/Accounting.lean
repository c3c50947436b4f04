/-
What becomes of the tasks of a pool, however many workers take them and in whatever order things
happen.

* `Journal`: a pool, with the tasks that its queue has accepted and those that workers have taken;
* `Journal.step?`, `Journal.run?`: one event, if it can happen, and several;
* `Journal.Moves`: **one event**, by what it does;
* `Pool.SentTo`: the sends of a task that have ended are one for each of the first replicas;
* `Journal.QueueAccounts`, `Journal.WorkAccounts`: **the invariant**: what was accepted and not
  taken waits in its order, and what was taken is in the hands of the worker that took it or was
  sent to every replica;
* `Accounts.step`, `Accounts.run`: what events keep, one lemma for each kind of event before them;
* `Accounts.pending_eq`, `Accounts.delivered_add_failed`: what the counters show.
-/
import Mathlib.Algebra.GroupWithZero.Nat
import Mathlib.Logic.ExistsUnique
import ReplicatedCache.Proofs.Replication.Steps

namespace ReplicatedCache

namespace Pool

/-- The sends of a task that have ended, oldest first. -/
def attemptsOn (p : Pool) (number : Nat) : List Attempt :=
  p.attempts.filter fun a => a.number = number

/-- The sends of a task that have ended are one for each of the first replicas, in their order. -/
def SentTo (p : Pool) (number : Nat) (op : Operation) (passed : Nat) : Prop :=
  (p.attemptsOn number).map (fun a => (a.op, a.replica)) = row op passed

/-- Worker `w` has a task in its hands. -/
def Holds (p : Pool) (w number : Nat) : Prop :=
  ∃ op passed, p.workers[w]? = some (.sending number op passed)

/-- The tasks that the queue accepts with an event. -/
def added (p : Pool) : Event → List Operation
  | .enqueue op => if (p.enqueue op).1 then [op] else []
  | .stop | .closeProducers | .look _ | .lock _ | .receive _ | .leave _ | .finish _ _ => []

/-- The tasks that leave the queue with an event, if it can happen, each with the worker that
receives it. -/
def removed (p : Pool) : Event → List (Nat × Operation)
  | .receive w => p.queue.take.1.toList.map (w, ·)
  | .enqueue _ | .stop | .closeProducers | .look _ | .lock _ | .leave _ | .finish _ _ => []

end Pool

/-- The number of sends that a worker still has to make for the task in its hands. -/
def Worker.owed (replicas : Nat) : Worker → Nat
  | sending _ _ passed => replicas - passed
  | idle | locking | waiting | receiving | leaving | exited => 0

lemma Worker.owed_of_isFree {worker : Worker} (h : worker.isFree = true) (replicas : Nat) :
    worker.owed replicas = 0 := by
  cases worker with
  | sending number op passed => cases h
  | idle | locking | waiting | receiving | leaving | exited => rfl

/-- A pool, with a record of its tasks. -/
structure Journal where
  pool : Pool
  /-- The tasks that the queue has accepted, oldest first. -/
  accepted : List Operation
  /-- The tasks that have left the queue, oldest first, each with the worker that took it. -/
  taken : List (Nat × Operation)

namespace Journal

open Pool (Event)

/-- A pool of idle workers. -/
def start (replicas workers : Nat) : Journal := ⟨Pool.start replicas workers, [], []⟩

/-- One event, if it can happen. -/
def step? (j : Journal) (e : Event) : Option Journal :=
  (j.pool.step? e).map fun pool =>
    { pool, accepted := j.accepted ++ j.pool.added e, taken := j.taken ++ j.pool.removed e }

/-- Several events, one after the other. -/
def run? (j : Journal) : List Event → Option Journal
  | [] => some j
  | e :: events => (j.step? e).bind fun j => j.run? events

/-- **The queue** counts and keeps what it has accepted and what has left it. -/
structure QueueAccounts (j : Journal) : Prop where
  enqueued_eq : j.pool.queue.counters.enqueued = j.accepted.length
  dequeued_eq : j.pool.queue.counters.dequeued = j.taken.length
  order_eq : j.taken.map Prod.snd = j.accepted.take j.taken.length
  waiting_eq : j.pool.queue.waiting =
    if j.pool.queue.receiving then j.accepted.drop j.taken.length else []

/-- **The workers**: each has in its hands a task that it took, and has sent it to the replicas it
has passed; every other task that was taken was sent to all replicas. All sends are counted. -/
structure WorkAccounts (j : Journal) : Prop where
  held : ∀ w number op passed, j.pool.workers[w]? = some (.sending number op passed) →
    j.taken[number]? = some (w, op) ∧ passed < j.pool.replicas ∧ j.pool.SentTo number op passed
  done : ∀ number w op, j.taken[number]? = some (w, op) →
    j.pool.Holds w number ∨ j.pool.SentTo number op j.pool.replicas
  number_lt : ∀ a ∈ j.pool.attempts, a.number < j.taken.length
  delivered_eq : j.pool.queue.counters.delivered =
    j.pool.attempts.countP fun a => a.outcome = .delivered
  failed_eq : j.pool.queue.counters.failed =
    j.pool.attempts.countP fun a => a.outcome ≠ .delivered
  owed_eq : j.pool.attempts.length + (j.pool.workers.map (Worker.owed j.pool.replicas)).sum =
    j.pool.replicas * j.taken.length

/-! ### Parts of the invariant -/

variable {j j' : Journal} {w number : Nat} {op : Operation}

/-- A sum over all workers changes with one worker. -/
lemma sum_map_set {workers : List Worker} {old : Worker} (hold : workers[w]? = some old)
    (new : Worker) (f : Worker → Nat) :
    ((workers.set w new).map f).sum + f old = (workers.map f).sum + f new := by
  induction workers generalizing w with
  | nil => cases hold
  | cons x workers ih =>
      cases w with
      | zero =>
          obtain rfl : x = old := by simpa using hold
          simp only [List.set_cons_zero, List.map_cons, List.sum_cons]
          omega
      | succ w =>
          have hrest := ih (w := w) (by simpa using hold)
          simp only [List.set_cons_succ, List.map_cons, List.sum_cons]
          omega

lemma owed_sendingOrIdle (p : Pool) (number : Nat) (op : Operation) (passed : Nat) :
    (p.sendingOrIdle number op passed).owed p.replicas = p.replicas - passed := by
  rw [Pool.sendingOrIdle]
  split
  next => rfl
  next hpassed =>
      show 0 = p.replicas - passed
      omega

/-- A worker that goes on with a task has replicas left to send it to. -/
lemma eq_of_sendingOrIdle {p : Pool} {number number' passed passed' : Nat} {op op' : Operation}
    (h : p.sendingOrIdle number op passed = .sending number' op' passed') :
    number' = number ∧ op' = op ∧ passed' = passed ∧ passed < p.replicas := by
  rw [Pool.sendingOrIdle] at h
  split at h
  next hpassed =>
      obtain ⟨rfl, rfl, rfl⟩ := Worker.sending.inj h
      exact ⟨rfl, rfl, rfl, hpassed⟩
  next => cases h

lemma QueueAccounts.taken_le (h : j.QueueAccounts) : j.taken.length ≤ j.accepted.length := by
  have hlength := congrArg List.length h.order_eq
  rw [List.length_map, List.length_take] at hlength
  omega

/-- A task whose number is still free has not been sent anywhere. -/
lemma WorkAccounts.attemptsOn_eq_nil (h : j.WorkAccounts) (hn : j.taken.length ≤ number) :
    j.pool.attemptsOn number = [] := by
  rw [Pool.attemptsOn, List.filter_eq_nil_iff]
  intro a ha
  have hlt := h.number_lt a ha
  simp only [decide_eq_true_eq]
  omega

/-! ### What a worker does -/

/-- A worker with no task in its hands goes on to another state without one. -/
def Turns (j : Journal) (w : Nat) (j' : Journal) : Prop :=
  ∃ old new pool, j.pool.Turns w old new pool ∧ j' = { j with pool }

/-- A worker takes the oldest task. -/
def Takes (j : Journal) (w : Nat) (j' : Journal) : Prop :=
  j.pool.workers[w]? = some .receiving ∧
    ∃ op rest, j.pool.queue.waiting = op :: rest ∧ j' =
      ⟨{ j.pool with
          queue := { j.pool.queue with
            waiting := rest, counters := j.pool.queue.counters.dequeue }
          workers := j.pool.workers.set w
            (j.pool.sendingOrIdle j.pool.queue.counters.dequeued op 0) },
        j.accepted, j.taken ++ [(w, op)]⟩

lemma step?_enqueue (hstep : j.step? (.enqueue op) = some j') : j' =
    { j with
      pool := (j.pool.enqueue op).2
      accepted := j.accepted ++ if (j.pool.enqueue op).1 then [op] else [] } := by
  obtain rfl := Option.some.inj hstep
  simp only [Pool.removed, List.append_nil]
  rfl

/-- An event that neither adds nor removes a task changes only the pool. -/
lemma step?_quiet {e : Event} (hadded : j.pool.added e = []) (hremoved : j.pool.removed e = [])
    (hstep : j.step? e = some j') : ∃ pool, j.pool.step? e = some pool ∧ j' = { j with pool } := by
  obtain ⟨pool, hpool, rfl⟩ := Option.map_eq_some_iff.mp hstep
  rw [hadded, hremoved, List.append_nil, List.append_nil]
  exact ⟨pool, hpool, rfl⟩

lemma step?_look (hstep : j.step? (.look w) = some j') : j.Turns w j' := by
  obtain ⟨pool, hlook, hnext⟩ := step?_quiet rfl rfl hstep
  obtain ⟨old, new, hturn⟩ := Pool.turns_of_look hlook
  exact ⟨old, new, pool, hturn, hnext⟩

lemma step?_lock (hstep : j.step? (.lock w) = some j') : j.Turns w j' := by
  obtain ⟨pool, hlock, hnext⟩ := step?_quiet rfl rfl hstep
  obtain ⟨old, new, hturn⟩ := Pool.turns_of_lock hlock
  exact ⟨old, new, pool, hturn, hnext⟩

lemma step?_leave (hstep : j.step? (.leave w) = some j') : j.Turns w j' := by
  obtain ⟨pool, hleave, hnext⟩ := step?_quiet rfl rfl hstep
  obtain ⟨old, new, hturn⟩ := Pool.turns_of_leave hleave
  exact ⟨old, new, pool, hturn, hnext⟩

/-- A worker that tries to receive takes the oldest task, or there is none. -/
lemma step?_receive (hstep : j.step? (.receive w) = some j') : j.Takes w j' ∨ j.Turns w j' := by
  obtain ⟨pool, hreceive, rfl⟩ := Option.map_eq_some_iff.mp hstep
  obtain ⟨hworker, ⟨op, rest, hwaiting, rfl⟩ | ⟨hnone, -⟩⟩ := Pool.receive?_eq_some hreceive
  · refine .inl ⟨hworker, op, rest, hwaiting, ?_⟩
    simp only [Pool.added, Pool.removed, SendQueue.take, hwaiting, List.append_nil]
    rfl
  · obtain ⟨old, new, hturn⟩ := Pool.turns_of_receive hreceive hnone
    refine .inr ⟨old, new, pool, hturn, ?_⟩
    simp only [Pool.added, Pool.removed, SendQueue.take, hnone, List.append_nil, Option.toList_none,
      List.map_nil]

/-- A worker whose send ends goes on to the next replica, if there is one. -/
lemma step?_finish {outcome : Outcome} (hstep : j.step? (.finish w outcome) = some j') :
    ∃ number op passed, j.pool.workers[w]? = some (.sending number op passed) ∧ j' =
      ⟨{ j.pool with
          queue := { j.pool.queue with
            counters := Pool.count j.pool.queue.counters outcome }
          workers := j.pool.workers.set w (j.pool.sendingOrIdle number op (passed + 1))
          attempts := j.pool.attempts ++ [⟨number, op, passed, outcome⟩] },
        j.accepted, j.taken⟩ := by
  obtain ⟨pool, hfinish, rfl⟩ := step?_quiet rfl rfl hstep
  obtain ⟨number, op, passed, hworker, rfl⟩ := Pool.finish?_eq_some hfinish
  exact ⟨number, op, passed, hworker, rfl⟩

/-- **One event**, by what it does to the pool and its record. -/
inductive Moves (j j' : Journal) : Prop where
  | adds {op : Operation} (hadd : j.step? (.enqueue op) = some j')
  | stops (hnext : j' = { j with pool := j.pool.stop })
  | closes (hnext : j' = { j with pool := j.pool.closeProducers })
  | turns {w : Nat} (hturn : j.Turns w j')
  | takes {w : Nat} (htake : j.Takes w j')
  | ends {w : Nat} {outcome : Outcome} (hend : j.step? (.finish w outcome) = some j')

lemma moves {e : Event} (hstep : j.step? e = some j') : j.Moves j' := by
  cases e with
  | enqueue op => exact .adds hstep
  | stop =>
      obtain ⟨pool, hpool, rfl⟩ := step?_quiet rfl rfl hstep
      obtain rfl := Option.some.inj hpool
      exact .stops rfl
  | closeProducers =>
      obtain ⟨pool, hpool, rfl⟩ := step?_quiet rfl rfl hstep
      obtain rfl := Option.some.inj hpool
      exact .closes rfl
  | look w => exact .turns (step?_look hstep)
  | lock w => exact .turns (step?_lock hstep)
  | receive w =>
      rcases step?_receive hstep with htake | hturn
      · exact .takes htake
      · exact .turns hturn
  | leave w => exact .turns (step?_leave hstep)
  | finish w outcome => exact .ends hstep

/-! ### The queue -/

namespace QueueAccounts

lemma start (replicas workers : Nat) : (start replicas workers).QueueAccounts := by
  simp only [Journal.start, Pool.start]
  split
  · exact ⟨rfl, rfl, rfl, rfl⟩
  · exact ⟨rfl, rfl, rfl, rfl⟩

/-- **A task that is added** waits behind the others, unless nobody will ever take it. -/
lemma enqueue (h : j.QueueAccounts) (hstep : j.step? (.enqueue op) = some j') :
    j'.QueueAccounts := by
  obtain rfl := step?_enqueue hstep
  have hwaiting := h.waiting_eq
  cases hq : j.pool.queue.receiving with
  | true =>
      rw [hq, if_pos rfl] at hwaiting
      simp only [Pool.enqueue, SendQueue.enqueue, hq, if_true]
      refine ⟨?_, h.dequeued_eq, ?_, ?_⟩
      · rw [List.length_append, ← h.enqueued_eq]
        rfl
      · rw [List.take_append_of_le_length h.taken_le]
        exact h.order_eq
      · show j.pool.queue.waiting ++ [op] = (j.accepted ++ [op]).drop j.taken.length
        rw [List.drop_append_of_le_length h.taken_le, hwaiting]
  | false =>
      simp only [Pool.enqueue, SendQueue.enqueue, hq, Bool.false_eq_true, if_false, List.append_nil]
      exact h

/-- **A task that is taken** is the oldest one that waits. -/
lemma take (h : j.QueueAccounts) (htake : j.Takes w j') : j'.QueueAccounts := by
  obtain ⟨-, op, rest, hwaiting, rfl⟩ := htake
  have hdrop : j.accepted.drop j.taken.length = op :: rest := by
    have hkept := h.waiting_eq
    rw [hwaiting] at hkept
    split at hkept
    · exact hkept.symm
    · cases hkept
  have hop : j.accepted[j.taken.length]? = some op := by
    rw [← List.head?_drop, hdrop, List.head?_cons]
  refine ⟨h.enqueued_eq, ?_, ?_, ?_⟩
  · rw [List.length_append, ← h.dequeued_eq]
    rfl
  · rw [List.map_append, h.order_eq, List.length_append, List.length_singleton, List.take_add_one,
      hop]
    rfl
  · have hkept := h.waiting_eq
    rw [hwaiting] at hkept
    rw [List.length_append, List.length_singleton, ← List.drop_drop, hdrop]
    split at hkept
    next hreceiving => exact (if_pos hreceiving).symm
    next => cases hkept

/-- **A send that ends** is none of the business of the queue. -/
lemma finish (h : j.QueueAccounts) {outcome : Outcome}
    (hstep : j.step? (.finish w outcome) = some j') : j'.QueueAccounts := by
  obtain ⟨number, op, passed, -, rfl⟩ := step?_finish hstep
  cases outcome with
  | delivered => exact ⟨h.enqueued_eq, h.dequeued_eq, h.order_eq, h.waiting_eq⟩
  | failed reason => exact ⟨h.enqueued_eq, h.dequeued_eq, h.order_eq, h.waiting_eq⟩
  | timedOut => exact ⟨h.enqueued_eq, h.dequeued_eq, h.order_eq, h.waiting_eq⟩

/-- **A worker without a task** leaves the queue alone, but the last one that exits closes it. -/
lemma turn (h : j.QueueAccounts) (hturn : j.Turns w j') : j'.QueueAccounts := by
  obtain ⟨old, new, pool, hpool, rfl⟩ := hturn
  obtain ⟨queue, rfl | ⟨-, rfl⟩, rfl⟩ := hpool.next
  · exact ⟨h.enqueued_eq, h.dequeued_eq, h.order_eq, h.waiting_eq⟩
  · exact ⟨h.enqueued_eq, h.dequeued_eq, h.order_eq, rfl⟩

/-- **One event** keeps the accounts of the queue. -/
lemma step (h : j.QueueAccounts) (hmoves : j.Moves j') : j'.QueueAccounts := by
  cases hmoves with
  | adds hadd => exact h.enqueue hadd
  | stops hnext | closes hnext =>
      rw [hnext]
      exact ⟨h.enqueued_eq, h.dequeued_eq, h.order_eq, h.waiting_eq⟩
  | turns hturn => exact h.turn hturn
  | takes htake => exact h.take htake
  | ends hend => exact h.finish hend

end QueueAccounts

/-! ### The workers -/

/-- A task stays in its worker's hands when a worker changes that does not have it in its hands. -/
lemma holds_set {p : Pool} {old : Worker} (hold : p.workers[w]? = some old) (new : Worker)
    (hother : ∀ op passed, old ≠ .sending number op passed) {w' : Nat} (h : p.Holds w' number) :
    ∃ op passed, (p.workers.set w new)[w']? = some (.sending number op passed) := by
  obtain ⟨op, passed, hw'⟩ := h
  have hne : w ≠ w' := by
    rintro rfl
    rw [hold] at hw'
    exact hother op passed (Option.some.inj hw')
  exact ⟨op, passed, by rw [List.getElem?_set_ne hne, hw']⟩

/-- A worker that goes on with a task has it in its hands, unless it has come past all replicas. -/
lemma holds_or_eq {p : Pool} {old : Worker} (hold : p.workers[w]? = some old) (number : Nat)
    (op : Operation) {passed : Nat} (hpassed : passed ≤ p.replicas) :
    (∃ op' passed', (p.workers.set w (p.sendingOrIdle number op passed))[w]? =
      some (.sending number op' passed')) ∨ passed = p.replicas := by
  rw [Pool.sendingOrIdle]
  split
  next =>
      exact .inl ⟨op, passed, List.getElem?_set_self (List.getElem?_eq_some_iff.mp hold).1⟩
  next hlast => exact .inr (Nat.le_antisymm hpassed (Nat.le_of_not_lt hlast))

namespace WorkAccounts

lemma start (replicas workers : Nat) : (start replicas workers).WorkAccounts := by
  have hidle {w : Nat} {worker : Worker}
      (hw : (Journal.start replicas workers).pool.workers[w]? = some worker) : worker = .idle :=
    List.eq_of_mem_replicate (List.mem_of_getElem? hw)
  have hcounters : (Journal.start replicas workers).pool.queue.counters = {} := by
    simp only [Journal.start, Pool.start]
    split
    · rfl
    · rfl
  refine ⟨fun w number op passed hw => ?_, fun number w op hw => ?_, fun a ha => ?_, ?_, ?_, ?_⟩
  · cases hidle hw
  · cases hw
  · cases ha
  · rw [hcounters]
    rfl
  · rw [hcounters]
    rfl
  · simp [Journal.start, Pool.start, Worker.owed]

/-- What has been sent and what is owed, once worker `w` has changed. -/
lemma owed_set (h : j.WorkAccounts) {old : Worker} (hold : j.pool.workers[w]? = some old)
    (new : Worker) :
    j.pool.attempts.length +
        ((j.pool.workers.set w new).map (Worker.owed j.pool.replicas)).sum +
        old.owed j.pool.replicas =
      j.pool.replicas * j.taken.length + new.owed j.pool.replicas := by
  have hbefore := h.owed_eq
  have hset := sum_map_set hold new (Worker.owed j.pool.replicas)
  omega

/-- **A task that is added** is in nobody's hands yet. -/
lemma enqueue (h : j.WorkAccounts) (hstep : j.step? (.enqueue op) = some j') :
    j'.WorkAccounts := by
  obtain rfl := step?_enqueue hstep
  have hcounters : (j.pool.enqueue op).2.queue.counters.delivered =
        j.pool.queue.counters.delivered ∧
      (j.pool.enqueue op).2.queue.counters.failed = j.pool.queue.counters.failed := by
    simp only [Pool.enqueue, SendQueue.enqueue]
    split
    · exact ⟨rfl, rfl⟩
    · exact ⟨rfl, rfl⟩
  exact ⟨h.held, h.done, h.number_lt, hcounters.1.trans h.delivered_eq,
    hcounters.2.trans h.failed_eq, h.owed_eq⟩

/-- **A task that is taken** is in the hands of the worker that took it; where there are no
replicas, it is done at once. -/
lemma take (h : j.WorkAccounts) (hqueue : j.QueueAccounts) (htake : j.Takes w j') :
    j'.WorkAccounts := by
  obtain ⟨hworker, op, rest, -, rfl⟩ := htake
  have hsent (passed : Nat) (hpassed : passed = 0) : j.pool.SentTo j.taken.length op passed := by
    rw [Pool.SentTo, h.attemptsOn_eq_nil (Nat.le_refl _), hpassed]
    rfl
  rw [hqueue.dequeued_eq]
  refine ⟨?_, ?_, ?_, h.delivered_eq, h.failed_eq, ?_⟩
  · intro w' number op' passed hw'
    rcases Pool.eq_or_of_set hworker hw' with ⟨rfl, hnew⟩ | ⟨-, hold⟩
    · obtain ⟨rfl, rfl, rfl, hpassed⟩ := eq_of_sendingOrIdle hnew
      exact ⟨List.getElem?_concat_length, hpassed, hsent 0 rfl⟩
    · obtain ⟨htaken, hpassed, hsent'⟩ := h.held w' number op' passed hold
      have hlt : number < j.taken.length := (List.getElem?_eq_some_iff.mp htaken).1
      exact ⟨by rw [List.getElem?_append_left hlt, htaken], hpassed, hsent'⟩
  · intro number w' op' hnumber
    by_cases hlt : number < j.taken.length
    · rw [List.getElem?_append_left hlt] at hnumber
      rcases h.done number w' op' hnumber with hholds | hdone
      · -- the worker that takes the task had none in its hands
        exact .inl (holds_set hworker _ (fun _ _ heq => by cases heq) hholds)
      · exact .inr hdone
    · have heq : number = j.taken.length := by
        have hbound := (List.getElem?_eq_some_iff.mp hnumber).1
        rw [List.length_append, List.length_singleton] at hbound
        omega
      subst heq
      rw [List.getElem?_concat_length] at hnumber
      obtain ⟨rfl, rfl⟩ := Prod.mk.inj (Option.some.inj hnumber)
      rcases holds_or_eq hworker j.taken.length op (Nat.zero_le _) with hholds | hnone
      · exact .inl hholds
      · exact .inr (hsent _ hnone.symm)
  · intro a ha
    have hlt := h.number_lt a ha
    rw [List.length_append, List.length_singleton]
    omega
  · -- all the sends of the task are owed now
    have howed := h.owed_set hworker (j.pool.sendingOrIdle j.taken.length op 0)
    rw [owed_sendingOrIdle] at howed
    rw [List.length_append, List.length_singleton, Nat.mul_add, Nat.mul_one]
    exact howed

/-- A send that ends adds to the sends of its own task only. -/
lemma sentTo_append {p : Pool} {a : Attempt} {passed : Nat} (hne : number ≠ a.number)
    (h : p.SentTo number op passed) :
    ((p.attempts ++ [a]).filter fun b => b.number = number).map (fun b => (b.op, b.replica)) =
      Pool.row op passed := by
  rw [List.filter_append, List.filter_cons_of_neg (by simpa using hne.symm), List.filter_nil,
    List.append_nil]
  exact h

/-- The next send of a task adds the next replica. -/
lemma sentTo_next {p : Pool} {outcome : Outcome} {passed : Nat} (h : p.SentTo number op passed) :
    ((p.attempts ++ [(⟨number, op, passed, outcome⟩ : Attempt)]).filter fun b =>
        b.number = number).map (fun b => (b.op, b.replica)) = Pool.row op (passed + 1) := by
  rw [List.filter_append, List.filter_cons_of_pos (by simp), List.filter_nil, List.map_append,
    Pool.row_succ]
  exact congrArg (· ++ [(op, passed)]) h

/-- **A send that ends** brings its task past one more replica, and is counted. -/
lemma finish (h : j.WorkAccounts) {outcome : Outcome}
    (hstep : j.step? (.finish w outcome) = some j') : j'.WorkAccounts := by
  obtain ⟨number, op, passed, hworker, rfl⟩ := step?_finish hstep
  obtain ⟨htaken, hpassed, hsent⟩ := h.held w number op passed hworker
  have hnext := @sentTo_next number op j.pool outcome passed hsent
  refine ⟨?_, ?_, ?_, ?_, ?_, ?_⟩
  · intro w' number' op' passed' hw'
    rcases Pool.eq_or_of_set hworker hw' with ⟨rfl, hnew⟩ | ⟨hne, hold⟩
    · obtain ⟨rfl, rfl, rfl, hmore⟩ := eq_of_sendingOrIdle hnew
      exact ⟨htaken, hmore, hnext⟩
    · obtain ⟨htaken', hpassed', hsent'⟩ := h.held w' number' op' passed' hold
      have hother : number' ≠ number := by
        -- a task is in the hands of the worker that took it
        rintro rfl
        rw [htaken] at htaken'
        exact hne (Prod.mk.inj (Option.some.inj htaken')).1.symm
      exact ⟨htaken', hpassed', sentTo_append hother hsent'⟩
  · intro number' w' op' htaken'
    by_cases hnumber : number' = number
    · subst hnumber
      rw [htaken] at htaken'
      obtain ⟨rfl, rfl⟩ := Prod.mk.inj (Option.some.inj htaken')
      have hle : passed + 1 ≤ j.pool.replicas := hpassed
      rcases holds_or_eq hworker number' op hle with hholds | hlast
      · exact .inl hholds
      · rw [hlast] at hnext
        exact .inr hnext
    · rcases h.done number' w' op' htaken' with hholds | hdone
      · exact .inl (holds_set hworker _
          (fun _ _ heq => hnumber (Worker.sending.inj heq).1.symm) hholds)
      · exact .inr (sentTo_append hnumber hdone)
  · intro a ha
    rcases List.mem_append.mp ha with ha | ha
    · exact h.number_lt a ha
    · obtain rfl := List.mem_singleton.mp ha
      exact (List.getElem?_eq_some_iff.mp htaken).1
  · have hbefore := h.delivered_eq
    rw [List.countP_append, ← hbefore]
    cases outcome with
    | delivered => rfl
    | failed reason => rfl
    | timedOut => rfl
  · have hbefore := h.failed_eq
    rw [List.countP_append, ← hbefore]
    cases outcome with
    | delivered => rfl
    | failed reason => rfl
    | timedOut => rfl
  · -- one send less is owed
    have howed := h.owed_set hworker (j.pool.sendingOrIdle number op (passed + 1))
    have hsending : (Worker.sending number op passed).owed j.pool.replicas =
        j.pool.replicas - passed := rfl
    have hafter : j.pool.attempts.length + 1 + ((j.pool.workers.set w
        (j.pool.sendingOrIdle number op (passed + 1))).map (Worker.owed j.pool.replicas)).sum =
          j.pool.replicas * j.taken.length := by
      rw [owed_sendingOrIdle] at howed
      omega
    rw [List.length_append, List.length_singleton]
    exact hafter

/-- **A worker without a task** has nothing in its hands, before and after. -/
lemma turn (h : j.WorkAccounts) (hturn : j.Turns w j') : j'.WorkAccounts := by
  obtain ⟨old, new, pool, hpool, rfl⟩ := hturn
  have hworker := hpool.worker_eq
  obtain ⟨queue, hqueue, rfl⟩ := hpool.next
  have hcounters : queue.counters = j.pool.queue.counters := by
    rcases hqueue with rfl | ⟨-, rfl⟩
    · rfl
    · rfl
  refine ⟨?_, ?_, h.number_lt, ?_, ?_, ?_⟩
  · intro w' number op passed hw'
    rcases Pool.eq_or_of_set hworker hw' with ⟨-, rfl⟩ | ⟨-, hold⟩
    · cases hpool.new_free
    · exact h.held w' number op passed hold
  · intro number w' op htaken
    rcases h.done number w' op htaken with hholds | hdone
    · refine .inl (holds_set hworker _ (fun op passed hold => ?_) hholds)
      rw [hold] at hpool
      cases hpool.old_free
    · exact .inr hdone
  · show queue.counters.delivered = _
    rw [hcounters]
    exact h.delivered_eq
  · show queue.counters.failed = _
    rw [hcounters]
    exact h.failed_eq
  · have howed := h.owed_set hworker new
    rw [Worker.owed_of_isFree hpool.old_free, Worker.owed_of_isFree hpool.new_free] at howed
    exact howed

end WorkAccounts

/-! ### Runs -/

/-- **The invariant** of a pool with its record. -/
structure Accounts (j : Journal) : Prop where
  queue : j.QueueAccounts
  work : j.WorkAccounts
  lock : j.pool.Exclusive

namespace Accounts

lemma start (replicas workers : Nat) : (start replicas workers).Accounts where
  queue := QueueAccounts.start replicas workers
  work := WorkAccounts.start replicas workers
  lock := Pool.Exclusive.start replicas workers

/-- **One event** keeps the invariant. -/
lemma step (h : j.Accounts) {e : Event} (hstep : j.step? e = some j') : j'.Accounts := by
  have hmoves := moves hstep
  obtain ⟨pool, hpool, hnext⟩ := Option.map_eq_some_iff.mp hstep
  have hlock : j'.pool.Exclusive := by
    rw [← hnext]
    exact h.lock.step hpool
  refine ⟨h.queue.step hmoves, ?_, hlock⟩
  cases hmoves with
  | adds hadd => exact h.work.enqueue hadd
  | stops hnext | closes hnext =>
      rw [hnext]
      exact ⟨h.work.held, h.work.done, h.work.number_lt, h.work.delivered_eq, h.work.failed_eq,
        h.work.owed_eq⟩
  | turns hturn => exact h.work.turn hturn
  | takes htake => exact h.work.take h.queue htake
  | ends hend => exact h.work.finish hend

/-- **A run** keeps the invariant. -/
lemma run (h : j.Accounts) {events : List Event} (hrun : j.run? events = some j') :
    j'.Accounts := by
  induction events generalizing j with
  | nil =>
      obtain rfl := Option.some.inj hrun
      exact h
  | cons e events ih =>
      obtain ⟨j₁, hstep, hevents⟩ := Option.bind_eq_some_iff.mp hrun
      exact ih (h.step hstep) hevents

lemma pending_eq (h : j.Accounts) :
    j.pool.queue.counters.pending = j.accepted.length - j.taken.length := by
  rw [ReplicationCounters.pending, h.queue.enqueued_eq, h.queue.dequeued_eq]

/-- Every send is counted once, as confirmed or as failed. -/
lemma delivered_add_failed (h : j.Accounts) :
    j.pool.queue.counters.delivered + j.pool.queue.counters.failed = j.pool.attempts.length := by
  rw [h.work.delivered_eq, h.work.failed_eq]
  have hsplit := @List.length_eq_countP_add_countP _
    (fun a : Attempt => decide (a.outcome = .delivered)) j.pool.attempts
  simpa using hsplit.symm

/-- Once all workers have exited, every task that was taken was sent to every replica. -/
lemma delivered_add_failed_of_finished (h : j.Accounts) (hfinished : j.pool.finished = true) :
    j.pool.queue.counters.delivered + j.pool.queue.counters.failed =
      j.pool.replicas *
        (j.pool.queue.counters.enqueued - j.pool.queue.counters.pending) := by
  have hnothing : (j.pool.workers.map (Worker.owed j.pool.replicas)).sum = 0 := by
    refine List.sum_eq_zero_iff_forall_eq_nat.mpr fun owed howed => ?_
    obtain ⟨worker, hworker, rfl⟩ := List.mem_map.mp howed
    have hexited := List.all_eq_true.mp hfinished worker hworker
    obtain rfl : worker = .exited := by simpa using hexited
    rfl
  have htaken := h.queue.taken_le
  have hkept : j.accepted.length - (j.accepted.length - j.taken.length) = j.taken.length := by
    omega
  rw [h.delivered_add_failed, h.pending_eq, h.queue.enqueued_eq, hkept, ← h.work.owed_eq, hnothing,
    Nat.add_zero]

end Accounts

/-- The pool goes its way whether its tasks are recorded or not. -/
lemma exists_run?_of_pool {p p' : Pool} {events : List Event} (hrun : p.run? events = some p')
    (hnothing : ∀ op, .enqueue op ∉ events) (accepted : List Operation)
    (taken : List (Nat × Operation)) :
    ∃ taken', (Journal.mk p accepted taken).run? events = some ⟨p', accepted, taken'⟩ := by
  induction events generalizing p taken with
  | nil =>
      obtain rfl := Option.some.inj hrun
      exact ⟨taken, rfl⟩
  | cons e events ih =>
      obtain ⟨p₁, hstep, hevents⟩ := Option.bind_eq_some_iff.mp hrun
      have hadded : p.added e = [] := by
        cases e with
        | enqueue op => exact absurd List.mem_cons_self (hnothing op)
        | stop | closeProducers | look w | lock w | receive w | leave w | finish w outcome => rfl
      obtain ⟨taken', hlater⟩ := ih hevents (fun op hop => hnothing op (List.mem_cons_of_mem _ hop))
        (taken ++ p.removed e)
      refine ⟨taken', ?_⟩
      rw [run?, step?, hstep, Option.map_some, hadded, List.append_nil]
      exact hlater

lemma replicas_step {e : Event} (hstep : j.step? e = some j') :
    j'.pool.replicas = j.pool.replicas := by
  cases moves hstep with
  | adds hadd =>
      obtain rfl := step?_enqueue hadd
      rfl
  | stops hnext | closes hnext => rw [hnext]; rfl
  | turns hturn =>
      obtain ⟨old, new, pool, hpool, rfl⟩ := hturn
      obtain ⟨queue, -, rfl⟩ := hpool.next
      rfl
  | takes htake =>
      obtain ⟨-, op, rest, -, rfl⟩ := htake
      rfl
  | ends hend =>
      obtain ⟨number, op, passed, -, rfl⟩ := step?_finish hend
      rfl

lemma replicas_run {events : List Event} (hrun : j.run? events = some j') :
    j'.pool.replicas = j.pool.replicas := by
  induction events generalizing j with
  | nil =>
      obtain rfl := Option.some.inj hrun
      rfl
  | cons e events ih =>
      obtain ⟨j₁, hstep, hevents⟩ := Option.bind_eq_some_iff.mp hrun
      exact (ih hevents).trans (replicas_step hstep)

end Journal

end ReplicatedCache
