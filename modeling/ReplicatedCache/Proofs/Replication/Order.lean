/-
One worker sends the tasks to the replicas in the order of the queue, whatever comes of the sends,
however long they take, and whenever the worker is told to stop.

* `rows`: the sends of tasks, one row of replicas after the other;
* `seenBy_of_prefix`: where the sends that have been made are a first part of the rows, every
  replica has seen the first tasks, and an earlier one at most one more than a later one;
* `Timeline.Event`, `Timeline.after`: what can happen to a timeline, and what holds after it;
* `Timeline.InOrder`: **the invariant**: the sends are the rows of the tasks that are done, with a
  part of the row of the task in the worker's hands;
* `InOrder.handOut`, `InOrder.endSend`, `InOrder.step`, `InOrder.after`: what keeps it;
* `Timeline.sends_in_order`: **order**: at every moment each replica has been sent the first tasks
  of the queue, and the same ones as the other replicas while the worker has nothing in its hands.
-/
import ReplicatedCache.Proofs.Replication.Steps
import ReplicatedCache.Replication.Timeline

namespace ReplicatedCache

open Pool (row row_prefix_row row_succ take_row)

/-! ### Rows of sends -/

/-- The sends of tasks to all replicas, one task after the other. -/
def rows (replicas : Nat) (ops : List Operation) : List (Operation × Nat) :=
  ops.flatMap fun op => row op replicas

/-- The operations that are sent to a replica. -/
def seenBy (replica : Nat) (sends : List (Operation × Nat)) : List Operation :=
  (sends.filter fun s => s.2 = replica).map Prod.fst

variable {replicas replica passed : Nat} {op : Operation} {ops : List Operation}
  {sends : List (Operation × Nat)}

lemma rows_append_row (replicas : Nat) (ops : List Operation) (op : Operation) :
    rows replicas ops ++ row op replicas = rows replicas (ops ++ [op]) := by
  rw [rows, rows, List.flatMap_append, List.flatMap_singleton]

lemma seenBy_append (replica : Nat) (sends later : List (Operation × Nat)) :
    seenBy replica (sends ++ later) = seenBy replica sends ++ seenBy replica later := by
  rw [seenBy, List.filter_append, List.map_append]
  rfl

lemma seenBy_row (replica : Nat) (op : Operation) (passed : Nat) :
    seenBy replica (row op passed) = if replica < passed then [op] else [] := by
  induction passed with
  | zero => rfl
  | succ passed ih =>
      rw [row_succ, seenBy_append, ih]
      rcases Nat.lt_trichotomy replica passed with hlt | rfl | hgt
      · have hne : passed ≠ replica := by omega
        have hlast : seenBy replica [(op, passed)] = [] := by
          rw [seenBy, List.filter_cons_of_neg (by simpa using hne)]
          rfl
        rw [hlast, if_pos hlt, if_pos (by omega), List.append_nil]
      · have hlast : seenBy replica [(op, replica)] = [op] := by
          rw [seenBy, List.filter_cons_of_pos (by simp)]
          rfl
        rw [hlast, if_neg (by omega), if_pos (by omega), List.nil_append]
      · have hne : passed ≠ replica := by omega
        have hlast : seenBy replica [(op, passed)] = [] := by
          rw [seenBy, List.filter_cons_of_neg (by simpa using hne)]
          rfl
        rw [hlast, if_neg (by omega), if_neg (by omega), List.append_nil]

/-- Full rows show every task to every replica. -/
lemma seenBy_rows (hreplica : replica < replicas) (ops : List Operation) :
    seenBy replica (rows replicas ops) = ops := by
  induction ops with
  | nil => rfl
  | cons op ops ih =>
      have hrow := seenBy_row replica op replicas
      rw [if_pos hreplica] at hrow
      rw [rows, List.flatMap_cons, seenBy_append, hrow]
      exact congrArg (op :: ·) ih

/-- **A first part of the rows** shows the first `m` tasks to all replicas and the next one to the
first `passed` of them. -/
lemma seenBy_of_prefix (h : sends <+: rows replicas ops) :
    ∃ m passed, m ≤ ops.length ∧ (0 < passed → m < ops.length) ∧
      ∀ replica < replicas, seenBy replica sends =
        ops.take (if replica < passed then m + 1 else m) := by
  induction ops generalizing sends with
  | nil =>
      obtain rfl : sends = [] := List.prefix_nil.mp h
      refine ⟨0, 0, Nat.le_refl _, fun hpos => absurd hpos (Nat.lt_irrefl 0), fun replica _ => ?_⟩
      rw [List.take_nil]
      rfl
  | cons op ops ih =>
      rw [rows, List.flatMap_cons] at h
      rcases Nat.le_total sends.length (row op replicas).length with hle | hle
      · -- the row of the first task has not been finished
        have hrow : sends <+: row op replicas :=
          List.prefix_of_prefix_length_le h (List.prefix_append _ _) hle
        obtain ⟨passed, rfl⟩ : ∃ passed, sends = row op passed := by
          have htake := List.prefix_iff_eq_take.mp hrow
          rw [take_row] at htake
          exact ⟨_, htake⟩
        refine ⟨0, passed, Nat.zero_le _, fun _ => Nat.succ_pos _, fun replica _ => ?_⟩
        rw [seenBy_row]
        split
        · rfl
        · rfl
      · obtain ⟨later, rfl⟩ : row op replicas <+: sends :=
          List.prefix_of_prefix_length_le (List.prefix_append _ _) h hle
        obtain ⟨m, passed, hm, hpassed, hseen⟩ :=
          ih ((List.prefix_append_right_inj _).mp h)
        refine ⟨m + 1, passed, Nat.succ_le_succ hm, fun hpos => Nat.succ_lt_succ (hpassed hpos),
          fun replica hreplica => ?_⟩
        rw [seenBy_append, seenBy_row, if_pos hreplica, hseen replica hreplica]
        split
        · rfl
        · rfl

/-! ### What can happen -/

namespace Timeline

/-- What can happen to a timeline. -/
inductive Event where
  | enqueue (op : Operation)
  /-- The worker is told to stop. -/
  | stop
  /-- No more tasks will be added. -/
  | closeProducers
  /-- The next thing happens by itself, if it is not after the moment `limit`. -/
  | step (limit : Option Nat)
  | sleep (span : Nat)
  | runOut

/-- The tasks that an event adds to the queue, and the timeline after it. -/
def happen (t : Timeline) : Event → List Operation × Timeline
  | .enqueue op => (if (t.enqueue op).1 then [op] else [], (t.enqueue op).2)
  | .stop => ([], t.stop)
  | .closeProducers => ([], t.closeProducers)
  | .step limit => ([], (t.step? limit).getD t)
  | .sleep span => ([], t.sleep span)
  | .runOut => ([], t.runOut)

/-- The tasks that several events add to the queue, and the timeline after them. -/
def after (t : Timeline) : List Event → List Operation × Timeline
  | [] => ([], t)
  | e :: events =>
      ((t.happen e).1 ++ ((t.happen e).2.after events).1, ((t.happen e).2.after events).2)

/-- The operation and the replica of each send, in the order of their start. -/
def made (t : Timeline) : List (Operation × Nat) := t.sends.map fun s => (s.op, s.replica)

/-- How many sends have been counted as confirmed or as failed. -/
def ended (t : Timeline) : Nat :=
  t.pool.queue.counters.delivered + t.pool.queue.counters.failed

/-- The only worker has nothing in its hands, and `done` are the tasks that it took. -/
structure Rests (t : Timeline) (replicas : Nat) (done : List Operation) (worker : Worker)
    (line : List Nat) : Prop where
  replicas_eq : t.pool.replicas = replicas
  workers_eq : t.pool.workers = [worker]
  line_eq : t.line = line
  underway_eq : t.underway = []
  made_eq : t.made = rows replicas done
  ended_eq : t.ended = done.length * replicas

/-- The only worker has a task in its hands. It has started `started` sends of it, of which `passed`
have ended. -/
structure Delivers (t : Timeline) (replicas : Nat) (accepted done : List Operation) (number : Nat)
    (op : Operation) (passed started : Nat) : Prop where
  replicas_eq : t.pool.replicas = replicas
  workers_eq : t.pool.workers = [t.pool.sendingOrIdle number op passed]
  line_eq : t.line = []
  receiving : t.pool.queue.receiving = true
  accepted_eq : accepted = done ++ op :: t.pool.queue.waiting
  started_le : started ≤ replicas
  made_eq : t.made = rows replicas done ++ row op started
  ended_eq : t.ended = done.length * replicas + passed

/-- **The invariant** of a timeline with one worker. -/
inductive InOrder (t : Timeline) (replicas : Nat) (accepted : List Operation) : Prop where
  | idle (done : List Operation)
      (rests : t.Rests replicas done .idle [0])
      (receiving : t.pool.queue.receiving = true)
      (accepted_eq : accepted = done ++ t.pool.queue.waiting)
  | sending (done : List Operation) (number : Nat) (op : Operation) (passed : Nat) (send : Send)
      (delivers : t.Delivers replicas accepted done number op passed (passed + 1))
      (underway_eq : t.underway = [send])
      (worker_eq : send.worker = 0)
  | exited (done : List Operation)
      (rests : t.Rests replicas done .exited [])
      (receiving : t.pool.queue.receiving = false)
      (done_le : done <+: accepted)

variable {t t' : Timeline} {accepted done : List Operation} {number started : Nat}

/-! ### A worker that delivers -/

/-- An answer comes off the script of its replica. -/
lemma nextAnswer_eq (t : Timeline) (replica : Nat) :
    ∃ (answer : SendAnswer) (scripts : List (List SendAnswer)),
      t.nextAnswer replica = (answer, { t with scripts }) := by
  rw [nextAnswer]
  split
  · exact ⟨_, _, rfl⟩
  · exact ⟨_, t.scripts, rfl⟩

/-- A send that starts is written down. -/
lemma startSend_eq (t : Timeline) (w replica : Nat) (op : Operation) :
    ∃ (send : Send) (scripts : List (List SendAnswer)),
      t.startSend w replica op = (send, { t with scripts, sends := t.sends ++ [send] }) ∧
        send.worker = w ∧ send.replica = replica ∧ send.op = op := by
  obtain ⟨answer, scripts, hanswer⟩ := nextAnswer_eq t replica
  rw [startSend, hanswer]
  exact ⟨⟨w, replica, op, t.clock, t.clock + min answer.delay t.timeout,
    Send.outcomeOf t.timeout answer⟩, scripts, rfl, rfl, rfl, rfl⟩

namespace Delivers

/-- A delivery does not look at the clock, nor at the answers that are awaited. -/
lemma await (h : t.Delivers replicas accepted done number op passed started) (clock : Nat)
    (underway : List Send) :
    { t with clock, underway }.Delivers replicas accepted done number op passed started :=
  ⟨h.replicas_eq, h.workers_eq, h.line_eq, h.receiving, h.accepted_eq, h.started_le, h.made_eq,
    h.ended_eq⟩

/-- The next send starts. -/
lemma startSend (h : t.Delivers replicas accepted done number op passed passed)
    (hmore : passed < replicas) (scripts : List (List SendAnswer)) {send : Send}
    (hreplica : send.replica = passed) (hop : send.op = op) :
    { t with scripts, sends := t.sends ++ [send] }.Delivers replicas accepted done number op passed
      (passed + 1) := by
  refine ⟨h.replicas_eq, h.workers_eq, h.line_eq, h.receiving, h.accepted_eq, hmore, ?_,
    h.ended_eq⟩
  have hmade : t.sends.map (fun s => (s.op, s.replica)) = rows replicas done ++ row op passed :=
    h.made_eq
  rw [made, List.map_append, hmade, row_succ, List.append_assoc, List.map_singleton, hreplica, hop]

/-- The send under way ends, however it does. -/
lemma finish (h : t.Delivers replicas accepted done number op passed (passed + 1))
    (outcome : Outcome) :
    (t.finish 0 outcome).Delivers replicas accepted done number op (passed + 1) (passed + 1) ∧
      (t.finish 0 outcome).underway = t.underway := by
  have hmore : passed < t.pool.replicas := by
    rw [h.replicas_eq]
    exact h.started_le
  have hworkers := h.workers_eq
  rw [Pool.sendingOrIdle, if_pos hmore] at hworkers
  have hended : (Pool.count t.pool.queue.counters outcome).delivered +
      (Pool.count t.pool.queue.counters outcome).failed = t.ended + 1 := by
    cases outcome with
    | delivered => exact Nat.add_right_comm _ _ _
    | failed reason => exact (Nat.add_assoc _ _ _).symm
    | timedOut => exact (Nat.add_assoc _ _ _).symm
  have hfinish : t.finish 0 outcome = { t with pool := { t.pool with
      queue := { t.pool.queue with counters := Pool.count t.pool.queue.counters outcome }
      workers := [t.pool.sendingOrIdle number op (passed + 1)]
      attempts := t.pool.attempts ++ [⟨number, op, passed, outcome⟩] } } := by
    simp only [Timeline.finish, Pool.finish?, hworkers, List.getElem?_cons_zero, Pool.setWorker,
      List.set_cons_zero]
  rw [hfinish]
  refine ⟨⟨h.replicas_eq, rfl, h.line_eq, h.receiving, h.accepted_eq, h.started_le, h.made_eq, ?_⟩,
    rfl⟩
  rw [ended, hended, h.ended_eq, Nat.add_assoc]

/-- **A worker goes on** until it waits for the answer to a send or has nothing in its hands. -/
lemma proceed {sendsLeft : Nat}
    (h : t.Delivers replicas accepted done number op passed passed) (hunderway : t.underway = [])
    (hleft : replicas < passed + sendsLeft) :
    (Timeline.proceed sendsLeft t 0).InOrder replicas accepted := by
  induction sendsLeft generalizing t passed with
  | zero => exact absurd h.started_le (by omega)
  | succ sendsLeft ih =>
      have hworkers := h.workers_eq
      rw [Pool.sendingOrIdle, h.replicas_eq] at hworkers
      by_cases hmore : passed < replicas
      · rw [if_pos hmore] at hworkers
        obtain ⟨send, scripts, hstart, hworker, hreplica, hop⟩ := startSend_eq t 0 passed op
        have hstarted := h.startSend hmore scripts hreplica hop
        simp only [Timeline.proceed, hworkers, List.getElem?_cons_zero, hstart]
        split
        · obtain ⟨hnext, hstill⟩ := hstarted.finish send.outcome
          exact ih hnext (hstill.trans hunderway) (by omega)
        · refine .sending done number op passed send (hstarted.await _ _) ?_ hworker
          show t.underway ++ [send] = [send]
          rw [hunderway, List.nil_append]
      · rw [if_neg hmore] at hworkers
        obtain rfl : passed = replicas := Nat.le_antisymm h.started_le (Nat.le_of_not_lt hmore)
        simp only [Timeline.proceed, hworkers, List.getElem?_cons_zero]
        refine .idle (done ++ [op]) ⟨h.replicas_eq, hworkers, ?_, hunderway, ?_, ?_⟩ h.receiving ?_
        · show t.line ++ [0] = [0]
          rw [h.line_eq, List.nil_append]
        · rw [← rows_append_row]
          exact h.made_eq
        · rw [List.length_append, List.length_singleton, Nat.add_mul, Nat.one_mul]
          exact h.ended_eq
        · rw [List.append_assoc]
          exact h.accepted_eq

lemma goOn (h : t.Delivers replicas accepted done number op passed passed)
    (hunderway : t.underway = []) : (t.goOn 0).InOrder replicas accepted := by
  refine h.proceed hunderway ?_
  rw [h.replicas_eq]
  omega

end Delivers

/-! ### What keeps the invariant -/

/-- The send that ends is the earliest one under way, and its worker goes on. -/
lemma endSend?_eq_some {limit : Option Nat} (h : t.endSend? limit = some t') :
    ∃ send, earliest? t.underway = some send ∧ t' =
      (({ t with
          clock := max t.clock send.ends
          underway := t.underway.filter fun other => other.worker ≠ send.worker
        }.finish send.worker send.outcome).goOn send.worker) := by
  rw [endSend?] at h
  split at h
  next => cases h
  next send hearliest =>
      refine ⟨send, hearliest, ?_⟩
      cases limit with
      | none => exact (Option.some.inj h).symm
      | some moment =>
          simp only at h
          split at h
          · exact (Option.some.inj h).symm
          · cases h

/-- A timeline of idle workers has sent nothing. -/
lemma inOrder_start (timeout : Nat) (scripts : List (List SendAnswer)) :
    (start 1 timeout scripts).InOrder scripts.length [] :=
  .idle [] ⟨rfl, rfl, rfl, rfl, rfl, (Nat.zero_mul _).symm⟩ rfl rfl

namespace InOrder

/-- The invariant does not look at the clock, nor at what the worker has been told. -/
lemma congr (h : t.InOrder replicas accepted) (hreplicas : t'.pool.replicas = t.pool.replicas)
    (hqueue : t'.pool.queue = t.pool.queue) (hworkers : t'.pool.workers = t.pool.workers)
    (hline : t'.line = t.line) (hunderway : t'.underway = t.underway)
    (hsends : t'.sends = t.sends) : t'.InOrder replicas accepted := by
  have hmade : t'.made = t.made := congrArg (List.map _) hsends
  have hended : t'.ended = t.ended := by rw [ended, ended, hqueue]
  have hrests {done : List Operation} {worker : Worker} {line : List Nat}
      (h : t.Rests replicas done worker line) : t'.Rests replicas done worker line :=
    ⟨hreplicas.trans h.replicas_eq, hworkers.trans h.workers_eq, hline.trans h.line_eq,
      hunderway.trans h.underway_eq, hmade.trans h.made_eq, hended.trans h.ended_eq⟩
  cases h with
  | idle done rests receiving accepted_eq =>
      rw [← hqueue] at receiving accepted_eq
      exact .idle done (hrests rests) receiving accepted_eq
  | sending done number op passed send delivers underway_eq worker_eq =>
      refine .sending done number op passed send ?_ (hunderway.trans underway_eq) worker_eq
      have hsame :
          t'.pool.sendingOrIdle number op passed = t.pool.sendingOrIdle number op passed := by
        rw [Pool.sendingOrIdle, Pool.sendingOrIdle, hreplicas]
      have hreceiving := delivers.receiving
      have haccepted := delivers.accepted_eq
      rw [← hqueue] at hreceiving haccepted
      exact ⟨hreplicas.trans delivers.replicas_eq,
        hworkers.trans (delivers.workers_eq.trans (congrArg (fun x => [x]) hsame.symm)),
        hline.trans delivers.line_eq, hreceiving, haccepted, delivers.started_le,
        hmade.trans delivers.made_eq, hended.trans delivers.ended_eq⟩
  | exited done rests receiving done_le =>
      rw [← hqueue] at receiving
      exact .exited done (hrests rests) receiving done_le

/-- **A task that is added** comes behind all others, and is not accepted once the worker is
gone. -/
lemma enqueue (h : t.InOrder replicas accepted) (op : Operation) :
    (t.enqueue op).2.InOrder replicas (accepted ++ if (t.enqueue op).1 then [op] else []) := by
  cases h with
  | idle done rests receiving accepted_eq =>
      simp only [Timeline.enqueue, Pool.enqueue, SendQueue.enqueue, receiving, if_true]
      refine .idle done ⟨rests.replicas_eq, rests.workers_eq, rests.line_eq, rests.underway_eq,
        rests.made_eq, rests.ended_eq⟩ rfl ?_
      rw [accepted_eq, List.append_assoc]
  | sending done number op' passed send delivers underway_eq worker_eq =>
      simp only [Timeline.enqueue, Pool.enqueue, SendQueue.enqueue, delivers.receiving, if_true]
      refine .sending done number op' passed send ⟨delivers.replicas_eq, delivers.workers_eq,
        delivers.line_eq, rfl, ?_, delivers.started_le, delivers.made_eq,
        delivers.ended_eq⟩ underway_eq worker_eq
      rw [delivers.accepted_eq, List.append_assoc]
      rfl
  | exited done rests receiving done_le =>
      simp only [Timeline.enqueue, Pool.enqueue, SendQueue.enqueue, receiving, Bool.false_eq_true,
        if_false, List.append_nil]
      exact .exited done ⟨rests.replicas_eq, rests.workers_eq, rests.line_eq, rests.underway_eq,
        rests.made_eq, rests.ended_eq⟩ receiving done_le

/-- **The worker in line** exits, or takes the next task and starts to send it. -/
lemma handOut (h : t.InOrder replicas accepted) (hstep : t.handOut? = some t') :
    t'.InOrder replicas accepted := by
  cases h with
  | idle done rests receiving accepted_eq =>
      simp only [handOut?, rests.line_eq] at hstep
      split at hstep
      next pool hexit =>
          obtain rfl := Option.some.inj hstep
          obtain ⟨-, -, rfl⟩ := Pool.exit?_eq_some hexit
          have hgone : (t.pool.setWorker 0 .exited).finished = true := by
            simp only [Pool.finished, Pool.setWorker, rests.workers_eq]
            rfl
          simp only [hgone, if_true, rests.workers_eq]
          exact .exited done ⟨rests.replicas_eq, rfl, rfl, rests.underway_eq, rests.made_eq,
            rests.ended_eq⟩ rfl ⟨t.pool.queue.waiting, accepted_eq.symm⟩
      next =>
          split at hstep
          next pool htake =>
              obtain rfl := Option.some.inj hstep
              obtain ⟨-, -, op, rest, hwaiting, rfl⟩ := Pool.take?_eq_some htake
              rw [hwaiting] at accepted_eq
              rw [rests.workers_eq]
              have hmade : t.made = rows replicas done ++ row op 0 :=
                rests.made_eq.trans (List.append_nil _).symm
              refine Delivers.goOn (?_ : Delivers _ replicas accepted done
                t.pool.queue.counters.dequeued op 0 0) rests.underway_eq
              exact ⟨rests.replicas_eq, rfl, rfl, receiving, accepted_eq, Nat.zero_le _, hmade,
                rests.ended_eq⟩
          next => cases hstep
  | sending done number op passed send delivers underway_eq worker_eq =>
      rw [handOut?, delivers.line_eq] at hstep
      cases hstep
  | exited done rests receiving done_le =>
      rw [handOut?, rests.line_eq] at hstep
      cases hstep

/-- **The send under way** ends, and the next one starts. -/
lemma endSend (h : t.InOrder replicas accepted) {limit : Option Nat}
    (hstep : t.endSend? limit = some t') : t'.InOrder replicas accepted := by
  cases h with
  | idle done rests receiving accepted_eq =>
      rw [endSend?, rests.underway_eq] at hstep
      cases hstep
  | sending done number op passed send delivers underway_eq worker_eq =>
      obtain ⟨send', hearliest, rfl⟩ := endSend?_eq_some hstep
      rw [underway_eq] at hearliest ⊢
      obtain rfl : send = send' := Option.some.inj hearliest
      have hnone : [send].filter (fun other => other.worker ≠ send.worker) = [] := by
        rw [List.filter_cons_of_neg (by simp), List.filter_nil]
      rw [hnone, worker_eq]
      obtain ⟨hnext, hstill⟩ := (delivers.await (max t.clock send.ends) []).finish send.outcome
      exact hnext.goOn hstill
  | exited done rests receiving done_le =>
      rw [endSend?, rests.underway_eq] at hstep
      cases hstep

/-- **The next thing that happens by itself** keeps the order. -/
lemma step (h : t.InOrder replicas accepted) {limit : Option Nat}
    (hstep : t.step? limit = some t') : t'.InOrder replicas accepted := by
  rw [step?] at hstep
  split at hstep
  next t₁ hhandOut =>
      obtain rfl := Option.some.inj hstep
      exact h.handOut hhandOut
  next => exact h.endSend hstep

/-- **What happens in a span of time** keeps the order. -/
lemma run (h : t.InOrder replicas accepted) (limit : Option Nat) (fuel : Nat) :
    (Timeline.run limit fuel t).InOrder replicas accepted := by
  induction fuel generalizing t with
  | zero => exact h
  | succ fuel ih =>
      rw [Timeline.run]
      split
      next t₁ hstep => exact ih (h.step hstep)
      next => exact h

/-- **One event** keeps the order. -/
lemma happen (h : t.InOrder replicas accepted) (e : Event) :
    (t.happen e).2.InOrder replicas (accepted ++ (t.happen e).1) := by
  cases e with
  | enqueue op => exact h.enqueue op
  | stop =>
      rw [Timeline.happen, List.append_nil]
      exact h.congr rfl rfl rfl rfl rfl rfl
  | closeProducers =>
      rw [Timeline.happen, List.append_nil]
      exact h.congr rfl rfl rfl rfl rfl rfl
  | step limit =>
      rw [Timeline.happen, List.append_nil]
      cases hstep : t.step? limit with
      | some t₁ => exact h.step hstep
      | none => exact h
  | sleep span =>
      rw [Timeline.happen, List.append_nil]
      exact (h.run (some (t.clock + span)) t.bound).congr rfl rfl rfl rfl rfl rfl
  | runOut =>
      rw [Timeline.happen, List.append_nil]
      exact h.run none t.bound

/-- **Several events** keep the order. -/
lemma after (h : t.InOrder replicas accepted) (events : List Event) :
    (t.after events).2.InOrder replicas (accepted ++ (t.after events).1) := by
  induction events generalizing t accepted with
  | nil =>
      rw [Timeline.after, List.append_nil]
      exact h
  | cons e events ih =>
      have hlast := ih (h.happen e)
      rw [List.append_assoc] at hlast
      exact hlast

/-- The sends that were made are a first part of those that the accepted tasks ask for. -/
lemma made_prefix (h : t.InOrder replicas accepted) : t.made <+: rows replicas accepted := by
  cases h with
  | idle done rests receiving accepted_eq =>
      rw [rests.made_eq, accepted_eq, rows, rows, List.flatMap_append]
      exact List.prefix_append _ _
  | sending done number op passed send delivers underway_eq worker_eq =>
      have hrow : row op (passed + 1) <+: row op replicas := row_prefix_row op delivers.started_le
      rw [delivers.made_eq, delivers.accepted_eq, rows, rows, List.flatMap_append,
        List.flatMap_cons, ← List.append_assoc]
      exact ((List.prefix_append_right_inj _).mpr hrow).trans (List.prefix_append _ _)
  | exited done rests receiving done_le =>
      obtain ⟨rest, rfl⟩ := done_le
      rw [rests.made_eq, rows, rows, List.flatMap_append]
      exact List.prefix_append _ _

/-- While the worker has nothing in its hands, all replicas have seen the same tasks. -/
lemma made_eq (h : t.InOrder replicas accepted)
    (hrests : t.pool.workers = [.idle] ∨ t.pool.workers = [.exited]) :
    ∃ m ≤ accepted.length, t.made = rows replicas (accepted.take m) ∧ t.ended = m * replicas := by
  cases h with
  | idle done rests receiving accepted_eq =>
      rw [accepted_eq]
      exact ⟨done.length, by rw [List.length_append]; omega,
        by rw [rests.made_eq, List.take_left], rests.ended_eq⟩
  | sending done number op passed send delivers underway_eq worker_eq =>
      have hmore : passed < t.pool.replicas := by
        rw [delivers.replicas_eq]
        exact delivers.started_le
      rw [delivers.workers_eq, Pool.sendingOrIdle, if_pos hmore] at hrests
      rcases hrests with hidle | hexited
      · cases hidle
      · cases hexited
  | exited done rests receiving done_le =>
      obtain ⟨rest, rfl⟩ := done_le
      exact ⟨done.length, by rw [List.length_append]; omega,
        by rw [rests.made_eq, List.take_left], rests.ended_eq⟩

end InOrder

/-- **Order**: with one worker, whatever the replicas answer and when, and whatever tasks are added
and wherever in between the worker is told to stop,

* each replica has at every moment been sent the first tasks of the queue, in their order, none of
  them twice, and an earlier replica at most one task more than a later one;
* while the worker is idle or gone, all replicas have been sent the same tasks, and each of these
  sends has been counted once. -/
theorem sends_in_order (timeout : Nat) (scripts : List (List SendAnswer)) (events : List Event) :
    let accepted := ((start 1 timeout scripts).after events).1
    let t := ((start 1 timeout scripts).after events).2
    (∀ k, ∀ replica < scripts.length,
      seenBy replica (t.made.take k) <+: accepted ∧
      ∀ earlier ≤ replica,
        (seenBy replica (t.made.take k)).length ≤ (seenBy earlier (t.made.take k)).length ∧
        (seenBy earlier (t.made.take k)).length ≤ (seenBy replica (t.made.take k)).length + 1) ∧
    (t.pool.workers = [.idle] ∨ t.pool.workers = [.exited] →
      ∃ m ≤ accepted.length,
        (∀ replica < scripts.length, seenBy replica t.made = accepted.take m) ∧
        t.pool.queue.counters.delivered + t.pool.queue.counters.failed = m * scripts.length) := by
  intro accepted t
  have h : t.InOrder scripts.length accepted := (inOrder_start timeout scripts).after events
  refine ⟨fun k replica hreplica => ?_, fun hrests => ?_⟩
  · have hprefix : t.made.take k <+: rows scripts.length accepted :=
      (List.take_prefix k t.made).trans h.made_prefix
    obtain ⟨m, passed, hm, hpassed, hseen⟩ := seenBy_of_prefix hprefix
    have hlength {replica : Nat} (hreplica : replica < scripts.length) :
        (seenBy replica (t.made.take k)).length = if replica < passed then m + 1 else m := by
      rw [hseen replica hreplica, List.length_take, Nat.min_eq_left]
      split
      next hlt => exact hpassed (by omega)
      next => exact hm
    refine ⟨?_, fun earlier hearlier => ?_⟩
    · rw [hseen replica hreplica]
      exact List.take_prefix _ _
    · rw [hlength hreplica, hlength (Nat.lt_of_le_of_lt hearlier hreplica)]
      split
      · split
        · omega
        · omega
      · split
        · omega
        · omega
  · obtain ⟨m, hm, hmade, hended⟩ := h.made_eq hrests
    refine ⟨m, hm, fun replica hreplica => ?_, hended⟩
    rw [hmade, seenBy_rows hreplica]

/-- The worker is told to stop while it waits for a replica that will fail; another one is too
slow. Both have been sent the first of two tasks. -/
theorem sends_in_order_stop :
    let r := (start 1 5 [[⟨2, some "down"⟩], [⟨9, none⟩]]).after
      [.enqueue (.put "a" "1"), .enqueue (.delete "a"), .sleep 1, .stop, .runOut]
    r.2.pool.workers = [.exited] ∧ r.1 = [.put "a" "1", .delete "a"] ∧
      (∀ replica < 2, seenBy replica r.2.made = r.1.take 1) ∧
      r.2.pool.queue.counters.delivered + r.2.pool.queue.counters.failed = 1 * 2 := by
  intro r
  have hexited : r.2.pool.workers = [.exited] := by decide
  obtain ⟨m, -, hseen, hended⟩ := (sends_in_order 5 [[⟨2, some "down"⟩], [⟨9, none⟩]]
    [.enqueue (.put "a" "1"), .enqueue (.delete "a"), .sleep 1, .stop, .runOut]).2 (.inr hexited)
  obtain rfl : m = 1 := by
    have htwo : r.2.pool.queue.counters.delivered + r.2.pool.queue.counters.failed = 2 := by decide
    have htwice : 2 = m * 2 := htwo.symm.trans hended
    omega
  exact ⟨hexited, by decide, hseen, hended⟩

end Timeline

end ReplicatedCache
