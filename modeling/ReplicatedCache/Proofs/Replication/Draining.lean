/-
What one worker does by itself comes to an end, and then no task is left that it has not sent to
every replica, unless it was told to stop.

* `Pool.Kept`: a property of pools that workers keep, and so does all that happens by itself;
* `Timeline.Accounted`: a timeline whose pool has its accounts of the accepted tasks;
* `Timeline.Drained`, `seenBy_of_drained`: **drained**: every replica has been sent every task;
* `Pool.Lossless`, `lossless_after`: no task is lost without a stop;
* `Pool.Open`, `after_fst_of_open`: as long as tasks may come, all that are added are accepted;
* `Timeline.Moves`, `InOrder.moves`: **one step** of a timeline with one worker;
* `Pool.load`, `load_step`: what is left to do, which becomes less with each step;
* `runOut_rests`, `drained_of_rest`: **rest**: what happens by itself comes to an end, and a
  timeline at rest is drained.
-/
import Mathlib.Algebra.Group.Action.Defs
import Mathlib.Algebra.Order.BigOperators.Group.List
import Mathlib.Algebra.Order.Ring.Nat
import ReplicatedCache.Proofs.Replication.Accounting
import ReplicatedCache.Proofs.Replication.Order

namespace ReplicatedCache

/-! ### What workers keep -/

namespace Pool

/-- A property of pools that workers keep, whatever they do. -/
structure Kept (P : Pool → Prop) : Prop where
  take : ∀ {p p' : Pool} {w : Nat}, P p → p.take? w = some p' → P p'
  finish : ∀ {p p' : Pool} {w : Nat} {outcome : Outcome}, P p → p.finish? w outcome = some p' → P p'
  exit : ∀ {p p' : Pool} {w : Nat}, P p → p.exit? w = some p' → P p'

end Pool

namespace Timeline

variable {t t' : Timeline} {replicas replica : Nat} {accepted : List Operation}
  {P : Pool → Prop}

lemma pool_startSend (t : Timeline) (w replica : Nat) (op : Operation) :
    (t.startSend w replica op).2.pool = t.pool := by
  obtain ⟨send, scripts, hstart, -⟩ := startSend_eq t w replica op
  rw [hstart]

lemma pool_finish (hP : Pool.Kept P) (h : P t.pool) (w : Nat) (outcome : Outcome) :
    P (t.finish w outcome).pool := by
  rw [finish]
  split
  next pool hfinish => exact hP.finish h hfinish
  next => exact h

/-- **A worker that goes on** keeps what workers keep. -/
lemma pool_proceed (hP : Pool.Kept P) (h : P t.pool) (sendsLeft w : Nat) :
    P (proceed sendsLeft t w).pool := by
  induction sendsLeft generalizing t with
  | zero => exact h
  | succ sendsLeft ih =>
      rw [proceed]
      split
      next number op passed hworker =>
          have hstarted : P (t.startSend w passed op).2.pool := by
            rw [pool_startSend]
            exact h
          simp only
          split
          · exact ih (pool_finish hP hstarted w _)
          · exact hstarted
      next => exact h

lemma pool_handOut (hP : Pool.Kept P) (h : P t.pool) (hstep : t.handOut? = some t') :
    P t'.pool := by
  rw [handOut?] at hstep
  split at hstep
  next => cases hstep
  next w line hline =>
      split at hstep
      next pool hexit =>
          obtain rfl := Option.some.inj hstep
          exact hP.exit h hexit
      next =>
          split at hstep
          next pool htake =>
              obtain rfl := Option.some.inj hstep
              exact pool_proceed hP (hP.take h htake) _ w
          next => cases hstep

/-- **What happens by itself** keeps what workers keep. -/
lemma pool_step (hP : Pool.Kept P) (h : P t.pool) {limit : Option Nat}
    (hstep : t.step? limit = some t') : P t'.pool := by
  rw [step?] at hstep
  split at hstep
  next t₁ hhandOut =>
      obtain rfl := Option.some.inj hstep
      exact pool_handOut hP h hhandOut
  next =>
      obtain ⟨send, -, rfl⟩ := endSend?_eq_some hstep
      refine pool_proceed hP (pool_finish hP ?_ send.worker send.outcome) _ _
      exact h

lemma pool_run (hP : Pool.Kept P) (h : P t.pool) (limit : Option Nat) (fuel : Nat) :
    P (run limit fuel t).pool := by
  induction fuel generalizing t with
  | zero => exact h
  | succ fuel ih =>
      rw [run]
      split
      next t₁ hstep => exact ih (pool_step hP h hstep)
      next => exact h

/-- Whether an event only lets things happen by themselves. -/
def Event.isPassing : Event → Bool
  | step _ | sleep _ | runOut => true
  | enqueue _ | stop | closeProducers => false

lemma pool_happen (hP : Pool.Kept P) (h : P t.pool) {e : Event} (he : e.isPassing = true) :
    P (t.happen e).2.pool := by
  cases e with
  | enqueue op | stop | closeProducers => cases he
  | step limit =>
      rw [happen]
      cases hstep : t.step? limit with
      | some t₁ => exact pool_step hP h hstep
      | none => exact h
  | sleep span => exact pool_run hP h (some (t.clock + span)) t.bound
  | runOut => exact pool_run hP h none t.bound

/-- An event that lets things happen by themselves adds no task. -/
lemma happen_fst_of_isPassing {e : Event} (he : e.isPassing = true) : (t.happen e).1 = [] := by
  cases e with
  | enqueue op | stop | closeProducers => cases he
  | step limit | sleep span | runOut => rfl

/-! ### Tasks -/

/-- The pool has its accounts of the accepted tasks. -/
def Accounted (t : Timeline) (accepted : List Operation) : Prop :=
  ∃ taken, (Journal.mk t.pool accepted taken).Accounts

lemma kept_accounts (accepted : List Operation) :
    Pool.Kept fun p => ∃ taken, (Journal.mk p accepted taken).Accounts := by
  have hkept {p p' : Pool} {events : List Pool.Event} (hrun : p.run? events = some p')
      (hnothing : ∀ op, .enqueue op ∉ events)
      (h : ∃ taken, (Journal.mk p accepted taken).Accounts) :
      ∃ taken, (Journal.mk p' accepted taken).Accounts := by
    obtain ⟨taken, haccounts⟩ := h
    obtain ⟨taken', hjournal⟩ := Journal.exists_run?_of_pool hrun hnothing accepted taken
    exact ⟨taken', haccounts.run hjournal⟩
  exact {
    take := fun h htake => hkept (Pool.run?_of_take? htake) (by simp [Pool.visit]) h
    finish := by
      intro p p' w outcome h hfinish
      have hrun : p.run? [.finish w outcome] = some p' := by
        rw [Pool.run?, Pool.step?, hfinish]
        rfl
      exact hkept hrun (by simp) h
    exit := by
      intro p p' w h hexit
      obtain ⟨events, hrun, hnothing⟩ := Pool.exists_run?_of_exit? hexit
      exact hkept hrun hnothing h }

lemma accounted_start (workers timeout : Nat) (scripts : List (List SendAnswer)) :
    (start workers timeout scripts).Accounted [] :=
  ⟨[], Journal.Accounts.start scripts.length workers⟩

/-- **Several events** keep the accounts. -/
lemma Accounted.after (h : t.Accounted accepted) (events : List Event) :
    (t.after events).2.Accounted (accepted ++ (t.after events).1) := by
  induction events generalizing t accepted with
  | nil =>
      rw [Timeline.after, List.append_nil]
      exact h
  | cons e events ih =>
      have hnext : (t.happen e).2.Accounted (accepted ++ (t.happen e).1) := by
        obtain ⟨taken, haccounts⟩ := h
        cases e with
        | enqueue op => exact ⟨_, haccounts.step (e := .enqueue op) rfl⟩
        | stop => exact ⟨_, haccounts.step (e := .stop) rfl⟩
        | closeProducers => exact ⟨_, haccounts.step (e := .closeProducers) rfl⟩
        | step limit | sleep span | runOut =>
            rw [happen_fst_of_isPassing rfl, List.append_nil]
            exact pool_happen (kept_accounts accepted) ⟨taken, haccounts⟩ rfl
      have hlast := ih hnext
      rw [List.append_assoc] at hlast
      exact hlast

/-- The worker has nothing in its hands, and no task waits that was counted as accepted. -/
def Drained (t : Timeline) : Prop :=
  t.pool.queue.counters.pending = 0 ∧ (t.pool.workers = [.idle] ∨ t.pool.workers = [.exited])

instance (t : Timeline) : Decidable t.Drained := inferInstanceAs (Decidable (_ ∧ _))

lemma InOrder.replicas_eq (h : t.InOrder replicas accepted) : t.pool.replicas = replicas := by
  cases h with
  | idle _ rests _ _ => exact rests.replicas_eq
  | sending _ _ _ _ _ delivers _ _ => exact delivers.replicas_eq
  | exited _ rests _ _ => exact rests.replicas_eq

/-- The worker whose send is under way has its task in its hands. -/
lemma Delivers.worker_eq {done : List Operation} {number passed : Nat} {op : Operation}
    (h : t.Delivers replicas accepted done number op passed (passed + 1)) :
    t.pool.workers[0]? = some (.sending number op passed) ∧ passed < t.pool.replicas := by
  have hmore : passed < t.pool.replicas := by
    rw [h.replicas_eq]
    exact h.started_le
  rw [h.workers_eq, Pool.sendingOrIdle, if_pos hmore]
  exact ⟨rfl, hmore⟩

/-- Where the worker has nothing in its hands, nothing is under way. -/
lemma InOrder.underway_of_drained (h : t.InOrder replicas accepted) (hdrained : t.Drained) :
    t.underway = [] := by
  cases h with
  | idle done rests receiving accepted_eq => exact rests.underway_eq
  | sending done number op passed send delivers underway_eq worker_eq =>
      have hworker := delivers.worker_eq.1
      rcases hdrained.2 with hworkers | hworkers
      · rw [hworkers] at hworker
        cases hworker
      · rw [hworkers] at hworker
        cases hworker
  | exited done rests receiving done_le => exact rests.underway_eq

/-- **Once drained**, every replica has been sent every accepted task. -/
lemma seenBy_of_drained (horder : t.InOrder replicas accepted) (haccounted : t.Accounted accepted)
    (hdrained : t.Drained) (hreplica : replica < replicas) : seenBy replica t.made = accepted := by
  obtain ⟨hpending, hworkers⟩ := hdrained
  obtain ⟨m, hm, hmade, hended⟩ := horder.made_eq hworkers
  obtain ⟨taken, haccounts⟩ := haccounted
  have hall : taken.length = accepted.length := by
    have hle := haccounts.queue.taken_le
    have hrest := haccounts.pending_eq
    simp only at hle hrest
    omega
  have howed : (t.pool.workers.map (Worker.owed t.pool.replicas)).sum = 0 := by
    rcases hworkers with hworkers | hworkers
    · rw [hworkers]
      rfl
    · rw [hworkers]
      rfl
  -- the sends that were counted are those of all tasks
  have hcounted : m * replicas = replicas * accepted.length := by
    have hsum := haccounts.delivered_add_failed
    have htotal := haccounts.work.owed_eq
    simp only at hsum htotal
    rw [← hended, ended, hsum, ← hall, ← horder.replicas_eq, ← htotal, howed, Nat.add_zero]
  obtain rfl : m = accepted.length := by
    rw [Nat.mul_comm] at hcounted
    exact Nat.eq_of_mul_eq_mul_left (by omega) hcounted
  rw [hmade, seenBy_rows hreplica, List.take_length]

end Timeline

/-! ### No task is lost -/

namespace Pool

/-- The workers have not been told to stop, and every task that was accepted and not taken waits. -/
structure Lossless (p : Pool) : Prop where
  going : p.stopping = false
  counts : p.queue.counters.enqueued = p.queue.counters.dequeued + p.queue.waiting.length

lemma kept_lossless : Kept Lossless where
  take := by
    intro p p' w h htake
    obtain ⟨-, -, op, rest, hwaiting, rfl⟩ := take?_eq_some htake
    have hcounts := h.counts
    rw [hwaiting, List.length_cons] at hcounts
    refine ⟨h.going, ?_⟩
    simp only [ReplicationCounters.dequeue]
    omega
  finish := by
    intro p p' w outcome h hfinish
    obtain ⟨number, op, passed, -, rfl⟩ := finish?_eq_some hfinish
    cases outcome with
    | delivered | failed reason | timedOut => exact ⟨h.going, h.counts⟩
  exit := by
    intro p p' w h hexit
    obtain ⟨-, hmay, rfl⟩ := exit?_eq_some hexit
    -- nobody exits before the queue is empty, so closing it loses nothing
    have hwaiting : p.queue.waiting = [] := by
      rw [mayExit, h.going, Bool.false_or, Bool.and_eq_true, List.isEmpty_iff] at hmay
      exact hmay.2
    refine ⟨h.going, ?_⟩
    have hcounts := h.counts
    rw [hwaiting] at hcounts
    split
    · exact hcounts
    · rw [hwaiting]
      exact hcounts

/-- A pool that goes on takes every task that is added. -/
structure Open (p : Pool) : Prop where
  going : p.stopping = false
  producing : p.producing = true
  receiving : p.queue.receiving = true

lemma kept_open : Kept Open where
  take := by
    intro p p' w h htake
    obtain ⟨-, -, op, rest, -, rfl⟩ := take?_eq_some htake
    exact ⟨h.going, h.producing, h.receiving⟩
  finish := by
    intro p p' w outcome h hfinish
    obtain ⟨number, op, passed, -, rfl⟩ := finish?_eq_some hfinish
    exact ⟨h.going, h.producing, h.receiving⟩
  exit := by
    intro p p' w h hexit
    obtain ⟨-, hmay, -⟩ := exit?_eq_some hexit
    rw [mayExit, h.going, h.producing] at hmay
    cases hmay

end Pool

namespace Timeline

variable {t t' : Timeline} {replicas : Nat} {accepted : List Operation}

/-- **Without a stop** no task is lost. -/
lemma lossless_after (h : t.pool.Lossless) {events : List Event} (hstop : .stop ∉ events) :
    (t.after events).2.pool.Lossless := by
  induction events generalizing t with
  | nil => exact h
  | cons e events ih =>
      rw [List.mem_cons, not_or] at hstop
      refine ih (t := (t.happen e).2) ?_ hstop.2
      cases e with
      | enqueue op =>
          refine ⟨h.going, ?_⟩
          have hcounts := h.counts
          simp only [happen, enqueue, Pool.enqueue, SendQueue.enqueue]
          split
          · simp only [ReplicationCounters.enqueue, List.length_append, List.length_singleton]
            omega
          · exact hcounts
      | stop => exact absurd rfl hstop.1
      | closeProducers => exact ⟨h.going, h.counts⟩
      | step limit | sleep span | runOut => exact pool_happen Pool.kept_lossless h rfl

/-- The task that an event asks to be added. -/
def Event.asked? : Event → Option Operation
  | enqueue op => some op
  | stop | closeProducers | step _ | sleep _ | runOut => none

/-- **While neither the worker is told to stop nor the tasks have come to an end**, every task that
is asked for is accepted. -/
lemma after_fst_of_open (h : t.pool.Open) {events : List Event} (hstop : .stop ∉ events)
    (hclose : .closeProducers ∉ events) : (t.after events).1 = events.filterMap Event.asked? := by
  induction events generalizing t with
  | nil => rfl
  | cons e events ih =>
      rw [List.mem_cons, not_or] at hstop hclose
      have hnext : (t.happen e).2.pool.Open ∧ (t.happen e).1 = e.asked?.toList := by
        cases e with
        | enqueue op =>
            simp only [happen, enqueue, Pool.enqueue, SendQueue.enqueue, h.receiving, if_true]
            exact ⟨⟨h.going, h.producing, rfl⟩, rfl⟩
        | stop => exact absurd rfl hstop.1
        | closeProducers => exact absurd rfl hclose.1
        | step limit | sleep span | runOut => exact ⟨pool_happen Pool.kept_open h rfl, rfl⟩
      rw [after, ih hnext.1 hstop.2 hclose.2, hnext.2, List.filterMap_cons]
      cases e.asked? with
      | none => rfl
      | some op => rfl

end Timeline

/-! ### Rest -/

/-- The number of steps that a worker has before it: a send for each replica left, and its exit. -/
def Worker.weight (replicas : Nat) : Worker → Nat
  | sending _ _ passed => replicas - passed + 1
  | idle | locking | waiting | receiving | leaving => 1
  | exited => 0

namespace Pool

variable {p p' : Pool} {w : Nat} {outcome : Outcome}

/-- The number of steps that the workers of a pool can take before another task is added. -/
def load (p : Pool) : Nat :=
  p.queue.waiting.length * (p.replicas + 1) + (p.workers.map (Worker.weight p.replicas)).sum

lemma weight_sendingOrIdle (p : Pool) (number : Nat) (op : Operation) (passed : Nat) :
    (p.sendingOrIdle number op passed).weight p.replicas = p.replicas - passed + 1 := by
  rw [sendingOrIdle]
  split
  next => rfl
  next hpassed =>
      show 1 = p.replicas - passed + 1
      omega

lemma load_take (h : p.take? w = some p') : p'.load < p.load := by
  obtain ⟨hworker, -, op, rest, hwaiting, rfl⟩ := take?_eq_some h
  have hsum := Journal.sum_map_set hworker
    (p.sendingOrIdle p.queue.counters.dequeued op 0) (Worker.weight p.replicas)
  rw [weight_sendingOrIdle] at hsum
  simp only [load, hwaiting, List.length_cons, Nat.add_mul]
  simp only [Worker.weight] at hsum
  omega

lemma load_finish (h : p.finish? w outcome = some p') :
    p'.load ≤ p.load ∧ ∀ number op passed, p.workers[w]? = some (.sending number op passed) →
      passed < p.replicas → p'.load < p.load := by
  obtain ⟨number, op, passed, hworker, rfl⟩ := finish?_eq_some h
  have hsum := Journal.sum_map_set hworker
    (p.sendingOrIdle number op (passed + 1)) (Worker.weight p.replicas)
  rw [weight_sendingOrIdle] at hsum
  simp only [Worker.weight] at hsum
  simp only [load]
  refine ⟨by omega, fun number' op' passed' hworker' hpassed => ?_⟩
  obtain ⟨-, -, rfl⟩ := Worker.sending.inj (Option.some.inj (hworker.symm.trans hworker'))
  omega

lemma load_exit (h : p.exit? w = some p') : p'.load < p.load := by
  obtain ⟨hworker, -, rfl⟩ := exit?_eq_some h
  have hsum := Journal.sum_map_set hworker .exited (Worker.weight p.replicas)
  simp only [Worker.weight] at hsum
  simp only [load]
  split
  · simp only [SendQueue.close, List.length_nil, Nat.zero_mul]
    omega
  · omega

lemma kept_load (most : Nat) : Kept fun p => p.load ≤ most where
  take := fun h htake => Nat.le_trans (Nat.le_of_lt (load_take htake)) h
  finish := fun h hfinish => Nat.le_trans (load_finish hfinish).1 h
  exit := fun h hexit => Nat.le_trans (Nat.le_of_lt (load_exit hexit)) h

lemma load_le (p : Pool) :
    p.load ≤ (p.queue.waiting.length + p.workers.length) * (p.replicas + 1) := by
  have hweight : ∀ n ∈ p.workers.map (Worker.weight p.replicas), n ≤ p.replicas + 1 := by
    intro n hn
    obtain ⟨worker, -, rfl⟩ := List.mem_map.mp hn
    cases worker with
    | sending number op passed => exact Nat.succ_le_succ (Nat.sub_le _ _)
    | idle | locking | waiting | receiving | leaving => exact Nat.succ_le_succ (Nat.zero_le _)
    | exited => exact Nat.zero_le _
  have hsum := List.sum_le_card_nsmul _ _ hweight
  rw [List.length_map, smul_eq_mul] at hsum
  rw [load, Nat.add_mul]
  omega

end Pool

namespace Timeline

variable {t t' : Timeline} {replicas : Nat} {accepted : List Operation}

/-- **One step** of a timeline with one worker. -/
inductive Moves (t t' : Timeline) : Prop where
  | exits {pool : Pool} (hunderway : t.underway = []) (hexit : t.pool.exit? 0 = some pool)
      (hnext : t' = { t with pool, line := [] })
  | takes {pool : Pool} (hunderway : t.underway = []) (htake : t.pool.take? 0 = some pool)
      (hnext : t' = { t with pool, line := [] }.goOn 0)
  /-- The send under way ends, which is the last one that was made. -/
  | ends {number : Nat} {op : Operation} {passed : Nat} {send : Send}
      (hunderway : t.underway = [send])
      (hworker : t.pool.workers[0]? = some (.sending number op passed))
      (hmore : passed < t.pool.replicas) (hmade : t.made.getLast? = some (op, passed))
      (hnext : t' = ({ t with clock := max t.clock send.ends, underway := [] }.finish 0
        send.outcome).goOn 0)

/-- **What happens by itself** is a step of the worker. -/
lemma InOrder.moves (h : t.InOrder replicas accepted) {limit : Option Nat}
    (hstep : t.step? limit = some t') : t.Moves t' := by
  cases h with
  | idle done rests receiving accepted_eq =>
      have hnothing : t.endSend? limit = none := by
        rw [endSend?, rests.underway_eq]
        rfl
      simp only [step?, handOut?, rests.line_eq, hnothing] at hstep
      cases hexit : t.pool.exit? 0 with
      | some pool =>
          simp only [hexit] at hstep
          exact .exits rests.underway_eq hexit (Option.some.inj hstep).symm
      | none =>
          cases htake : t.pool.take? 0 with
          | some pool =>
              simp only [hexit, htake] at hstep
              exact .takes rests.underway_eq htake (Option.some.inj hstep).symm
          | none =>
              simp only [hexit, htake] at hstep
              cases hstep
  | sending done number op passed send delivers underway_eq worker_eq =>
      obtain ⟨hworker, hmore⟩ := delivers.worker_eq
      have hmade : t.made.getLast? = some (op, passed) := by
        rw [delivers.made_eq, Pool.row_succ, ← List.append_assoc, List.getLast?_concat]
      simp only [step?, handOut?, delivers.line_eq] at hstep
      obtain ⟨send', hearliest, hnext⟩ := endSend?_eq_some hstep
      rw [underway_eq] at hearliest hnext
      obtain rfl : send = send' := Option.some.inj hearliest
      have hnone : [send].filter (fun other => other.worker ≠ send.worker) = [] := by
        rw [List.filter_cons_of_neg (by simp), List.filter_nil]
      rw [hnone, worker_eq] at hnext
      exact .ends underway_eq hworker hmore hmade hnext
  | exited done rests receiving done_le =>
      simp only [step?, handOut?, endSend?, rests.line_eq, rests.underway_eq, earliest?] at hstep
      cases hstep

/-- **Each step** leaves the worker less to do. -/
lemma load_step (h : t.InOrder replicas accepted) {limit : Option Nat}
    (hstep : t.step? limit = some t') : t'.pool.load < t.pool.load := by
  cases h.moves hstep with
  | exits hunderway hexit hnext =>
      rw [hnext]
      exact Pool.load_exit hexit
  | @takes pool hunderway htake hnext =>
      rw [hnext]
      refine Nat.lt_of_le_of_lt ?_ (Pool.load_take htake)
      exact pool_proceed (Pool.kept_load pool.load) (Nat.le_refl _) _ 0
  | @ends number op passed send hunderway hworker hmore hmade hnext =>
      obtain ⟨pool, hfinish⟩ : ∃ pool, t.pool.finish? 0 send.outcome = some pool := by
        simp only [Pool.finish?, hworker]
        exact ⟨_, rfl⟩
      rw [hnext]
      refine Nat.lt_of_le_of_lt ?_ ((Pool.load_finish hfinish).2 number op passed hworker hmore)
      refine pool_proceed (Pool.kept_load pool.load) ?_ _ 0
      simp only [finish, hfinish]
      exact Nat.le_refl _

lemma run_rests (h : t.InOrder replicas accepted) {fuel : Nat} (hfuel : t.pool.load < fuel) :
    (run none fuel t).step? none = none := by
  induction fuel generalizing t with
  | zero => exact absurd hfuel (Nat.not_lt_zero _)
  | succ fuel ih =>
      rw [run]
      split
      next t₁ hstep =>
          have hless := load_step h hstep
          exact ih (h.step hstep) (by omega)
      next hrest => exact hrest

/-- **Rest**: what happens by itself comes to an end. -/
lemma runOut_rests (h : t.InOrder replicas accepted) : t.runOut.step? none = none := by
  refine run_rests h ?_
  have hle := t.pool.load_le
  have hbound : (t.pool.queue.waiting.length + t.pool.workers.length) * (t.pool.replicas + 1) ≤
      (t.pool.queue.waiting.length + t.pool.workers.length) * (t.pool.replicas + 2) :=
    Nat.mul_le_mul_left _ (by omega)
  rw [bound]
  omega

/-- **A worker that rests** and was not told to stop has done everything. -/
lemma drained_of_rest (h : t.InOrder replicas accepted) (haccounted : t.Accounted accepted)
    (hlossless : t.pool.Lossless) (hrest : t.step? none = none) : t.Drained := by
  have hpending : t.pool.queue.waiting = [] → t.pool.queue.counters.pending = 0 := by
    intro hwaiting
    have hcounts := hlossless.counts
    rw [hwaiting, List.length_nil, Nat.add_zero] at hcounts
    rw [ReplicationCounters.pending, hcounts, Nat.sub_self]
  rw [step?] at hrest
  split at hrest
  next => cases hrest
  next hhandOut =>
      cases h with
      | idle done rests receiving accepted_eq =>
          refine ⟨hpending ?_, .inl rests.workers_eq⟩
          simp only [handOut?, rests.line_eq] at hhandOut
          split at hhandOut
          next => cases hhandOut
          next =>
              cases hwaiting : t.pool.queue.waiting with
              | nil => rfl
              | cons op rest =>
                  have hidle : t.pool.workers[0]? = some .idle := by
                    rw [rests.workers_eq]
                    rfl
                  have hunlocked : t.pool.isLocked = false := by
                    rw [Pool.isLocked, rests.workers_eq]
                    rfl
                  have htake := Pool.isSome_take? hidle hlossless.going hunlocked
                    (by rw [hwaiting]; exact List.cons_ne_nil _ _)
                  split at hhandOut
                  next => cases hhandOut
                  next hnone =>
                      rw [hnone] at htake
                      cases htake
      | sending done number op passed send delivers underway_eq worker_eq =>
          simp only [endSend?, underway_eq, earliest?] at hrest
          cases hrest
      | exited done rests receiving done_le =>
          obtain ⟨taken, haccounts⟩ := haccounted
          have hwaiting := haccounts.queue.waiting_eq
          simp only [receiving] at hwaiting
          exact ⟨hpending hwaiting, .inr rests.workers_eq⟩

end Timeline

end ReplicatedCache
