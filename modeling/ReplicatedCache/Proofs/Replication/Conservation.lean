/-
No task is lost or sent twice, whatever the workers of a pool do and whenever they are told to stop.

* `Journal.Late`: a worker that has passed its last look at the stop flag and may still take a task;
* `step_stopping`, `run_stopping`: **after a stop** only a late worker takes a task, and only one;
* `Journal.Standing`, `Accounts.existsUnique_stands`: where a task is;
* `Accounts.completes`: a task that is being sent can always be completed;
* `Journal.Conserved`, `Journal.tasks_accounted`: **conservation**: each accepted task was never
  taken, is in the hands of one worker, or is done, and a stop cuts no delivery short;
* `Journal.taken_after_stop`: a task is taken after a stop that was added after it.
-/
import Mathlib.Logic.ExistsUnique
import ReplicatedCache.Proofs.Replication.Accounting

namespace ReplicatedCache.Journal

open Pool (Event)

variable {j j' : Journal} {w number : Nat} {op : Operation}

/-! ### After a stop -/

/-- Worker `w` has the lock, has passed its last look at the stop flag, and may still take a
task. -/
def Late (j : Journal) (w : Nat) : Prop := j.pool.workers[w]? = some .receiving

lemma Late.hasLock (h : j.Late w) : j.pool.HasLock w := ⟨.receiving, h, rfl⟩

/-- What is true of one event **after a stop**: a look never leads to a try to receive any more, so
nobody comes to be late. Only who is late takes a task, and is not late then. -/
structure Stopped (j j' : Journal) : Prop where
  stopping : j'.pool.stopping = true
  late : ∀ w, j'.Late w → j.Late w
  taken : j'.taken = j.taken ∨
    ∃ w op, j.Late w ∧ ¬ j'.Late w ∧ j'.taken = j.taken ++ [(w, op)]

/-- Where one worker has changed and is not late, only others are, and they were so before. -/
lemma late_of_set {old new : Worker} (hold : j.pool.workers[w]? = some old)
    (hnew : new ≠ .receiving) {w' : Nat}
    (hlate : (j.pool.workers.set w new)[w']? = some .receiving) : w' ≠ w ∧ j.Late w' := by
  rcases Pool.eq_or_of_set hold hlate with ⟨-, heq⟩ | hother
  · exact absurd heq hnew
  · exact hother

lemma sendingOrIdle_ne_receiving (p : Pool) (number : Nat) (op : Operation) (passed : Nat) :
    p.sendingOrIdle number op passed ≠ .receiving := by
  intro heq
  have hlock := Pool.hasLock_sendingOrIdle p number op passed
  rw [heq] at hlock
  cases hlock

/-- **One event** after a stop. -/
lemma step_stopping (hstopping : j.pool.stopping = true) {e : Event} (hstep : j.step? e = some j') :
    j.Stopped j' := by
  cases moves hstep with
  | adds hadd =>
      obtain rfl := step?_enqueue hadd
      exact ⟨hstopping, fun _ => id, .inl rfl⟩
  | stops hnext =>
      rw [hnext]
      exact ⟨rfl, fun _ => id, .inl rfl⟩
  | closes hnext =>
      rw [hnext]
      exact ⟨hstopping, fun _ => id, .inl rfl⟩
  | turns hturn =>
      obtain ⟨old, new, pool, hpool, rfl⟩ := hturn
      have hnew : new ≠ .receiving := by
        intro heq
        have hgoing := hpool.looked heq
        rw [hstopping] at hgoing
        cases hgoing
      have hworker := hpool.worker_eq
      obtain ⟨queue, -, rfl⟩ := hpool.next
      exact ⟨hstopping, fun w' hlate => (late_of_set hworker hnew hlate).2, .inl rfl⟩
  | @takes w htake =>
      obtain ⟨hworker, op, rest, -, rfl⟩ := htake
      have hnew := sendingOrIdle_ne_receiving j.pool j.pool.queue.counters.dequeued op 0
      exact ⟨hstopping, fun w' hlate => (late_of_set hworker hnew hlate).2,
        .inr ⟨w, op, hworker, fun hlate => (late_of_set hworker hnew hlate).1 rfl, rfl⟩⟩
  | ends hend =>
      obtain ⟨number, op, passed, hworker, rfl⟩ := step?_finish hend
      have hnew := sendingOrIdle_ne_receiving j.pool number op (passed + 1)
      exact ⟨hstopping, fun w' hlate => (late_of_set hworker hnew hlate).2, .inl rfl⟩

/-- **A run** after a stop takes at most one task, since at most one worker is late. -/
lemma run_stopping (h : j.Accounts) (hstopping : j.pool.stopping = true) {events : List Event}
    (hrun : j.run? events = some j') :
    j'.taken = j.taken ∨ ∃ w op, j.Late w ∧ j'.taken = j.taken ++ [(w, op)] := by
  induction events generalizing j with
  | nil =>
      obtain rfl := Option.some.inj hrun
      exact .inl rfl
  | cons e events ih =>
      obtain ⟨j₁, hstep, hevents⟩ := Option.bind_eq_some_iff.mp hrun
      have hstopped := step_stopping hstopping hstep
      have hlater := ih (h.step hstep) hstopped.stopping hevents
      rcases hstopped.taken with hsame | ⟨w, op, hlate, hdone, htaken⟩
      · rw [hsame] at hlater
        rcases hlater with hrest | ⟨w, op, hlate, htaken⟩
        · exact .inl hrest
        · exact .inr ⟨w, op, hstopped.late w hlate, htaken⟩
      · -- whoever is late after the first task was late before it, and so took it
        rcases hlater with hrest | ⟨w', op', hlate', -⟩
        · exact .inr ⟨w, op, hlate, hrest.trans htaken⟩
        · obtain rfl := h.lock w w' hlate.hasLock (hstopped.late w' hlate').hasLock
          exact absurd hlate' hdone

/-! ### Where a task is -/

/-- The situations a task may be in. -/
inductive Standing where
  /-- No worker ever took it. -/
  | untaken
  /-- A worker has it in its hands, and its sends to the first `passed` replicas have ended. -/
  | held (worker passed : Nat)
  /-- A worker took it, and nobody has it in hands any more. -/
  | completed

/-- The accepted task with a number is in a situation. -/
def Stands (j : Journal) (number : Nat) (op : Operation) : Standing → Prop
  | .untaken => j.taken.length ≤ number
  | .held w passed => j.pool.workers[w]? = some (.sending number op passed)
  | .completed => number < j.taken.length ∧ ∀ w, ¬ j.pool.Holds w number

/-- How many replicas a task in a situation has been sent to. -/
def Standing.sent (replicas : Nat) : Standing → Nat
  | untaken => 0
  | held _ passed => passed
  | completed => replicas

namespace Accounts

/-- A task that was taken is the one accepted under its number. -/
lemma taken_eq (h : j.Accounts) (hop : j.accepted[number]? = some op)
    (hlt : number < j.taken.length) : ∃ w, j.taken[number]? = some (w, op) := by
  have horder : (j.taken.map Prod.snd)[number]? = some op := by
    rw [h.queue.order_eq, List.getElem?_take_of_lt hlt, hop]
  rw [List.getElem?_map] at horder
  obtain ⟨⟨w, op'⟩, htaken, rfl⟩ := Option.map_eq_some_iff.mp horder
  exact ⟨w, htaken⟩

/-- **A task is in one situation only.** -/
lemma existsUnique_stands (h : j.Accounts) (hop : j.accepted[number]? = some op) :
    ∃! standing, j.Stands number op standing := by
  by_cases hlt : number < j.taken.length
  · obtain ⟨w, htaken⟩ := h.taken_eq hop hlt
    by_cases hholds : ∃ w', j.pool.Holds w' number
    · obtain ⟨w', op', passed, hw'⟩ := hholds
      have hheld {w₁ passed₁ : Nat} {op₁ : Operation}
          (hw₁ : j.pool.workers[w₁]? = some (.sending number op₁ passed₁)) :
          w₁ = w ∧ op₁ = op := by
        have htaken₁ := (h.work.held w₁ number op₁ passed₁ hw₁).1
        rw [htaken] at htaken₁
        obtain ⟨rfl, rfl⟩ := Prod.mk.inj (Option.some.inj htaken₁)
        exact ⟨rfl, rfl⟩
      obtain ⟨rfl, rfl⟩ := hheld hw'
      refine ⟨.held w' passed, hw', fun standing hstanding => ?_⟩
      cases standing with
      | untaken =>
          have hle : j.taken.length ≤ number := hstanding
          omega
      | held w₁ passed₁ =>
          have hw₁ : j.pool.workers[w₁]? = some (.sending number op' passed₁) := hstanding
          obtain ⟨rfl, -⟩ := hheld hw₁
          rw [hw'] at hw₁
          obtain ⟨-, -, rfl⟩ := Worker.sending.inj (Option.some.inj hw₁)
          rfl
      | completed => exact absurd ⟨op', passed, hw'⟩ (hstanding.2 w')
    · refine ⟨.completed, ⟨hlt, fun w' hw' => hholds ⟨w', hw'⟩⟩, fun standing hstanding => ?_⟩
      cases standing with
      | untaken =>
          have hle : j.taken.length ≤ number := hstanding
          omega
      | held w₁ passed₁ => exact absurd ⟨w₁, op, passed₁, hstanding⟩ hholds
      | completed => rfl
  · refine ⟨.untaken, Nat.le_of_not_lt hlt, fun standing hstanding => ?_⟩
    cases standing with
    | untaken => rfl
    | held w₁ passed₁ =>
        have htaken := (h.work.held w₁ number op passed₁ hstanding).1
        exact absurd (List.getElem?_eq_some_iff.mp htaken).1 hlt
    | completed => exact absurd hstanding.1 hlt

/-- **A task was sent** to as many replicas as its situation says. -/
lemma sentTo (h : j.Accounts) (hop : j.accepted[number]? = some op) {standing : Standing}
    (hstanding : j.Stands number op standing) :
    j.pool.SentTo number op (standing.sent j.pool.replicas) := by
  cases standing with
  | untaken =>
      rw [Pool.SentTo, h.work.attemptsOn_eq_nil hstanding]
      rfl
  | held w passed => exact (h.work.held w number op passed hstanding).2.2
  | completed =>
      obtain ⟨w, htaken⟩ := h.taken_eq hop hstanding.1
      rcases h.work.done number w op htaken with hholds | hdone
      · exact absurd hholds (hstanding.2 w)
      · exact hdone

/-- A task is completed if the worker that took it does not have it in hands any more. -/
lemma completed_of_not_holds (h : j.Accounts) (htaken : j.taken[number]? = some (w, op))
    (hw : ¬ j.pool.Holds w number) : j.Stands number op .completed := by
  refine ⟨(List.getElem?_eq_some_iff.mp htaken).1, fun w' hw' => ?_⟩
  obtain ⟨op', passed, hsending⟩ := hw'
  have htaken' := (h.work.held w' number op' passed hsending).1
  rw [htaken] at htaken'
  obtain ⟨rfl, rfl⟩ := Prod.mk.inj (Option.some.inj htaken')
  exact hw ⟨op, passed, hsending⟩

/-- A worker that has exited has completed all that it took. -/
lemma completed_of_exited (h : j.Accounts) (hexited : j.pool.workers[w]? = some .exited)
    (htaken : j.taken[number]? = some (w, op)) : j.Stands number op .completed := by
  refine h.completed_of_not_holds htaken fun hw => ?_
  obtain ⟨op', passed, hsending⟩ := hw
  rw [hexited] at hsending
  cases hsending

/-- A send under way may end in any way. It leaves its worker with the next replica, or idle. -/
lemma finishes (h : j.Accounts) {passed : Nat} (hheld : j.Stands number op (.held w passed))
    (outcome : Outcome) :
    ∃ j₁, j.step? (.finish w outcome) = some j₁ ∧ j₁.Accounts ∧
      j₁.pool.replicas = j.pool.replicas ∧ j₁.taken[number]? = some (w, op) ∧
      j₁.pool.workers[w]? = some (j.pool.sendingOrIdle number op (passed + 1)) := by
  have hworker : j.pool.workers[w]? = some (.sending number op passed) := hheld
  obtain ⟨j₁, hstep⟩ : ∃ j₁, j.step? (.finish w outcome) = some j₁ := by
    simp only [step?, Pool.step?, Pool.finish?, hworker]
    exact ⟨_, rfl⟩
  refine ⟨j₁, hstep, h.step hstep, replicas_step hstep, ?_⟩
  obtain ⟨number', op', passed', hworker', rfl⟩ := step?_finish hstep
  obtain ⟨rfl, rfl, rfl⟩ := Worker.sending.inj (Option.some.inj (hworker'.symm.trans hworker))
  exact ⟨(h.work.held w _ _ _ hworker).1,
    List.getElem?_set_self (List.getElem?_eq_some_iff.mp hworker).1⟩

/-- **A task is completed** by the ends of the sends that are left, however they end, and nothing
else needs to happen. -/
lemma completes (h : j.Accounts) {passed : Nat} {outcomes : List Outcome}
    (hheld : j.Stands number op (.held w passed))
    (houtcomes : passed + outcomes.length = j.pool.replicas) :
    ∃ j', j.run? (outcomes.map (.finish w)) = some j' ∧ j'.Stands number op .completed := by
  induction outcomes generalizing j passed with
  | nil =>
      have hlt := (h.work.held w number op passed hheld).2.1
      rw [List.length_nil] at houtcomes
      omega
  | cons outcome outcomes ih =>
      rw [List.length_cons] at houtcomes
      obtain ⟨j₁, hstep, h₁, hreplicas, htaken, hworker⟩ := h.finishes hheld outcome
      rw [List.map_cons, run?, hstep, Option.bind_some]
      by_cases hmore : passed + 1 < j.pool.replicas
      · rw [Pool.sendingOrIdle, if_pos hmore] at hworker
        exact ih h₁ hworker (by omega)
      · obtain rfl : outcomes = [] := List.length_eq_zero_iff.mp (by omega)
        refine ⟨j₁, rfl, h₁.completed_of_not_holds htaken fun hw => ?_⟩
        obtain ⟨op', passed', hsending⟩ := hw
        rw [hworker, Pool.sendingOrIdle, if_neg hmore] at hsending
        cases hsending

end Accounts

/-- What is true at every moment of a pool that sends to so many replicas. -/
structure Conserved (j : Journal) (replicas : Nat) : Prop where
  /-- Tasks are taken in the order in which they were accepted. -/
  in_order : j.taken.map Prod.snd = j.accepted.take j.taken.length
  /-- Each accepted task was never taken, is in the hands of one worker, or is completed. -/
  situation : ∀ number op, j.accepted[number]? = some op → ∃! standing, j.Stands number op standing
  /-- Its sends that have ended are one to each replica it has passed, in the order of the replicas.
  For a completed task these are all replicas. -/
  sent : ∀ number op, j.accepted[number]? = some op → ∀ standing, j.Stands number op standing →
    j.pool.SentTo number op (standing.sent replicas)
  /-- Every send is one of a task that was taken. -/
  number_lt : ∀ a ∈ j.pool.attempts, a.number < j.taken.length
  /-- Every send is counted once, as confirmed or as failed, whoever the counters belong to. -/
  delivered_eq : ∀ shared, (j.pool.workerCounters shared).delivered =
    j.pool.attempts.countP fun a => a.outcome = .delivered
  failed_eq : ∀ shared, (j.pool.workerCounters shared).failed =
    j.pool.attempts.countP fun a => a.outcome ≠ .delivered
  /-- A task in a worker's hands, before a stop or after it, is completed by as many ends of its
  sends as there are replicas left, however these sends end. -/
  completes : ∀ number op w passed, j.Stands number op (.held w passed) →
    ∀ outcomes : List Outcome, passed + outcomes.length = replicas →
      ∃ j', j.run? (outcomes.map (.finish w)) = some j' ∧ j'.Stands number op .completed
  /-- After a stop at most one more task is taken, and only by the worker that had the lock and had
  passed its last look at the stop flag. -/
  after_stop : j.pool.stopping = true → ∀ events j', j.run? events = some j' →
    j'.taken = j.taken ∨ ∃ w op, j.Late w ∧ j'.taken = j.taken ++ [(w, op)]
  /-- A worker that has exited has completed all that it took. -/
  exited : ∀ w, j.pool.workers[w]? = some .exited → ∀ number op, j.taken[number]? = some (w, op) →
    j.Stands number op .completed
  /-- Once all workers have exited, the tasks that count as pending are those nobody took, if the
  workers were given the counters of the queue. -/
  pending_eq : j.pool.finished = true →
    (j.pool.queueCounters true).pending = j.accepted.length - j.taken.length
  /-- All others were sent to every replica then. -/
  sends_eq : j.pool.finished = true →
    (j.pool.queueCounters true).delivered + (j.pool.queueCounters true).failed =
      replicas * ((j.pool.queueCounters true).enqueued - (j.pool.queueCounters true).pending)

/-- **No task is lost or sent twice**, with any number of workers and replicas, and however the
tasks that are added, the steps of the workers, the outcomes of the sends and a stop are
interleaved. -/
theorem tasks_accounted (replicas workers : Nat) {events : List Event}
    (hrun : (start replicas workers).run? events = some j) : j.Conserved replicas := by
  have h := (Accounts.start replicas workers).run hrun
  have hreplicas : j.pool.replicas = replicas := replicas_run hrun
  exact {
    in_order := h.queue.order_eq
    situation := fun number op hop => h.existsUnique_stands hop
    sent := by
      intro number op hop standing hstanding
      rw [← hreplicas]
      exact h.sentTo hop hstanding
    number_lt := h.work.number_lt
    delivered_eq := by
      intro shared
      rw [← h.work.delivered_eq]
      cases shared with
      | true | false => rfl
    failed_eq := by
      intro shared
      rw [← h.work.failed_eq]
      cases shared with
      | true | false => rfl
    completes := fun number op w passed hheld outcomes houtcomes =>
      h.completes hheld (houtcomes.trans hreplicas.symm)
    after_stop := fun hstopping events j' hlater => run_stopping h hstopping hlater
    exited := fun w hexited number op htaken => h.completed_of_exited hexited htaken
    pending_eq := fun _ => h.pending_eq
    sends_eq := by
      intro hfinished
      rw [← hreplicas]
      exact h.delivered_add_failed_of_finished hfinished }

/-- Four tasks for two workers and two replicas. Worker 1 sends the first one and worker 0 the
second; then worker 0 has looked at the stop flag for the last time when it is raised, and takes the
third. Nobody takes the last. -/
theorem tasks_accounted_stop :
    let before : List Event := [.enqueue (.put "a" "1"), .enqueue (.delete "b"),
      .enqueue (.put "c" "3"), .enqueue (.put "d" "4")] ++ Pool.visit 1 ++ Pool.visit 0 ++
      [.finish 0 .timedOut, .finish 0 .delivered, .look 0, .lock 0, .look 0, .stop]
    let after : List Event := [.receive 0, .finish 1 .delivered, .finish 0 .delivered,
      .finish 1 (.failed "gone"), .look 1, .leave 1, .finish 0 .delivered, .look 0, .leave 0]
    (∃ j j', (start 2 2).run? before = some j ∧ j.run? after = some j' ∧
      (∃! standing, j.Stands 0 (.put "a" "1") standing) ∧
      ∃ w op, j.Late w ∧ j'.taken = j.taken ++ [(w, op)]) ∧
    ∃ j, (start 2 2).run? (before ++ after) = some j ∧ j.Stands 0 (.put "a" "1") .completed ∧
      (j.pool.queueCounters true).pending = 1 ∧
      (j.pool.queueCounters true).delivered + (j.pool.queueCounters true).failed = 2 * 3 := by
  intro before after
  constructor
  · have hruns : ((start 2 2).run? before).bind (fun j => (j.run? after).map fun j' =>
        (j.pool.stopping, j.accepted[0]?, j.taken.length, j'.taken.length)) =
          some (true, some (.put "a" "1"), 2, 3) := by rfl
    obtain ⟨j, hbefore, hruns⟩ := Option.bind_eq_some_iff.mp hruns
    obtain ⟨j', hafter, heq⟩ := Option.map_eq_some_iff.mp hruns
    simp only [Prod.mk.injEq] at heq
    obtain ⟨hstopping, haccepted, htwo, hthree⟩ := heq
    have hconserved := tasks_accounted 2 2 hbefore
    refine ⟨j, j', hbefore, hafter, hconserved.situation 0 _ haccepted, ?_⟩
    rcases hconserved.after_stop hstopping after j' hafter with hnone | hone
    · rw [hnone, htwo] at hthree
      cases hthree
    · exact hone
  · have hruns : ((start 2 2).run? (before ++ after)).map (fun j =>
        (j.pool.finished, j.pool.workers[1]?, j.accepted.length, j.taken[0]?, j.taken.length,
          (j.pool.queueCounters true).enqueued)) =
        some (true, some .exited, 4, some (1, .put "a" "1"), 3, 4) := by rfl
    obtain ⟨j, hbefore, heq⟩ := Option.map_eq_some_iff.mp hruns
    simp only [Prod.mk.injEq] at heq
    obtain ⟨hfinished, hexited, haccepted, hfirst, htaken, henqueued⟩ := heq
    have hconserved := tasks_accounted 2 2 hbefore
    have hpending := hconserved.pending_eq hfinished
    have hsends := hconserved.sends_eq hfinished
    rw [haccepted, htaken] at hpending
    rw [hpending, henqueued] at hsends
    exact ⟨j, hbefore, hconserved.exited 1 hexited 0 _ hfirst, hpending, hsends⟩

/-- A worker has looked at the stop flag for the last time when it is raised. It takes a task then
that was added even later. And where the workers were not given the counters of the queue, a task
counts as pending for ever, although it was taken and completed. -/
theorem taken_after_stop :
    (∃ j j', (start 1 1).run? [.look 0, .lock 0, .look 0, .stop] = some j ∧
      j.pool.stopping = true ∧ j.accepted = [] ∧ j.taken = [] ∧
      j.run? [.enqueue (.put "a" "1"), .receive 0] = some j' ∧
      j'.taken = [(0, .put "a" "1")]) ∧
    ∃ j, (start 1 1).run? ([.enqueue (.put "a" "1")] ++ Pool.visit 0 ++
        [.finish 0 .delivered, .stop, .look 0, .leave 0]) = some j ∧
      j.pool.finished = true ∧ j.accepted.length = j.taken.length ∧
      (j.pool.queueCounters false).pending = 1 :=
  ⟨⟨_, _, rfl, rfl, rfl, rfl, rfl, rfl⟩, _, rfl, rfl, rfl, rfl⟩

end ReplicatedCache.Journal
