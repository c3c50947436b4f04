/-
What a worker of a pool does in one step.

* `row`: the sends of one task to the first replicas;
* `look?_eq_some`, `lock?_eq_some`, `receive?_eq_some`, `leave?_eq_some`, `finish?_eq_some`: **one
  step** of a worker, with all that it may do;
* `Pool.Turns`: a worker with no task in its hands goes on to another state without one;
* `Pool.Exclusive`: at most one worker has the lock, and each event keeps it so;
* `run?_visit`: an idle worker comes to try to receive if nothing happens between its steps;
* `take?_eq_some`, `exit?_eq_some`: it takes the oldest task then, or exits if it has nothing to
  wait for.
-/
import Mathlib.Tactic.Lemma
import ReplicatedCache.Replication.Pool

namespace ReplicatedCache

/-- Whether a worker has no task in its hands. -/
def Worker.isFree : Worker → Bool
  | sending _ _ _ => false
  | idle | locking | waiting | receiving | leaving | exited => true

namespace Pool

/-- The sends of a task to the first `passed` replicas, in the order of the replicas. -/
def row (op : Operation) (passed : Nat) : List (Operation × Nat) :=
  (List.range passed).map fun replica => (op, replica)

lemma row_succ (op : Operation) (passed : Nat) :
    row op (passed + 1) = row op passed ++ [(op, passed)] := by
  rw [row, List.range_succ, List.map_append]
  rfl

lemma take_row (op : Operation) (passed k : Nat) :
    (row op passed).take k = row op (min k passed) := by
  rw [row, row, ← List.map_take, List.take_range]

lemma row_prefix_row (op : Operation) {k passed : Nat} (h : k ≤ passed) :
    row op k <+: row op passed := by
  have htake := take_row op passed k
  rw [Nat.min_eq_left h] at htake
  rw [← htake]
  exact List.take_prefix _ _

variable {p p' : Pool} {w : Nat} {old new : Worker} {outcome : Outcome}

/-! ### One step of a worker -/

/-- A worker that looks has to stop, or goes on to try what it waits for. -/
lemma look?_eq_some (h : p.look? w = some p') :
    p.stopping = true ∧ p' = p.setWorker w .leaving ∧
        (p.workers[w]? = some .idle ∨ p.workers[w]? = some .waiting) ∨
      p.stopping = false ∧
        (p.workers[w]? = some .idle ∧ p' = p.setWorker w .locking ∨
          p.workers[w]? = some .waiting ∧ p' = p.setWorker w .receiving) := by
  rw [look?] at h
  split at h
  next hworker =>
      have hnext := (Option.some.inj h).symm
      cases hstopping : p.stopping with
      | true => exact .inl ⟨rfl, by simpa [hstopping] using hnext, .inl hworker⟩
      | false => exact .inr ⟨rfl, .inl ⟨hworker, by simpa [hstopping] using hnext⟩⟩
  next hworker =>
      have hnext := (Option.some.inj h).symm
      cases hstopping : p.stopping with
      | true => exact .inl ⟨rfl, by simpa [hstopping] using hnext, .inr hworker⟩
      | false => exact .inr ⟨rfl, .inr ⟨hworker, by simpa [hstopping] using hnext⟩⟩
  next => cases h

/-- A worker that tries the lock has it then, unless another one has it. -/
lemma lock?_eq_some (h : p.lock? w = some p') :
    p.workers[w]? = some .locking ∧
      (p.isLocked = true ∧ p' = p.setWorker w .idle ∨
        p.isLocked = false ∧ p' = p.setWorker w .waiting) := by
  rw [lock?] at h
  split at h
  next hworker =>
      have hnext := (Option.some.inj h).symm
      cases hlocked : p.isLocked with
      | true => exact ⟨hworker, .inl ⟨rfl, by simpa [hlocked] using hnext⟩⟩
      | false => exact ⟨hworker, .inr ⟨rfl, by simpa [hlocked] using hnext⟩⟩
  next => cases h

/-- A worker that tries to receive takes the oldest task; where there is none, it waits on or
leaves. -/
lemma receive?_eq_some (h : p.receive? w = some p') :
    p.workers[w]? = some .receiving ∧
      ((∃ op rest, p.queue.waiting = op :: rest ∧
        p' = { p with
          queue := { p.queue with waiting := rest, counters := p.queue.counters.dequeue }
          workers := p.workers.set w (p.sendingOrIdle p.queue.counters.dequeued op 0) }) ∨
      p.queue.waiting = [] ∧ (p.producing = true ∧ p' = p.setWorker w .waiting ∨
        p.producing = false ∧ p' = p.setWorker w .leaving)) := by
  rw [receive?] at h
  split at h
  next hworker =>
      refine ⟨hworker, ?_⟩
      cases hwaiting : p.queue.waiting with
      | cons op rest =>
          simp only [SendQueue.take, hwaiting] at h
          exact .inl ⟨op, rest, rfl, (Option.some.inj h).symm⟩
      | nil =>
          simp only [SendQueue.take, hwaiting] at h
          have hnext := (Option.some.inj h).symm
          cases hproducing : p.producing with
          | true => exact .inr ⟨rfl, .inl ⟨rfl, by simpa [hproducing] using hnext⟩⟩
          | false => exact .inr ⟨rfl, .inr ⟨rfl, by simpa [hproducing] using hnext⟩⟩
  next => cases h

/-- The last worker that exits closes the queue. -/
lemma leave?_eq_some (h : p.leave? w = some p') :
    p.workers[w]? = some .leaving ∧ p' = { p with
      queue := if (p.setWorker w .exited).finished then p.queue.close else p.queue
      workers := p.workers.set w .exited } := by
  rw [leave?] at h
  split at h
  next hworker =>
      refine ⟨hworker, ?_⟩
      simp only [Option.some.injEq] at h
      rw [← h]
      split
      · rfl
      · rfl
  next => cases h

/-- A worker whose send ends goes on to the next replica, if there is one. -/
lemma finish?_eq_some (h : p.finish? w outcome = some p') :
    ∃ number op passed, p.workers[w]? = some (.sending number op passed) ∧
      p' = { p with
        queue := { p.queue with counters := count p.queue.counters outcome }
        workers := p.workers.set w (p.sendingOrIdle number op (passed + 1))
        attempts := p.attempts ++ [⟨number, op, passed, outcome⟩] } := by
  rw [finish?] at h
  split at h
  next number op passed hworker =>
      exact ⟨number, op, passed, hworker, (Option.some.inj h).symm⟩
  next => cases h

/-! ### Steps without a task -/

/-- Worker `w`, with no task in its hands, goes on to another state without one. It tries to receive
only after a look at the stop flag that found it down, and comes to have the lock only if nobody
else has it. Only when it exits, the queue may be closed. -/
structure Turns (p : Pool) (w : Nat) (old new : Worker) (p' : Pool) : Prop where
  worker_eq : p.workers[w]? = some old
  old_free : old.isFree = true
  new_free : new.isFree = true
  looked : new = .receiving → p.stopping = false
  locked : new.hasLock = true → old.hasLock = true ∨ p.isLocked = false
  next : ∃ queue, (queue = p.queue ∨ new = .exited ∧ queue = p.queue.close) ∧
    p' = { p with queue, workers := p.workers.set w new }

lemma turns_setWorker (hold : p.workers[w]? = some old) (hfree : old.isFree = true)
    (hnew : new.isFree = true) (hlooked : new = .receiving → p.stopping = false)
    (hlocked : new.hasLock = true → old.hasLock = true ∨ p.isLocked = false) :
    p.Turns w old new (p.setWorker w new) :=
  ⟨hold, hfree, hnew, hlooked, hlocked, p.queue, .inl rfl, rfl⟩

lemma turns_of_look (h : p.look? w = some p') : ∃ old new, p.Turns w old new p' := by
  obtain ⟨-, rfl, hold | hold⟩ | ⟨hgoing, ⟨hold, rfl⟩ | ⟨hold, rfl⟩⟩ := look?_eq_some h
  · exact ⟨_, _, turns_setWorker hold rfl rfl nofun nofun⟩
  · exact ⟨_, _, turns_setWorker hold rfl rfl nofun nofun⟩
  · exact ⟨_, _, turns_setWorker hold rfl rfl nofun nofun⟩
  · exact ⟨_, _, turns_setWorker hold rfl rfl (fun _ => hgoing) fun _ => .inl rfl⟩

lemma turns_of_lock (h : p.lock? w = some p') : ∃ old new, p.Turns w old new p' := by
  obtain ⟨hold, ⟨-, rfl⟩ | ⟨hunlocked, rfl⟩⟩ := lock?_eq_some h
  · exact ⟨_, _, turns_setWorker hold rfl rfl nofun nofun⟩
  · exact ⟨_, _, turns_setWorker hold rfl rfl nofun fun _ => .inr hunlocked⟩

/-- A worker that finds nothing to receive still has no task in its hands. -/
lemma turns_of_receive (h : p.receive? w = some p') (hnone : p.queue.waiting = []) :
    ∃ old new, p.Turns w old new p' := by
  obtain ⟨hold, ⟨op, rest, hwaiting, -⟩ | ⟨-, ⟨-, rfl⟩ | ⟨-, rfl⟩⟩⟩ := receive?_eq_some h
  · rw [hnone] at hwaiting
    cases hwaiting
  · exact ⟨_, _, turns_setWorker hold rfl rfl nofun fun _ => .inl rfl⟩
  · exact ⟨_, _, turns_setWorker hold rfl rfl nofun nofun⟩

lemma turns_of_leave (h : p.leave? w = some p') : ∃ old new, p.Turns w old new p' := by
  obtain ⟨hold, rfl⟩ := leave?_eq_some h
  refine ⟨.leaving, .exited, hold, rfl, rfl, nofun, nofun, _, ?_, rfl⟩
  split
  · exact .inr ⟨rfl, rfl⟩
  · exact .inl rfl

/-! ### The lock -/

/-- Worker `w` has the lock. -/
def HasLock (p : Pool) (w : Nat) : Prop :=
  ∃ worker, p.workers[w]? = some worker ∧ worker.hasLock = true

/-- At most one worker has the lock. -/
def Exclusive (p : Pool) : Prop := ∀ w w', p.HasLock w → p.HasLock w' → w = w'

/-- A worker with a task, or idle after it, does not have the lock. -/
lemma hasLock_sendingOrIdle (p : Pool) (number : Nat) (op : Operation) (passed : Nat) :
    (p.sendingOrIdle number op passed).hasLock = false := by
  rw [sendingOrIdle]
  split
  · rfl
  · rfl

/-- What a worker is once worker `w` has become `new`. -/
lemma eq_or_of_set {workers : List Worker} {worker : Worker} (hold : workers[w]? = some old)
    {w' : Nat} (hw' : (workers.set w new)[w']? = some worker) :
    w' = w ∧ new = worker ∨ w' ≠ w ∧ workers[w']? = some worker := by
  have hlt : w < workers.length := (List.getElem?_eq_some_iff.mp hold).1
  by_cases hw : w = w'
  · subst hw
    rw [List.getElem?_set_self hlt] at hw'
    exact .inl ⟨rfl, Option.some.inj hw'⟩
  · rw [List.getElem?_set_ne hw] at hw'
    exact .inr ⟨Ne.symm hw, hw'⟩

namespace Exclusive

lemma start (replicas workers : Nat) : (Pool.start replicas workers).Exclusive := by
  intro w w' hw _
  obtain ⟨worker, hworker, hlock⟩ := hw
  obtain rfl : worker = .idle := List.eq_of_mem_replicate (List.mem_of_getElem? hworker)
  cases hlock

/-- A worker comes to have the lock only where nobody else has it. -/
lemma set (h : p.Exclusive) (hold : p.workers[w]? = some old)
    (hlocked : new.hasLock = true → old.hasLock = true ∨ p.isLocked = false)
    (hworkers : p'.workers = p.workers.set w new) : p'.Exclusive := by
  have hsame {w' : Nat} (hw' : p'.HasLock w') :
      w' = w ∧ new.hasLock = true ∨ w' ≠ w ∧ p.HasLock w' := by
    obtain ⟨worker, hworker, hlock⟩ := hw'
    rw [hworkers] at hworker
    rcases eq_or_of_set hold hworker with ⟨rfl, rfl⟩ | ⟨hne, hother⟩
    · exact .inl ⟨rfl, hlock⟩
    · exact .inr ⟨hne, worker, hother, hlock⟩
  have halone (hnew : new.hasLock = true) {w' : Nat} (hne : w' ≠ w) : ¬ p.HasLock w' := by
    intro hw'
    rcases hlocked hnew with hheld | hunlocked
    · exact hne (h w' w hw' ⟨old, hold, hheld⟩)
    · obtain ⟨worker, hworker, hlock⟩ := hw'
      have hall := List.any_eq_false.mp hunlocked worker (List.mem_of_getElem? hworker)
      exact hall hlock
  intro w₁ w₂ hw₁ hw₂
  rcases hsame hw₁ with ⟨rfl, hnew⟩ | ⟨hne₁, hold₁⟩
  · rcases hsame hw₂ with ⟨rfl, -⟩ | ⟨hne₂, hold₂⟩
    · rfl
    · exact absurd hold₂ (halone hnew hne₂)
  · rcases hsame hw₂ with ⟨rfl, hnew⟩ | ⟨-, hold₂⟩
    · exact absurd hold₁ (halone hnew hne₁)
    · exact h w₁ w₂ hold₁ hold₂

lemma turn (h : p.Exclusive) (hturn : p.Turns w old new p') : p'.Exclusive := by
  obtain ⟨queue, -, hnext⟩ := hturn.next
  exact h.set hturn.worker_eq hturn.locked (by rw [hnext])

/-- **One event** leaves at most one worker with the lock. -/
lemma step (h : p.Exclusive) {e : Event} (hstep : p.step? e = some p') : p'.Exclusive := by
  cases e with
  | enqueue op | stop | closeProducers =>
      obtain rfl := Option.some.inj hstep
      exact h
  | look w =>
      obtain ⟨old, new, hturn⟩ := turns_of_look hstep
      exact h.turn hturn
  | lock w =>
      obtain ⟨old, new, hturn⟩ := turns_of_lock hstep
      exact h.turn hturn
  | receive w =>
      obtain ⟨hold, ⟨op, rest, -, rfl⟩ | ⟨hnone, -⟩⟩ := receive?_eq_some hstep
      · exact h.set hold (fun _ => .inl rfl) rfl
      · obtain ⟨old, new, hturn⟩ := turns_of_receive hstep hnone
        exact h.turn hturn
  | leave w =>
      obtain ⟨old, new, hturn⟩ := turns_of_leave hstep
      exact h.turn hturn
  | finish w outcome =>
      obtain ⟨number, op, passed, hold, rfl⟩ := finish?_eq_some hstep
      refine h.set hold (fun hlock => ?_) rfl
      rw [hasLock_sendingOrIdle] at hlock
      cases hlock

end Exclusive

/-! ### Steps with nothing between them -/

@[simp] lemma setWorker_setWorker (p : Pool) (w : Nat) (new newer : Worker) :
    (p.setWorker w new).setWorker w newer = p.setWorker w newer := by
  simp only [setWorker, List.set_set]

@[simp] lemma stopping_setWorker (p : Pool) (w : Nat) (new : Worker) :
    (p.setWorker w new).stopping = p.stopping := rfl

lemma getElem?_setWorker (hold : p.workers[w]? = some old) (new : Worker) :
    (p.setWorker w new).workers[w]? = some new :=
  List.getElem?_set_self (List.getElem?_eq_some_iff.mp hold).1

/-- Whether the lock is taken depends on a worker only by whether it has the lock. -/
lemma isLocked_setWorker (hold : p.workers[w]? = some old) (hlock : new.hasLock = old.hasLock) :
    (p.setWorker w new).isLocked = p.isLocked := by
  have hmap : (p.workers.set w new).map Worker.hasLock = p.workers.map Worker.hasLock := by
    refine List.ext_getElem? fun w' => ?_
    rw [List.map_set, hlock]
    by_cases hw : w = w'
    · subst hw
      rw [List.getElem?_set_self', List.getElem?_map, hold]
      rfl
    · rw [List.getElem?_set_ne hw]
  have hany := congrArg (fun locks => locks.any id) hmap
  simp only [List.any_map, Function.id_comp] at hany
  exact hany

/-- An idle worker that need not stop comes to try to receive, unless another one has the lock. -/
lemma run?_visit (hidle : p.workers[w]? = some .idle) (hgoing : p.stopping = false) :
    p.run? (visit w) = if p.isLocked then none else (p.setWorker w .receiving).receive? w := by
  have hlook : p.look? w = some (p.setWorker w .locking) := by
    simp only [look?, hidle, hgoing, Bool.false_eq_true, if_false]
  have hlocked : (p.setWorker w .locking).isLocked = p.isLocked := isLocked_setWorker hidle rfl
  have hlock : (p.setWorker w .locking).lock? w =
      some (p.setWorker w (if p.isLocked then .idle else .waiting)) := by
    simp only [lock?, getElem?_setWorker hidle, hlocked, setWorker_setWorker]
  simp only [visit, run?, step?, hlook, hlock, Option.bind_some, Option.bind_fun_some]
  cases p.isLocked with
  | true =>
      -- it still waits for the lock and has only looked again
      simp only [if_true, look?, getElem?_setWorker hidle, stopping_setWorker, hgoing,
        Bool.false_eq_true, if_false, setWorker_setWorker, Option.bind_some, receive?]
  | false =>
      simp only [Bool.false_eq_true, if_false, look?, getElem?_setWorker hidle, stopping_setWorker,
        hgoing, setWorker_setWorker, Option.bind_some]

/-- A worker that is not idle does not take these steps. -/
lemma idle_of_run?_visit (hgoing : p.stopping = false) (h : p.run? (visit w) = some p') :
    p.workers[w]? = some .idle := by
  obtain ⟨p₁, hlook, hlater⟩ := Option.bind_eq_some_iff.mp h
  obtain ⟨p₂, hlock, -⟩ := Option.bind_eq_some_iff.mp hlater
  obtain ⟨hstopping, -⟩ | ⟨-, ⟨hidle, -⟩ | ⟨hwaiting, rfl⟩⟩ := look?_eq_some hlook
  · rw [hgoing] at hstopping
    cases hstopping
  · exact hidle
  · have hreceiving := (lock?_eq_some hlock).1
    rw [getElem?_setWorker hwaiting] at hreceiving
    cases hreceiving

/-- An idle worker takes the oldest task. -/
lemma take?_eq_some (h : p.take? w = some p') :
    p.workers[w]? = some .idle ∧ p.stopping = false ∧
      ∃ op rest, p.queue.waiting = op :: rest ∧
        p' = { p with
          queue := { p.queue with waiting := rest, counters := p.queue.counters.dequeue }
          workers := p.workers.set w (p.sendingOrIdle p.queue.counters.dequeued op 0) } := by
  rw [take?] at h
  split at h
  next => cases h
  next hmay =>
      rw [Bool.or_eq_true, List.isEmpty_iff, not_or, Bool.not_eq_true] at hmay
      obtain ⟨hgoing, hsome⟩ := hmay
      have hidle := idle_of_run?_visit hgoing h
      rw [run?_visit hidle hgoing] at h
      split at h
      next => cases h
      next =>
          obtain ⟨-, ⟨op, rest, hwaiting, rfl⟩ | ⟨hnone, -⟩⟩ := receive?_eq_some h
          · refine ⟨hidle, hgoing, op, rest, hwaiting, ?_⟩
            simp only [setWorker, List.set_set]
            rfl
          · exact absurd hnone hsome

/-- An idle worker that need not stop takes a task that waits, unless another one has the lock. -/
lemma isSome_take? (hidle : p.workers[w]? = some .idle) (hgoing : p.stopping = false)
    (hunlocked : p.isLocked = false) (hsome : p.queue.waiting ≠ []) :
    (p.take? w).isSome = true := by
  have hwaiting : p.queue.waiting.isEmpty = false := by simpa using hsome
  obtain ⟨op, rest, hcons⟩ := List.exists_cons_of_ne_nil hsome
  have hqueue : (p.setWorker w .receiving).queue.waiting = op :: rest := hcons
  rw [take?, hgoing, hwaiting, if_neg (by simp), run?_visit hidle hgoing, hunlocked,
    if_neg (by simp), receive?, getElem?_setWorker hidle]
  simp only [SendQueue.take, hqueue, Option.isSome_some]

/-- Exiting adds no task. -/
lemma exists_run?_of_exit? (h : p.exit? w = some p') :
    ∃ events, p.run? events = some p' ∧ ∀ op, .enqueue op ∉ events := by
  rw [exit?] at h
  split at h
  next =>
      refine ⟨_, h, ?_⟩
      split
      · simp
      · simp [visit]
  next => cases h

/-- A worker that exits is idle. The last one closes the queue. -/
lemma exit?_eq_some (h : p.exit? w = some p') :
    p.workers[w]? = some .idle ∧ p.mayExit = true ∧
      p' = { p with
        queue := if (p.setWorker w .exited).finished then p.queue.close else p.queue
        workers := p.workers.set w .exited } := by
  rw [exit?] at h
  split at h
  next hmay =>
      obtain ⟨hidle, hmay⟩ := hmay
      rw [run?_append] at h
      obtain ⟨p₁, hbefore, hlast⟩ := Option.bind_eq_some_iff.mp h
      obtain ⟨p₂, hleave, hsame⟩ := Option.bind_eq_some_iff.mp hlast
      obtain rfl := Option.some.inj hsame
      have hchanged : p₁ = p.setWorker w .leaving := by
        cases hstopping : p.stopping with
        | true =>
            simp only [hstopping, if_true, run?, step?, look?, hidle, Option.bind_some] at hbefore
            exact (Option.some.inj hbefore).symm
        | false =>
            rw [mayExit, hstopping, Bool.false_or, Bool.and_eq_true, List.isEmpty_iff,
              Bool.not_eq_true'] at hmay
            simp only [hstopping, Bool.false_eq_true, if_false,
              run?_visit hidle hstopping] at hbefore
            split at hbefore
            next => cases hbefore
            next =>
                obtain ⟨-, ⟨op, rest, hwaiting, -⟩ | ⟨-, ⟨hproducing, -⟩ | ⟨-, rfl⟩⟩⟩ :=
                  receive?_eq_some hbefore
                · rw [show p.queue.waiting = op :: rest from hwaiting] at hmay
                  cases hmay.2
                · rw [show p.producing = true from hproducing] at hmay
                  cases hmay.1
                · exact setWorker_setWorker p w .receiving .leaving
      obtain ⟨-, rfl⟩ := leave?_eq_some hleave
      refine ⟨hidle, hmay, ?_⟩
      rw [hchanged, setWorker_setWorker]
      simp only [setWorker, List.set_set]
  next => cases h

end Pool

end ReplicatedCache
