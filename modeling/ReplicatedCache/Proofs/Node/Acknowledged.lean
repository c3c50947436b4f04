/-
What a running node does, told by its acknowledged operations alone.

* `Cache.drive`: a cache that is read and changed at given moments, with no node around it;
* `Host.Input`, `Host.Effect`: what can happen to a running node, and what comes of it;
* `Host.reactAll`: a run, in which records may fail to be written and the receiving end of the
  queue may take tasks or be dropped;
* `Host.entered`: the tasks that enter the queue during a run;
* `Host.react_call`: **one call**: it is acknowledged, or changes the log at most;
* `Host.outbox_react`, `Effect.counts_onQueue`, `Effect.waiting_onQueue`: **the queue**: it follows
  the acknowledged calls;
* `Host.Erases`, `Host.reactAll_eq_acknowledged`: **erasure**: failed calls leave no trace in the
  cache, in the queue or in the number of records, and the queue has no influence on what clients
  are answered.
-/
import ReplicatedCache.Proofs.Node.Calls

namespace ReplicatedCache

namespace Cache

/-- What a node does with its cache. -/
inductive Use where
  | read (key : String)
  | change (op : Operation)
  deriving DecidableEq, Repr

/-- Reads and changes a cache, each at its moment: the values read, and the cache after it. -/
def drive (c : Cache) : List (Use × Moment) → List (Option String) × Cache
  | [] => ([], c)
  | (.read key, now) :: uses =>
      let (value, c) := c.get key now
      let (values, c) := c.drive uses
      (value :: values, c)
  | (.change op, now) :: uses => (c.apply op now).drive uses

end Cache

namespace Host

/-- What can happen to a running node. -/
inductive Input where
  | read (key : String) (now : Moment)
  | call (call : Call) (now : Moment)
  /-- The receiving end of the queue takes the oldest task. -/
  | take
  /-- The receiving end of the queue is dropped. -/
  | drop
  deriving DecidableEq, Repr

/-- What comes of it. -/
inductive Effect where
  | found (key : String) (value : Option String) (now : Moment)
  | acknowledged (call : Call) (now : Moment)
  | failed (call : Call) (fault : Fault)
  | taken (task : Option Operation)
  | dropped

namespace Effect

/-- The use of the cache behind an effect: failed calls make none. -/
def use? : Effect → Option (Cache.Use × Moment)
  | found key _ now => some (.read key, now)
  | acknowledged call now => some (.change call.op, now)
  | failed _ _ | taken _ | dropped => none

/-- The answer to a read. -/
def value? : Effect → Option (Option String)
  | found _ value _ => some value
  | acknowledged _ _ | failed _ _ | taken _ | dropped => none

/-- The acknowledged put or delete of a client. -/
def forwarded? : Effect → Option Operation
  | acknowledged call _ => if call.forwards then some call.op else none
  | found _ _ _ | failed _ _ | taken _ | dropped => none

/-- The task that was taken. -/
def task? : Effect → Option Operation
  | taken task => task
  | found _ _ _ | acknowledged _ _ | failed _ _ | dropped => none

/-- What a client is answered; whoever takes tasks is none. -/
def answer? : Effect → Option Effect
  | taken _ | dropped => none
  | found key value now => some (found key value now)
  | acknowledged call now => some (acknowledged call now)
  | failed call fault => some (failed call fault)

def isAcknowledged : Effect → Bool
  | acknowledged _ _ => true
  | found _ _ _ | failed _ _ | taken _ | dropped => false

/-- Whether the receiving end outlives the effect. -/
def keepsReceiver : Effect → Bool
  | dropped => false
  | found _ _ _ | acknowledged _ _ | failed _ _ | taken _ => true

end Effect

/-- What happens on one input. -/
def react (h : Host) : Input → Effect × Host
  | .read key now =>
      let (value, h) := h.get key now
      (.found key value now, h)
  | .call call now =>
      match h.carryOut call now with
      | (.ok (), h) => (.acknowledged call now, h)
      | (.error fault, h) => (.failed call fault, h)
  | .take => (.taken h.outbox.take.1, h.withQueue (h.node.queue.map (·.take.2)))
  | .drop => (.dropped, h.withQueue (h.node.queue.map SendQueue.close))

/-- What happens on several inputs, one after the other. -/
def reactAll (h : Host) : List Input → List Effect × Host
  | [] => ([], h)
  | i :: inputs =>
      let (effect, h) := h.react i
      let (effects, h) := h.reactAll inputs
      (effect :: effects, h)

lemma reactAll_cons (h : Host) (i : Input) (inputs : List Input) :
    h.reactAll (i :: inputs) =
      ((h.react i).1 :: ((h.react i).2.reactAll inputs).1, ((h.react i).2.reactAll inputs).2) :=
  rfl

/-- The tasks that enter the queue during a run: what each input adds behind those that wait. -/
def entered (h : Host) : List Input → List Operation
  | [] => []
  | i :: inputs =>
      (h.react i).2.outbox.waiting.drop h.outbox.waiting.length ++ (h.react i).2.entered inputs

/-! ### One input -/

/-- **One call** is acknowledged, and then changes the cache and, if it is passed on, the queue; or
it fails, and then changes the log at most. -/
lemma react_call (h : Host) (call : Call) (now : Moment) :
    (∃ h₁, h.record call.op = (.ok (), h₁) ∧ h.react (.call call now) =
      (.acknowledged call now, ⟨⟨h.node.cache.apply call.op now, h₁.node.log,
        if call.forwards then h.node.queue.map fun q => (q.enqueue call.op).2
        else h.node.queue⟩, h₁.disk⟩)) ∨
    ∃ fault h₁, h.record call.op = (.error fault, h₁) ∧ h.react (.call call now) =
      (.failed call fault, ⟨⟨h.node.cache, h₁.node.log, h.node.queue⟩, h₁.disk⟩) := by
  rcases carryOut_cases h call now with ⟨h₁, hrecord, hdone⟩ | ⟨fault, h₁, hrecord, hfailed⟩
  · exact .inl ⟨h₁, hrecord, by rw [react, hdone]⟩
  · exact .inr ⟨fault, h₁, hrecord, by rw [react, hfailed]⟩

namespace Effect

/-- What an effect does to the queue. -/
def onQueue (q : SendQueue) : Effect → SendQueue
  | acknowledged call _ => if call.forwards then (q.enqueue call.op).2 else q
  | taken _ => q.take.2
  | dropped => q.close
  | found _ _ _ | failed _ _ => q

/-- The task that an effect adds to the queue, which takes none once nobody reads it. -/
def entering (q : SendQueue) (e : Effect) : List Operation :=
  if q.receiving then e.forwarded?.toList else []

/-- An effect counts the task that it adds, and only one drops the receiving end. -/
lemma counts_onQueue (q : SendQueue) (e : Effect) :
    (e.onQueue q).receiving = (q.receiving && e.keepsReceiver) ∧
      (e.onQueue q).counters.enqueued = q.counters.enqueued + (e.entering q).length := by
  cases e with
  | acknowledged call now =>
      cases hf : call.forwards with
      | false => simp [onQueue, keepsReceiver, entering, forwarded?, hf]
      | true =>
          cases hq : q.receiving <;> simp [onQueue, keepsReceiver, entering, forwarded?, hf, hq]
  | taken task => simp [onQueue, keepsReceiver, entering, forwarded?]
  | dropped => simp [onQueue, keepsReceiver, entering, forwarded?, SendQueue.close]
  | found key value now => simp [onQueue, keepsReceiver, entering, forwarded?]
  | failed call fault => simp [onQueue, keepsReceiver, entering, forwarded?]

/-- The task that enters stands behind those that wait, and the one that is taken comes off the
front. -/
lemma waiting_onQueue (q : SendQueue) (e : Effect)
    (htask : ∀ task, e = .taken task → task = q.take.1) :
    (e.onQueue q).waiting.drop q.waiting.length = e.entering q ∧
      (e.keepsReceiver = true →
        e.task?.toList ++ (e.onQueue q).waiting = q.waiting ++ e.entering q) := by
  cases e with
  | acknowledged call now =>
      cases hf : call.forwards with
      | false => simp [onQueue, task?, entering, forwarded?, hf]
      | true => cases hq : q.receiving <;> simp [onQueue, task?, entering, forwarded?, hf, hq]
  | taken task =>
      obtain rfl := htask task rfl
      have htake := q.take_waiting
      have hlength : q.take.2.waiting.length ≤ q.waiting.length := by
        rw [← htake, List.length_append]
        omega
      simp [onQueue, task?, entering, forwarded?, htake, hlength]
  | dropped => simp [onQueue, keepsReceiver, entering, forwarded?, SendQueue.close]
  | found key value now => simp [onQueue, task?, entering, forwarded?]
  | failed call fault => simp [onQueue, task?, entering, forwarded?]

/-- Only dropping the receiving end drops it. -/
lemma eq_dropped {e : Effect} (h : e.keepsReceiver = false) : e = dropped := by
  cases e with
  | dropped => rfl
  | found key value now => cases h
  | acknowledged call now => cases h
  | failed call fault => cases h
  | taken task => cases h

end Effect

/-- A change that leaves a queue alone which nobody reads, acts on every node alike. -/
lemma map_getD_close {f : SendQueue → SendQueue} (hf : f (SendQueue.close {}) = SendQueue.close {})
    (queue : Option SendQueue) :
    (queue.map f).getD (SendQueue.close {}) = f (queue.getD (SendQueue.close {})) := by
  have h := Option.getD_map f (SendQueue.close {}) queue
  rwa [hf] at h

/-- **The queue** follows the effects. -/
lemma outbox_react (h : Host) (i : Input) :
    (h.react i).2.outbox = (h.react i).1.onQueue h.outbox := by
  cases i with
  | read key now => rfl
  | call call now =>
      rcases react_call h call now with ⟨h₁, -, hreact⟩ | ⟨fault, h₁, -, hreact⟩
      · rw [hreact, Effect.onQueue, outbox]
        cases call.forwards with
        | false => rfl
        | true => exact map_getD_close (f := fun q => (q.enqueue call.op).2) rfl _
      · rw [hreact]
        rfl
  | take => exact map_getD_close (f := fun q => q.take.2) rfl _
  | drop => exact map_getD_close rfl _

/-- A task that is taken is the oldest one. -/
lemma task_react (h : Host) (i : Input) :
    ∀ task, (h.react i).1 = .taken task → task = h.outbox.take.1 := by
  intro task htask
  cases i with
  | read key now => cases htask
  | call call now =>
      rcases react_call h call now with ⟨h₁, -, hreact⟩ | ⟨fault, h₁, -, hreact⟩
      · rw [hreact] at htask
        cases htask
      · rw [hreact] at htask
        cases htask
  | take =>
      cases htask
      rfl
  | drop => cases htask

lemma keepsReceiver_react (h : Host) {i : Input} (hi : i ≠ .drop) :
    (h.react i).1.keepsReceiver = true := by
  cases i with
  | read key now => rfl
  | call call now =>
      rcases react_call h call now with ⟨h₁, -, hreact⟩ | ⟨fault, h₁, -, hreact⟩
      · rw [hreact]
        rfl
      · rw [hreact]
        rfl
  | take => rfl
  | drop => exact absurd rfl hi

/-- What an input adds to the queue. -/
lemma added_react (h : Host) (i : Input) :
    (h.react i).2.outbox.waiting.drop h.outbox.waiting.length =
      (h.react i).1.entering h.outbox := by
  rw [outbox_react]
  exact ((h.react i).1.waiting_onQueue h.outbox (h.task_react i)).1

/-- Whether a record is written does not depend on the queue. -/
lemma record_withQueue (h : Host) (queue : Option SendQueue) (op : Operation) :
    (h.withQueue queue).record op = ((h.record op).1, (h.record op).2.withQueue queue) := by
  cases hlog : h.node.log with
  | none => simp only [record, withQueue, hlog]
  | some w => simp only [record, withQueue, hlog]

/-- **Another queue** changes no answer to a client, and nothing but the queue. -/
lemma react_withQueue (h : Host) (queue : Option SendQueue) (i : Input) :
    ((h.withQueue queue).react i).1.answer? = (h.react i).1.answer? ∧
      ∃ queue', ((h.withQueue queue).react i).2 = (h.react i).2.withQueue queue' := by
  cases i with
  | read key now => exact ⟨rfl, queue, rfl⟩
  | call call now =>
      have hsame := h.record_withQueue queue call.op
      rcases react_call h call now with ⟨h₁, hrecord, hreact⟩ | ⟨fault, h₁, hrecord, hreact⟩
      · rw [hrecord] at hsame
        rw [react, carryOut_ok hsame, hreact]
        exact ⟨rfl, _, rfl⟩
      · rw [hrecord] at hsame
        rw [react, carryOut_error hsame, hreact]
        exact ⟨rfl, _, rfl⟩
  | take => exact ⟨rfl, _, rfl⟩
  | drop => exact ⟨rfl, _, rfl⟩

/-- A record counts if it is written. -/
lemma records_record (h : Host) (op : Operation) :
    (h.record op).2.node.log.map (·.records) =
      h.node.log.map fun w => w.records + if (h.record op).1.isOk then 1 else 0 := by
  cases hlog : h.node.log with
  | none => simp only [record, hlog, Option.map_none]
  | some w =>
      cases hdisk : h.disk.append w.device w.fsync (LogWriter.line w.torn op) with
      | mk fault disk =>
          simp only [record, hlog, LogWriter.append, hdisk]
          cases fault with
          | none => rfl
          | some fault => rfl

/-- An acknowledged call counts as one record. -/
lemma records_react (h : Host) (i : Input) :
    (h.react i).2.node.log.map (·.records) =
      h.node.log.map fun w => w.records + if (h.react i).1.isAcknowledged then 1 else 0 := by
  cases i with
  | read key now => rfl
  | call call now =>
      have hrecords := h.records_record call.op
      rcases react_call h call now with ⟨h₁, hrecord, hreact⟩ | ⟨fault, h₁, hrecord, hreact⟩
      · rw [hrecord] at hrecords
        rw [hreact]
        exact hrecords
      · rw [hrecord] at hrecords
        rw [hreact]
        exact hrecords
  | take => rfl
  | drop => rfl

/-! ### Runs -/

/-- **The cache** is driven by the reads and the acknowledged calls alone. -/
lemma drive_reactAll (h : Host) (inputs : List Input) :
    h.node.cache.drive ((h.reactAll inputs).1.filterMap Effect.use?) =
      ((h.reactAll inputs).1.filterMap Effect.value?, (h.reactAll inputs).2.node.cache) := by
  induction inputs generalizing h with
  | nil => rfl
  | cons i inputs ih =>
      have hrest := ih (h.react i).2
      cases i with
      | read key now =>
          exact congrArg (fun r : List (Option String) × Cache =>
            ((h.node.cache.get key now).1 :: r.1, r.2)) hrest
      | call call now =>
          rcases react_call h call now with ⟨h₁, -, hreact⟩ | ⟨fault, h₁, -, hreact⟩
          · rw [hreact] at hrest
            rw [reactAll_cons, hreact]
            exact hrest
          · rw [hreact] at hrest
            rw [reactAll_cons, hreact]
            exact hrest
      | take => exact hrest
      | drop => exact hrest

/-- **The tasks that enter** are those of the acknowledged calls that are passed on, until the
receiving end is dropped. -/
lemma entered_eq (h : Host) (inputs : List Input) :
    h.entered inputs =
      if h.outbox.receiving then
        ((h.reactAll inputs).1.takeWhile Effect.keepsReceiver).filterMap Effect.forwarded?
      else [] := by
  induction inputs generalizing h with
  | nil => exact (ite_self _).symm
  | cons i inputs ih =>
      have hreceiving := ((h.react i).1.counts_onQueue h.outbox).1
      rw [← outbox_react] at hreceiving
      rw [entered, added_react, ih, hreceiving, reactAll_cons, Effect.entering]
      cases h.outbox.receiving with
      | false => rfl
      | true =>
          cases hkeeps : (h.react i).1.keepsReceiver with
          | true =>
              rw [List.takeWhile_cons_of_pos hkeeps, List.filterMap_cons]
              cases (h.react i).1.forwarded? with
              | none => rfl
              | some op => rfl
          | false =>
              rw [Effect.eq_dropped hkeeps]
              rfl

/-- They are counted. -/
lemma enqueued_reactAll (h : Host) (inputs : List Input) :
    (h.reactAll inputs).2.outbox.counters.enqueued =
      h.outbox.counters.enqueued + (h.entered inputs).length := by
  induction inputs generalizing h with
  | nil => rfl
  | cons i inputs ih =>
      have hcount := ((h.react i).1.counts_onQueue h.outbox).2
      rw [← outbox_react] at hcount
      rw [reactAll_cons, ih, hcount, entered, added_react, List.length_append, Nat.add_assoc]

/-- As long as the receiving end is not dropped, the tasks that are taken and those that wait in the
end are those that waited first and those that entered. -/
lemma taken_append_waiting (h : Host) {inputs : List Input} (hinputs : .drop ∉ inputs) :
    (h.reactAll inputs).1.filterMap Effect.task? ++ (h.reactAll inputs).2.outbox.waiting =
      h.outbox.waiting ++ h.entered inputs := by
  induction inputs generalizing h with
  | nil => exact (List.append_nil _).symm
  | cons i inputs ih =>
      rw [List.mem_cons, not_or] at hinputs
      have hwaiting := ((h.react i).1.waiting_onQueue h.outbox (h.task_react i)).2
        (h.keepsReceiver_react (Ne.symm hinputs.1))
      rw [← outbox_react] at hwaiting
      calc (h.reactAll (i :: inputs)).1.filterMap Effect.task? ++
            (h.reactAll (i :: inputs)).2.outbox.waiting
          = (h.react i).1.task?.toList ++
              (((h.react i).2.reactAll inputs).1.filterMap Effect.task? ++
                ((h.react i).2.reactAll inputs).2.outbox.waiting) := by
            rw [reactAll_cons, List.filterMap_cons]
            cases (h.react i).1.task? with
            | none => rfl
            | some op => rfl
        _ = (h.react i).1.task?.toList ++ ((h.react i).2.outbox.waiting ++
              (h.react i).2.entered inputs) := by rw [ih _ hinputs.2]
        _ = h.outbox.waiting ++ h.entered (i :: inputs) := by
            rw [← List.append_assoc, hwaiting, entered, added_react, List.append_assoc]

/-- **Another queue** changes no answer to a client. -/
lemma answers_withQueue (h : Host) (queue : Option SendQueue) (inputs : List Input) :
    ((h.withQueue queue).reactAll inputs).1.filterMap Effect.answer? =
      (h.reactAll inputs).1.filterMap Effect.answer? := by
  induction inputs generalizing h queue with
  | nil => rfl
  | cons i inputs ih =>
      obtain ⟨hanswer, queue', hrest⟩ := h.react_withQueue queue i
      rw [reactAll_cons, reactAll_cons, List.filterMap_cons, List.filterMap_cons, hanswer, hrest,
        ih]

/-- The acknowledged calls are counted as records. -/
lemma records_reactAll (h : Host) (inputs : List Input) :
    (h.reactAll inputs).2.node.log.map (·.records) =
      h.node.log.map fun w =>
        w.records + (h.reactAll inputs).1.countP Effect.isAcknowledged := by
  induction inputs generalizing h with
  | nil => simp [reactAll]
  | cons i inputs ih =>
      have hcount (n : Nat) : (h.react i).2.node.log.map (fun w => w.records + n) =
          h.node.log.map fun w =>
            w.records + (if (h.react i).1.isAcknowledged then 1 else 0) + n := by
        have hone := congrArg (Option.map (· + n)) (h.records_react i)
        rwa [Option.map_map, Option.map_map] at hone
      rw [reactAll_cons, ih, hcount, List.countP_cons]
      refine congrArg (fun f => h.node.log.map f) (funext fun w => ?_)
      omega

/-- What is true of a run of a node with these inputs. -/
structure Erases (h : Host) (inputs : List Input) : Prop where
  /-- Reads are answered, and the cache is left, as if the cache alone had been read and changed by
  the acknowledged calls at the same moments. -/
  cache_eq : h.node.cache.drive ((h.reactAll inputs).1.filterMap Effect.use?) =
    ((h.reactAll inputs).1.filterMap Effect.value?, (h.reactAll inputs).2.node.cache)
  /-- The tasks that enter the queue are the acknowledged puts and deletes of clients while the
  receiving end is there. -/
  entered_eq : h.entered inputs =
    if h.outbox.receiving then
      ((h.reactAll inputs).1.takeWhile Effect.keepsReceiver).filterMap Effect.forwarded?
    else []
  /-- Each of them is counted once. -/
  enqueued_eq : (h.reactAll inputs).2.outbox.counters.enqueued =
    h.outbox.counters.enqueued + (h.entered inputs).length
  /-- Until the receiving end is dropped, each of them is taken or waits. -/
  taken_eq : .drop ∉ inputs →
    (h.reactAll inputs).1.filterMap Effect.task? ++ (h.reactAll inputs).2.outbox.waiting =
      h.outbox.waiting ++ h.entered inputs
  /-- Clients are answered as with any other queue, or with none. -/
  answers_eq : ∀ queue, ((h.withQueue queue).reactAll inputs).1.filterMap Effect.answer? =
    (h.reactAll inputs).1.filterMap Effect.answer?
  /-- The number of records grows by that of the acknowledged calls. -/
  records_eq : (h.reactAll inputs).2.node.log.map (·.records) =
    h.node.log.map fun w => w.records + (h.reactAll inputs).1.countP Effect.isAcknowledged

/-- **Erasure**: failed calls leave no trace in the cache, in the queue or in the number of records,
whatever the device of the log answers, and whatever becomes of the queue. -/
theorem reactAll_eq_acknowledged (h : Host) (inputs : List Input) : h.Erases inputs where
  cache_eq := h.drive_reactAll inputs
  entered_eq := h.entered_eq inputs
  enqueued_eq := h.enqueued_reactAll inputs
  taken_eq := h.taken_append_waiting
  answers_eq := fun queue => h.answers_withQueue queue inputs
  records_eq := h.records_reactAll inputs

/-- A device that accepts one record and breaks off inside the next one. -/
theorem reactAll_eq_acknowledged_failing_device :
    let h : Host := ⟨⟨Cache.empty 2 none, some (.attach 0), some {}⟩,
      ⟨#[.scripted [] [.whole, .part 3, .fails (.other "disk full")] [] 0 0], #[[]]⟩⟩
    let inputs : List Input := [.call (.put "a" "1") 0, .call (.put "b" "2") 1,
      .call (.receive (.put "c" "3")) 2, .take, .call (.put "d" "4") 3, .read "c" 4]
    (h.reactAll inputs).2.node.cache.entries 4 = [("c", "3"), ("d", "4")] ∧
      (h.reactAll inputs).1.filterMap Effect.task? ++ (h.reactAll inputs).2.outbox.waiting =
        [.put "a" "1", .put "d" "4"] ∧
      (h.reactAll inputs).2.outbox.counters.enqueued = 2 ∧
      (h.reactAll inputs).2.node.log.map (·.records) = some 3 := by
  intro h inputs
  have hrun := reactAll_eq_acknowledged h inputs
  have hentries : (h.node.cache.drive ((h.reactAll inputs).1.filterMap Effect.use?)).2.entries 4 =
      [("c", "3"), ("d", "4")] := by decide +kernel
  have hentered : h.entered inputs = [.put "a" "1", .put "d" "4"] := by decide +kernel
  have hcount : (h.reactAll inputs).1.countP Effect.isAcknowledged = 3 := by decide +kernel
  refine ⟨?_, ?_, ?_, ?_⟩
  · simp only [hrun.cache_eq] at hentries
    exact hentries
  · rw [hrun.taken_eq (by decide), hentered]
    rfl
  · rw [hrun.enqueued_eq, hentered]
    rfl
  · rw [hrun.records_eq, hcount]
    rfl

end Host

end ReplicatedCache
