/-
A primary, its sender and its replicas, each of which goes on when it likes.

* `Fleet`: a primary with the pool that reads its queue, and the replicas;
* `Fleet.step?`: one event: a request of a client, or a step of a send: the task is taken, it
  arrives at a replica, and the sender learns that it did;
* `Fleet.run?`: several events, with the operations that the primary acknowledged;
* `Fleet.position`: how many operations have reached a replica;
* `Fleet.Follows`: **the invariant**: each replica holds what the first of the acknowledged
  operations give, as many as have reached it;
* `Follows.step`: **one event** keeps it, and takes no replica back;
* `replicas_converge`: **convergence**: at every moment each replica holds what some first
  operations give, more and more of them, and all of them once the queue is empty and the sender
  idle.
-/
import ReplicatedCache.Proofs.Log.Meaning
import ReplicatedCache.Proofs.Node.Acknowledged
import ReplicatedCache.Proofs.Replication.Steps

namespace ReplicatedCache

/-- A primary and its replicas. The queue of the primary is the one that the sender reads. -/
structure Fleet where
  primary : Host
  sender : Pool
  replicas : List Host
  /-- The replica that the task which is being sent has reached, until the sender learns of it. -/
  arrived : Option Nat

namespace Fleet

/-- What happens in a fleet in which every send succeeds. -/
inductive Event where
  /-- A client asks the primary for an operation. -/
  | request (op : Operation) (now : Moment)
  /-- The sender takes the oldest task. -/
  | take
  /-- The task reaches the replica whose turn it is, which carries it out. -/
  | arrive (now : Moment)
  /-- The sender learns that it did. -/
  | confirm
  deriving DecidableEq, Repr

/-- A fleet with an idle sender and an empty queue. -/
def start (primary : Host) (replicas : List Host) : Fleet :=
  ⟨primary, Pool.start replicas.length 1, replicas, none⟩

/-- One event, if it can happen: the operation that the primary acknowledged, if it did, and the
fleet after it. -/
def step? (f : Fleet) : Event → Option (List Operation × Fleet)
  | .request op now =>
      let done := (f.primary.withQueue (some f.sender.queue)).carryOut (.ofClient op) now
      some (if done.1.isOk then [op] else [],
        { f with primary := done.2, sender := { f.sender with queue := done.2.outbox } })
  | .take => (f.sender.take? 0).map fun sender => ([], { f with sender })
  | .arrive now =>
      match f.sender.workers[0]?, f.arrived with
      | some (Worker.sending _ op passed), none =>
          match f.replicas[passed]? with
          | some r =>
              match r.carryOut (.receive op) now with
              | (.ok (), r) =>
                  some ([], { f with replicas := f.replicas.set passed r, arrived := some passed })
              | (.error _, _) => none
          | none => none
      | _, _ => none
  | .confirm =>
      match f.arrived with
      | some _ => (f.sender.finish? 0 .delivered).map fun sender =>
          ([], { f with sender, arrived := none })
      | none => none

/-- Several events, one after the other: the acknowledged operations, and the fleet after them. -/
def run? (f : Fleet) : List Event → Option (List Operation × Fleet)
  | [] => some ([], f)
  | e :: events => (f.step? e).bind fun (acks, f) =>
      (f.run? events).map fun (acks', f) => (acks ++ acks', f)

/-- The number of sends to a replica that have ended. -/
def sent (f : Fleet) (i : Nat) : Nat := f.sender.attempts.countP fun a => a.replica = i

/-- The number of operations that have reached a replica. -/
def position (f : Fleet) (i : Nat) : Nat := f.sent i + if f.arrived = some i then 1 else 0

/-- How far the sender is: the acknowledged operations are those it is done with, the one it sends,
if any, and those that wait. -/
inductive Progress (f : Fleet) (acks : List Operation) : Prop where
  | idle (done : List Operation) (hworkers : f.sender.workers = [.idle])
      (harrived : f.arrived = none)
      (hacks : acks = done ++ f.sender.queue.waiting)
      (hsent : ∀ i < f.replicas.length, f.sent i = done.length)
  | sending (done : List Operation) (number : Nat) (op : Operation) (passed : Nat)
      (hworkers : f.sender.workers = [.sending number op passed])
      (hpassed : passed < f.replicas.length)
      (harrived : f.arrived = none ∨ f.arrived = some passed)
      (hacks : acks = done ++ op :: f.sender.queue.waiting)
      (hsent : ∀ i < f.replicas.length, f.sent i = done.length + if i < passed then 1 else 0)

/-- **The invariant**: the primary holds what the acknowledged operations give, and each replica
what the first of them give, as many as have reached it. -/
structure Follows (f : Fleet) (capacity : Nat) (acks : List Operation) : Prop where
  receiving : f.sender.queue.receiving = true
  replicas_eq : f.sender.replicas = f.replicas.length
  progress : f.Progress acks
  primary : f.primary.node.cache.Stores (max capacity 1)
    (Contents.applyAll (max capacity 1) [] acks)
  replica : ∀ (i : Nat) (r : Host), f.replicas[i]? = some r → r.node.cache.Stores (max capacity 1)
    (Contents.applyAll (max capacity 1) [] (acks.take (f.position i)))

/-- What an event does to a fleet with that invariant: it keeps it, and takes no replica back. -/
structure Advances (f f' : Fleet) (capacity : Nat) (acks : List Operation) : Prop where
  follows : f'.Follows capacity acks
  length_eq : f'.replicas.length = f.replicas.length
  position_le : ∀ i, f.position i ≤ f'.position i

variable {f f' : Fleet} {capacity : Nat} {acks new : List Operation}

lemma position_of_none (h : f.arrived = none) (i : Nat) : f.position i = f.sent i := by
  rw [position, h]
  rfl

lemma position_of_some {j : Nat} (h : f.arrived = some j) (i : Nat) :
    f.position i = f.sent i + if j = i then 1 else 0 := by
  rw [position, h]
  simp only [Option.some.injEq]

/-- No more operations have reached a replica than were acknowledged. -/
lemma Progress.position_le (h : f.Progress acks) {i : Nat} (hi : i < f.replicas.length) :
    f.position i ≤ acks.length := by
  cases h with
  | idle done hworkers harrived hacks hsent =>
      rw [position_of_none harrived, hsent i hi, hacks, List.length_append]
      omega
  | sending done number op passed hworkers hpassed harrived hacks hsent =>
      rw [hacks, List.length_append, List.length_cons]
      rcases harrived with harrived | harrived
      · rw [position_of_none harrived, hsent i hi]
        split <;> omega
      · rw [position_of_some harrived, hsent i hi]
        -- a replica that the task has reached is not one of those it has passed
        split <;> split <;> omega

/-- What an idle worker says about the progress of the sender. -/
lemma Progress.of_idle (h : f.Progress acks) (hworker : f.sender.workers[0]? = some .idle) :
    f.sender.workers = [.idle] ∧ f.arrived = none ∧ ∃ done,
      acks = done ++ f.sender.queue.waiting ∧
      ∀ i < f.replicas.length, f.sent i = done.length := by
  cases h with
  | idle done hworkers harrived hacks hsent => exact ⟨hworkers, harrived, done, hacks, hsent⟩
  | sending done number op passed hworkers hpassed harrived hacks hsent =>
      rw [hworkers] at hworker
      cases hworker

/-- What a worker that sends says about the progress of the sender. -/
lemma Progress.of_sending (h : f.Progress acks) {number passed : Nat} {op : Operation}
    (hworker : f.sender.workers[0]? = some (.sending number op passed)) :
    f.sender.workers = [.sending number op passed] ∧ passed < f.replicas.length ∧
      (f.arrived = none ∨ f.arrived = some passed) ∧ ∃ done,
        acks = done ++ op :: f.sender.queue.waiting ∧
        ∀ i < f.replicas.length, f.sent i = done.length + if i < passed then 1 else 0 := by
  cases h with
  | idle done hworkers harrived hacks hsent =>
      rw [hworkers] at hworker
      cases hworker
  | sending done number' op' passed' hworkers hpassed harrived hacks hsent =>
      rw [hworkers] at hworker
      obtain ⟨rfl, rfl, rfl⟩ := Worker.sending.inj (Option.some.inj hworker)
      exact ⟨hworkers, hpassed, harrived, done, hacks, hsent⟩

/-! ### One event -/

/-- What a request does: the primary applies the operation and queues it, or does neither. -/
lemma step?_request {op : Operation} {now : Moment} (hreceiving : f.sender.queue.receiving = true)
    (hstep : f.step? (.request op now) = some (new, f')) :
    ∃ primary queue, f' = { f with primary, sender := { f.sender with queue } } ∧
      queue.receiving = true ∧ queue.waiting = f.sender.queue.waiting ++ new ∧
      primary.node.cache = f.primary.node.cache.applyAll new now := by
  rcases Host.carryOut_cases (f.primary.withQueue (some f.sender.queue)) (.ofClient op) now with
    ⟨h₁, -, hdone⟩ | ⟨fault, h₁, -, hdone⟩
  · rw [step?, hdone] at hstep
    obtain ⟨rfl, rfl⟩ := Prod.mk.inj (Option.some.inj hstep)
    refine ⟨_, _, rfl, ?_, ?_, ?_⟩
    · simp [Host.outbox, Host.withQueue, hreceiving]
    · simp [Host.outbox, Host.withQueue, hreceiving, Except.isOk, Except.toBool]
    · rw [Call.op_ofClient]
      rfl
  · rw [step?, hdone] at hstep
    obtain ⟨rfl, rfl⟩ := Prod.mk.inj (Option.some.inj hstep)
    exact ⟨_, _, rfl, hreceiving, (List.append_nil _).symm, rfl⟩

/-- **A request** reaches no replica. -/
lemma Follows.request (h : f.Follows capacity acks) {op : Operation} {now : Moment}
    (hstep : f.step? (.request op now) = some (new, f')) :
    f.Advances f' capacity (acks ++ new) := by
  obtain ⟨primary, queue, rfl, hreceiving, hwaiting, hcache⟩ := step?_request h.receiving hstep
  refine ⟨⟨hreceiving, h.replicas_eq, ?_, ?_, ?_⟩, rfl, fun i => Nat.le_refl _⟩
  · cases h.progress with
    | idle done hworkers harrived hacks hsent =>
        refine .idle done hworkers harrived ?_ hsent
        rw [hacks, hwaiting, List.append_assoc]
    | sending done number op passed hworkers hpassed harrived hacks hsent =>
        refine .sending done number op passed hworkers hpassed harrived ?_ hsent
        rw [hacks, hwaiting, List.append_assoc, List.cons_append]
  · rw [hcache, Contents.applyAll_append]
    exact h.primary.applyAll new now
  · intro i r hr
    have hi : i < f.replicas.length := (List.getElem?_eq_some_iff.mp hr).1
    have htake : (acks ++ new).take (f.position i) = acks.take (f.position i) :=
      List.take_append_of_le_length (h.progress.position_le hi)
    exact htake ▸ h.replica i r hr

/-- **Taking a task** reaches no replica yet; where there are none, the task is done at once. -/
lemma Follows.take (h : f.Follows capacity acks) (hstep : f.step? .take = some (new, f')) :
    f.Advances f' capacity (acks ++ new) := by
  obtain ⟨sender, htake, heq⟩ := Option.map_eq_some_iff.mp hstep
  obtain ⟨rfl, rfl⟩ := Prod.mk.inj heq
  obtain ⟨hworker, -, op, rest, hwaiting, rfl⟩ := Pool.take?_eq_some htake
  obtain ⟨hworkers, harrived, done, hacks, hsent⟩ := h.progress.of_idle hworker
  rw [hwaiting] at hacks
  rw [List.append_nil]
  refine ⟨⟨h.receiving, h.replicas_eq, ?_, h.primary, h.replica⟩, rfl, fun i => Nat.le_refl _⟩
  by_cases hn : 0 < f.replicas.length
  · refine .sending done f.sender.queue.counters.dequeued op 0 ?_ hn (.inl harrived) hacks ?_
    · simp only [hworkers, Pool.sendingOrIdle, h.replicas_eq, if_pos hn, List.set_cons_zero]
    · intro i hi
      rw [if_neg (Nat.not_lt_zero i)]
      exact hsent i hi
  · refine .idle (done ++ [op]) ?_ harrived ?_ fun i hi => absurd (Nat.zero_lt_of_lt hi) hn
    · simp only [hworkers, Pool.sendingOrIdle, h.replicas_eq, if_neg hn, List.set_cons_zero]
    · rw [hacks, List.append_assoc, List.singleton_append]

/-- What the arrival of a task does: the replica whose turn it is carries it out. -/
lemma step?_arrive {now : Moment} (hstep : f.step? (.arrive now) = some (new, f')) :
    ∃ number op passed r r', f.sender.workers[0]? = some (.sending number op passed) ∧
      f.arrived = none ∧ f.replicas[passed]? = some r ∧
      r'.node.cache = r.node.cache.apply op now ∧ new = [] ∧
      f' = { f with replicas := f.replicas.set passed r', arrived := some passed } := by
  rw [step?] at hstep
  split at hstep
  next number op passed hworker harrived =>
      split at hstep
      next r hr =>
          rcases Host.carryOut_cases r (.receive op) now with ⟨h₁, -, hdone⟩ |
            ⟨fault, h₁, -, hdone⟩
          · rw [hdone] at hstep
            obtain ⟨rfl, rfl⟩ := Prod.mk.inj (Option.some.inj hstep)
            exact ⟨number, op, passed, r, _, hworker, harrived, hr, rfl, rfl, rfl⟩
          · rw [hdone] at hstep
            cases hstep
      next => cases hstep
  next => cases hstep

/-- The replica whose turn it is holds what the operations give that the sender is done with, and
the task that it carries out is the next one. -/
lemma Follows.stores_next (h : f.Follows capacity acks) {number passed : Nat} {op : Operation}
    (hworker : f.sender.workers[0]? = some (.sending number op passed))
    (harrived : f.arrived = none) {r : Host} (hr : f.replicas[passed]? = some r) (now : Moment) :
    (r.node.cache.apply op now).Stores (max capacity 1)
      (Contents.applyAll (max capacity 1) [] (acks.take (f.sent passed + 1))) := by
  obtain ⟨-, hpassed, -, done, hacks, hsent⟩ := h.progress.of_sending hworker
  have hdone : f.sent passed = done.length := by
    rw [hsent passed hpassed, if_neg (Nat.lt_irrefl passed), Nat.add_zero]
  have hbefore := h.replica passed r hr
  rw [position_of_none harrived, hdone, hacks, List.take_left] at hbefore
  rw [hdone, hacks, List.take_length_add_append, List.take_one, List.head?_cons,
    Option.toList_some, Contents.applyAll_concat]
  exact hbefore.apply op now

/-- **An arrival** takes one replica further by one operation. -/
lemma Follows.arrive (h : f.Follows capacity acks) {now : Moment}
    (hstep : f.step? (.arrive now) = some (new, f')) :
    f.Advances f' capacity (acks ++ new) := by
  obtain ⟨number, op, passed, r, r', hworker, harrived, hr, hcache, rfl, rfl⟩ := step?_arrive hstep
  obtain ⟨hworkers, hpassed, -, done, hacks, hsent⟩ := h.progress.of_sending hworker
  have hlength : (f.replicas.set passed r').length = f.replicas.length := List.length_set
  have hold := position_of_none harrived
  have hnew (i : Nat) : position { f with
      replicas := f.replicas.set passed r', arrived := some passed } i =
        f.sent i + if passed = i then 1 else 0 := position_of_some rfl i
  rw [List.append_nil]
  refine ⟨⟨h.receiving, h.replicas_eq.trans hlength.symm, ?_, h.primary, ?_⟩, hlength, ?_⟩
  · exact .sending done number op passed hworkers (hlength ▸ hpassed) (.inr rfl) hacks
      (hlength ▸ hsent)
  · intro i s hs
    have hs' : (f.replicas.set passed r')[i]? = some s := hs
    rw [hnew]
    by_cases hi : passed = i
    · subst hi
      rw [List.getElem?_set_self hpassed] at hs'
      obtain rfl := Option.some.inj hs'
      rw [hcache, if_pos rfl]
      exact h.stores_next hworker harrived hr now
    · rw [List.getElem?_set_ne hi] at hs'
      rw [if_neg hi, Nat.add_zero, ← hold]
      exact h.replica i s hs'
  · intro i
    rw [hold, hnew]
    exact Nat.le_add_right _ _

/-- What a confirmation does: the send that has arrived ends. -/
lemma step?_confirm (hstep : f.step? .confirm = some (new, f')) :
    ∃ number op passed sender, f.sender.workers[0]? = some (.sending number op passed) ∧
      f.arrived ≠ none ∧ new = [] ∧ f' = { f with sender, arrived := none } ∧
      sender = { f.sender with
        queue := { f.sender.queue with counters := f.sender.queue.counters.deliver }
        workers := f.sender.workers.set 0 (f.sender.sendingOrIdle number op (passed + 1))
        attempts := f.sender.attempts ++ [⟨number, op, passed, .delivered⟩] } := by
  rw [step?] at hstep
  split at hstep
  next i harrived =>
      obtain ⟨sender, hfinish, heq⟩ := Option.map_eq_some_iff.mp hstep
      obtain ⟨rfl, rfl⟩ := Prod.mk.inj heq
      obtain ⟨number, op, passed, hworker, rfl⟩ := Pool.finish?_eq_some hfinish
      refine ⟨number, op, passed, _, hworker, ?_, rfl, rfl, rfl⟩
      rw [harrived]
      exact Option.some_ne_none i
  next => cases hstep

/-- **A confirmation** reaches no further replica: the sender turns to the next one, or is done with
the task. -/
lemma Follows.confirm (h : f.Follows capacity acks) (hstep : f.step? .confirm = some (new, f')) :
    f.Advances f' capacity (acks ++ new) := by
  obtain ⟨number, op, passed, sender, hworker, hsome, rfl, rfl, hsender⟩ := step?_confirm hstep
  obtain ⟨hworkers, hpassed, harrived, done, hacks, hsent⟩ := h.progress.of_sending hworker
  have harrived := harrived.resolve_left hsome
  have hsent' (i : Nat) : sent { f with sender, arrived := none } i =
      f.sent i + if passed = i then 1 else 0 := by
    rw [sent, hsender, List.countP_append, List.countP_singleton]
    simp only [decide_eq_true_eq]
    rfl
  have hposition (i : Nat) : position { f with sender, arrived := none } i = f.position i := by
    rw [position_of_some harrived, position_of_none rfl, hsent']
  rw [List.append_nil]
  refine ⟨⟨?_, ?_, ?_, h.primary, fun i r hr => ?_⟩, rfl, fun i => (hposition i).ge⟩
  · rw [hsender]
    exact h.receiving
  · rw [hsender]
    exact h.replicas_eq
  · by_cases hmore : passed + 1 < f.replicas.length
    · refine .sending done number op (passed + 1) ?_ hmore (.inl rfl) ?_ fun i hi => ?_
      · simp only [hsender, hworkers, Pool.sendingOrIdle, h.replicas_eq, if_pos hmore,
          List.set_cons_zero]
      · rw [hsender]
        exact hacks
      · rw [hsent', hsent i hi]
        split <;> split <;> split <;> omega
    · refine .idle (done ++ [op]) ?_ rfl ?_ fun i hi => ?_
      · simp only [hsender, hworkers, Pool.sendingOrIdle, h.replicas_eq, if_neg hmore,
          List.set_cons_zero]
      · rw [hsender, hacks, List.append_assoc, List.singleton_append]
      · -- this was the last replica
        have hi' : i < f.replicas.length := hi
        rw [hsent', hsent i hi, List.length_append, List.length_singleton]
        split <;> split <;> omega
  · rw [hposition]
    exact h.replica i r hr

/-- **One event** keeps the invariant, and takes no replica back. -/
lemma Follows.step (h : f.Follows capacity acks) {e : Event} (hstep : f.step? e = some (new, f')) :
    f.Advances f' capacity (acks ++ new) := by
  cases e with
  | request op now => exact h.request hstep
  | take => exact h.take hstep
  | arrive now => exact h.arrive hstep
  | confirm => exact h.confirm hstep

/-! ### Runs -/

/-- **A run** keeps the invariant, and takes no replica back. -/
lemma Follows.run (h : f.Follows capacity acks) {events : List Event}
    (hrun : f.run? events = some (new, f')) :
    f.Advances f' capacity (acks ++ new) := by
  induction events generalizing f acks new with
  | nil =>
      obtain ⟨rfl, rfl⟩ := Prod.mk.inj (Option.some.inj hrun)
      rw [List.append_nil]
      exact ⟨h, rfl, fun i => Nat.le_refl _⟩
  | cons e events ih =>
      obtain ⟨⟨first, f₁⟩, hstep, hevents⟩ := Option.bind_eq_some_iff.mp hrun
      obtain ⟨⟨rest, f₂⟩, hrest, heq⟩ := Option.map_eq_some_iff.mp hevents
      obtain ⟨rfl, rfl⟩ := Prod.mk.inj heq
      have hfirst := h.step hstep
      have hlast := ih hfirst.follows hrest
      rw [← List.append_assoc]
      exact ⟨hlast.follows, hlast.length_eq.trans hfirst.length_eq,
        fun i => (hfirst.position_le i).trans (hlast.position_le i)⟩

/-- A fleet whose caches are empty has acknowledged nothing. -/
lemma follows_start {primary : Host} {replicas : List Host}
    (hprimary : primary.node.cache = .empty capacity none)
    (hreplicas : ∀ r ∈ replicas, r.node.cache = .empty capacity none) :
    (start primary replicas).Follows capacity [] := by
  refine ⟨rfl, rfl, .idle [] rfl rfl rfl fun i _ => rfl, ?_, fun i r hr => ?_⟩
  · show primary.node.cache.Stores _ _
    rw [hprimary]
    exact Cache.stores_empty capacity
  · rw [hreplicas r (List.mem_of_getElem? hr), List.take_nil]
    exact Cache.stores_empty capacity

/-- While the queue is empty and the sender idle, every acknowledged operation has reached every
replica. -/
lemma Progress.position_eq (h : f.Progress acks) (hwaiting : f.sender.queue.waiting = [])
    (hidle : f.sender.workers = [.idle]) {i : Nat} (hi : i < f.replicas.length) :
    f.position i = acks.length := by
  cases h with
  | idle done hworkers harrived hacks hsent =>
      rw [position_of_none harrived, hsent i hi, hacks, hwaiting, List.append_nil]
  | sending done number op passed hworkers hpassed harrived hacks hsent =>
      rw [hidle] at hworkers
      cases hworkers

/-- **Convergence**: whatever clients ask of a primary, whether its appends succeed or fail, and
however the requests, the sends and their arrivals are interleaved,

* at every moment each replica holds what some first acknowledged operations give, and later on what
  as many or more of them give;
* the primary holds what all of them give;
* whenever the queue is empty and the sender idle, every replica holds what the primary does, in the
  same order. -/
theorem replicas_converge (capacity : Nat) (primary : Host) (replicas : List Host)
    (hprimary : primary.node.cache = .empty capacity none)
    (hreplicas : ∀ r ∈ replicas, r.node.cache = .empty capacity none)
    (before after : List Event) (acks acks' : List Operation) (f f' : Fleet)
    (hbefore : (start primary replicas).run? before = some (acks, f))
    (hafter : f.run? after = some (acks', f')) :
    f.replicas.length = replicas.length ∧
      (∀ (i : Nat) (r : Host), f.replicas[i]? = some r →
        (∀ now, r.node.cache.entries now =
          Log.entriesAfter capacity (acks.take (f.position i)) now) ∧
        acks.take (f.position i) <+: (acks ++ acks').take (f'.position i)) ∧
      (∀ now, f.primary.node.cache.entries now = Log.entriesAfter capacity acks now) ∧
      (f.sender.queue.waiting = [] → f.sender.workers = [.idle] →
        ∀ r ∈ f.replicas, ∀ now, r.node.cache.entries now = f.primary.node.cache.entries now) := by
  obtain ⟨h, hlength, -⟩ := (follows_start hprimary hreplicas).run hbefore
  rw [List.nil_append] at h
  have hlater := (h.run hafter).position_le
  refine ⟨hlength, fun i r hr => ⟨fun now => ?_, ?_⟩, fun now => ?_, ?_⟩
  · rw [(h.replica i r hr).entries_eq, Log.entriesAfter_eq]
  · have hi : i < f.replicas.length := (List.getElem?_eq_some_iff.mp hr).1
    calc acks.take (f.position i)
        = (acks ++ acks').take (f.position i) :=
          (List.take_append_of_le_length (h.progress.position_le hi)).symm
      _ <+: (acks ++ acks').take (f'.position i) := List.take_prefix_take_left (hlater i)
  · rw [h.primary.entries_eq, Log.entriesAfter_eq]
  · intro hwaiting hidle r hr now
    obtain ⟨i, hi, rfl⟩ := List.getElem_of_mem hr
    have hstores := h.replica i f.replicas[i] (List.getElem?_eq_getElem hi)
    rw [h.progress.position_eq hwaiting hidle hi, List.take_length] at hstores
    rw [hstores.entries_eq, h.primary.entries_eq]

/-- Two replicas with room for one entry, and a primary that fails to log the second of three puts
while the first one is on its way. -/
theorem replicas_converge_failed_append :
    let primary : Host := ⟨⟨.empty 1 none, some (.attach 0), none⟩,
      ⟨#[.scripted [] [.whole, .fails (.other "disk full")] [] 0 0], #[[]]⟩⟩
    let replica : Host := ⟨⟨.empty 1 none, none, none⟩, ⟨#[], #[[]]⟩⟩
    ∃ f, (start primary [replica, replica]).run? [.request (.put "a" "1") 0, .take, .arrive 1,
        .request (.put "b" "2") 2, .confirm, .request (.put "c" "3") 3, .arrive 4, .confirm, .take,
        .arrive 5, .confirm, .arrive 6, .confirm] = some ([.put "a" "1", .put "c" "3"], f) ∧
      ∀ r ∈ f.replicas, r.node.cache.entries 7 = [("c", "3")] := by
  intro primary replica
  have hrun : ((start primary [replica, replica]).run? [.request (.put "a" "1") 0, .take, .arrive 1,
      .request (.put "b" "2") 2, .confirm, .request (.put "c" "3") 3, .arrive 4, .confirm, .take,
      .arrive 5, .confirm, .arrive 6, .confirm]).map
        (fun r => (r.1, r.2.sender.queue.waiting, r.2.sender.workers)) =
      some ([.put "a" "1", .put "c" "3"], [], [.idle]) := by decide
  obtain ⟨⟨acks, f⟩, hrun, heq⟩ := Option.map_eq_some_iff.mp hrun
  obtain ⟨rfl, hrest⟩ := Prod.mk.inj heq
  obtain ⟨hwaiting, hidle⟩ := Prod.mk.inj hrest
  obtain ⟨-, -, hprimary, hall⟩ := replicas_converge 1 primary [replica, replica] rfl
    (by simp [replica]) _ [] _ [] f f hrun rfl
  refine ⟨f, hrun, fun r hr => ?_⟩
  rw [hall hwaiting hidle r hr, hprimary]
  decide

end Fleet

end ReplicatedCache
