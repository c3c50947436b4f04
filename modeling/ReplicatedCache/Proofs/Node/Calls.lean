/-
The calls that change a node, and what each of them does to its log and its cache.

* `Call`: a put or a delete of a client, or an operation received from a primary;
* `Host.carryOut`: carrying out a call;
* `Host.carryOut_ok`, `Host.carryOut_error`: **one call**: all that it does to a node, depending on
  whether its record is written;
* `Host.carryOut_cases`: one of the two;
* `Host.receive_of_record`, `Host.receive_of_fault`: the same for an operation that is received;
* `Host.carryOut_done`, `Host.carryOut_failed`: the same for a node with a log.
-/
import ReplicatedCache.Node.Basic
import ReplicatedCache.Proofs.Log.Writing

namespace ReplicatedCache

/-- A call that changes a node. -/
inductive Call where
  | put (key value : String)
  | delete (key : String)
  | receive (op : Operation)
  deriving DecidableEq, Repr

namespace Call

/-- The operation of a call. -/
def op : Call → Operation
  | put key value => .put key value
  | delete key => .delete key
  | receive op => op

/-- Whether the operation is passed on to replicas. -/
def forwards : Call → Bool
  | receive _ => false
  | _ => true

/-- The call with which a client asks for an operation. -/
def ofClient : Operation → Call
  | .put key value => .put key value
  | .delete key => .delete key

@[simp] lemma op_ofClient (op : Operation) : (ofClient op).op = op := by
  cases op with
  | put key value => rfl
  | delete key => rfl

@[simp] lemma forwards_ofClient (op : Operation) : (ofClient op).forwards = true := by
  cases op with
  | put key value => rfl
  | delete key => rfl

/-- A call whose key and value are accepted. -/
def Accepted (call : Call) : Prop := call.op.check = none

instance (call : Call) : Decidable call.Accepted :=
  inferInstanceAs (Decidable (call.op.check = none))

end Call

namespace Host

variable {h : Host} {call : Call} {op : Operation} {w w' : LogWriter} {disk' : Disk}
  {fault : Fault}

/-- Carries out a call. -/
def carryOut (h : Host) (call : Call) (now : Moment) : Except Fault Unit × Host :=
  match call with
  | .put key value => h.put key value now
  | .delete key => h.delete key now
  | .receive op => h.receive op now

/-- All calls are carried out in one way. -/
lemma carryOut_eq (h : Host) (call : Call) (now : Moment) :
    h.carryOut call now = h.perform call.op call.forwards now := by
  cases call with
  | put key value => rfl
  | delete key => rfl
  | receive op => rfl

/-- Writing a record leaves the cache alone. -/
@[simp] lemma cache_record (h : Host) (op : Operation) :
    (h.record op).2.node.cache = h.node.cache := by
  rw [record]
  split <;> rfl

/-- Writing a record leaves the queue alone. -/
@[simp] lemma queue_record (h : Host) (op : Operation) :
    (h.record op).2.node.queue = h.node.queue := by
  rw [record]
  split <;> rfl

/-- Queueing an operation changes the queue, if there is one. -/
lemma enqueue_eq (h : Host) (op : Operation) :
    h.enqueue op =
      ⟨{ h.node with queue := h.node.queue.map fun q => (q.enqueue op).2 }, h.disk⟩ := by
  obtain ⟨⟨cache, log, queue⟩, disk⟩ := h
  cases queue with
  | none => rfl
  | some queue => rfl

/-- **A call whose record is written** changes the cache and, if it is passed on, the queue. -/
lemma carryOut_ok {h₁ : Host} (hrecord : h.record call.op = (.ok (), h₁)) (now : Moment) :
    h.carryOut call now =
      (.ok (), ⟨⟨h.node.cache.apply call.op now, h₁.node.log,
        if call.forwards then h.node.queue.map fun q => (q.enqueue call.op).2
        else h.node.queue⟩, h₁.disk⟩) := by
  have hcache := h.cache_record call.op
  have hqueue := h.queue_record call.op
  rw [hrecord] at hcache hqueue
  rw [carryOut_eq, perform, hrecord, ← hcache, ← hqueue]
  cases call.forwards with
  | false => rfl
  | true => exact congrArg (Prod.mk (Except.ok ())) (enqueue_eq _ call.op)

/-- **A call whose record is not written** changes the log at most. -/
lemma carryOut_error {h₁ : Host} (hrecord : h.record call.op = (.error fault, h₁)) (now : Moment) :
    h.carryOut call now =
      (.error fault, ⟨⟨h.node.cache, h₁.node.log, h.node.queue⟩, h₁.disk⟩) := by
  have hcache := h.cache_record call.op
  have hqueue := h.queue_record call.op
  rw [hrecord] at hcache hqueue
  rw [carryOut_eq, perform, hrecord, ← hcache, ← hqueue]

/-- **One call**: it is acknowledged, and then changes the cache and, if it is passed on, the queue;
or it fails, and then changes the log at most. -/
lemma carryOut_cases (h : Host) (call : Call) (now : Moment) :
    (∃ h₁, h.record call.op = (.ok (), h₁) ∧ h.carryOut call now =
      (.ok (), ⟨⟨h.node.cache.apply call.op now, h₁.node.log,
        if call.forwards then h.node.queue.map fun q => (q.enqueue call.op).2
        else h.node.queue⟩, h₁.disk⟩)) ∨
    ∃ fault h₁, h.record call.op = (.error fault, h₁) ∧ h.carryOut call now =
      (.error fault, ⟨⟨h.node.cache, h₁.node.log, h.node.queue⟩, h₁.disk⟩) := by
  cases hrecord : h.record call.op with
  | mk result h₁ =>
      cases result with
      | ok u => exact .inl ⟨h₁, rfl, carryOut_ok hrecord now⟩
      | error fault => exact .inr ⟨fault, h₁, rfl, carryOut_error hrecord now⟩

/-- An operation is received exactly if it is logged. -/
lemma receive_fst (h : Host) (op : Operation) (now : Moment) :
    (h.receive op now).1 = (h.record op).1 := by
  rw [receive, perform]
  rcases h.record op with ⟨result, h₁⟩
  cases result with
  | ok u => rfl
  | error fault => rfl

/-- **What it is to receive** an operation that is logged. -/
lemma receive_of_record (h : Host) (hrecord : (h.record op).1 = .ok ()) (now : Moment) :
    (h.receive op now).2 = ⟨⟨h.node.cache.apply op now, (h.record op).2.node.log, h.node.queue⟩,
      (h.record op).2.disk⟩ := by
  have hcall : h.record (Call.receive op).op = (.ok (), (h.record op).2) := Prod.ext hrecord rfl
  exact congrArg Prod.snd (carryOut_ok hcall now)

/-- **What it is to receive** an operation that cannot be logged. -/
lemma receive_of_fault (h : Host) {fault : Fault} (hrecord : (h.record op).1 = .error fault)
    (now : Moment) :
    (h.receive op now).2 =
      ⟨⟨h.node.cache, (h.record op).2.node.log, h.node.queue⟩, (h.record op).2.disk⟩ := by
  have hcall : h.record (Call.receive op).op = (.error fault, (h.record op).2) :=
    Prod.ext hrecord rfl
  exact congrArg Prod.snd (carryOut_error hcall now)

/-- On a node with a log, a call whose record is written changes the cache. -/
lemma carryOut_done (hlog : h.node.log = some w)
    (happend : w.append h.disk call.op = (.ok (), w', disk')) (now : Moment) :
    ∃ queue, h.carryOut call now =
      (.ok (), ⟨⟨h.node.cache.apply call.op now, some w', queue⟩, disk'⟩) := by
  have hrecord : h.record call.op = (.ok (), ⟨{ h.node with log := some w' }, disk'⟩) := by
    rw [record, hlog]
    simp only [happend]
  exact ⟨_, carryOut_ok hrecord now⟩

/-- On a node with a log, a call whose record is not written leaves the cache alone. -/
lemma carryOut_failed (hlog : h.node.log = some w)
    (happend : w.append h.disk call.op = (.error fault, w', disk')) (now : Moment) :
    h.carryOut call now = (.error fault, ⟨⟨h.node.cache, some w', h.node.queue⟩, disk'⟩) := by
  have hrecord : h.record call.op = (.error fault, ⟨{ h.node with log := some w' }, disk'⟩) := by
    rw [record, hlog]
    simp only [happend]
  exact carryOut_error hrecord now

end Host

end ReplicatedCache
