/-
Calls on a log whose device may fail at any write and any flush.

* `Outcome`: what became of a call: whether it was acknowledged, and the bytes its record left;
* `Host.carryOutAll`: several calls, one after the other, failed ones included;
* `Writes`: **the invariant**: the cache holds the acknowledged operations, and the log ends a
  line unless the last attempt failed;
* `Writes.carryOut`: **one call**: what its record left is read apart from what was there;
* `entries_replay_eq_iff`: **durability**: the log gives the live entries if and only if the
  leftovers of failed calls that read as records change nothing;
* `entries_replay_eq_of_clean`: which is so if there are none.
-/
import ReplicatedCache.Proofs.Log.File
import ReplicatedCache.Proofs.Log.Meaning
import ReplicatedCache.Proofs.Node.Calls

namespace ReplicatedCache.Host

open Log (entriesAfter)

/-- What became of a call. -/
structure Outcome where
  op : Operation
  acknowledged : Bool
  /-- The bytes that the log took while the call was carried out. -/
  written : Bytes

namespace Outcome

/-- The operations that a call applies to the cache. -/
def applied (o : Outcome) : List Operation := if o.acknowledged then [o.op] else []

/-- The operations that a call leaves in the log: its own if it is acknowledged, and else what the
bytes read as that were written all the same. -/
def logged (o : Outcome) : List Operation :=
  if o.acknowledged then [o.op] else Log.records o.written

/-- Whether a call leaves nothing in the log unless it is acknowledged. -/
def Clean (o : Outcome) : Prop := o.acknowledged = false → o.logged = []

/-- Whether a call leaves at most one record in the log, which is its own or, if the call is not
acknowledged, a shortened one. -/
def Bounded (o : Outcome) : Prop :=
  o.logged = [] ∨ ∃ op, Record.Shortened o.op op ∧ o.logged = [op]

end Outcome

/-- The outcome of a call. -/
def outcome (h : Host) (call : Call) (now : Moment) : Outcome where
  op := call.op
  acknowledged := (h.carryOut call now).1.isOk
  written := (h.carryOut call now).2.logBytes.drop h.logBytes.length

/-- Carries out several calls, one after the other, whether they succeed or not. -/
def carryOutAll (h : Host) : List (Call × Moment) → List Outcome × Host
  | [] => ([], h)
  | (call, now) :: calls =>
      let (outcomes, h') := (h.carryOut call now).2.carryOutAll calls
      (h.outcome call now :: outcomes, h')

/-- A new node whose log is a device without a name, on the disk with that device. -/
def onDevice (setup : NodeSetup) (queue : Option SendQueue) (disk : Disk) (id : Nat)
    (start : Moment) : Host :=
  ⟨(Node.onDevice setup queue disk id start).2, disk⟩

/-- **The invariant of a node whose device may fail**: the cache holds the acknowledged operations,
and the log ends a line unless the last attempt failed. -/
structure Writes (h : Host) (capacity : Nat) (log : Bytes) (ops : List Operation) : Prop where
  writer : ∃ w device, h.node.log = some w ∧ h.disk.device? w.device = some device ∧
    device.Keeping ∧ device.content = log ∧ (w.torn = false → Log.EndsLine log)
  stores : h.node.cache.Stores (max capacity 1) (Contents.applyAll (max capacity 1) [] ops)

variable {h : Host} {capacity : Nat} {log : Bytes} {ops : List Operation}

lemma Writes.logBytes_eq (hw : h.Writes capacity log ops) : h.logBytes = log := by
  obtain ⟨w, device, hlog, hdevice, -, rfl, -⟩ := hw.writer
  rw [logBytes, hlog]
  simp only [Disk.contentOf, hdevice]

/-- **One call**: what its record left is read apart from what was there, and the cache changes
only if the call is acknowledged. -/
lemma Writes.carryOut (hw : h.Writes capacity log ops) {call : Call} (hcall : call.Accepted)
    (now : Moment) :
    ∃ log', (h.carryOut call now).2.Writes capacity log' (ops ++ (h.outcome call now).applied) ∧
      Log.records log' = Log.records log ++ (h.outcome call now).logged ∧
      (h.outcome call now).Bounded := by
  have hlogBytes := hw.logBytes_eq
  obtain ⟨w, device, hlog, hdevice, hkeeping, rfl, htorn⟩ := hw.writer
  have hop := Record.oneLine_of_check hcall
  obtain ⟨hfault, hdevice'⟩ := Disk.device?_append hdevice w.fsync (LogWriter.line w.torn call.op)
  obtain ⟨hkeeping', accepted, hstart, hcontent, hall⟩ :=
    Device.append_keeping hkeeping w.fsync (LogWriter.line w.torn call.op)
  have hrecords := Log.records_append_accepted htorn hstart
  rw [← hcontent] at hrecords
  refine ⟨(device.append w.fsync (LogWriter.line w.torn call.op)).2.content, ?_⟩
  cases hresult : (device.append w.fsync (LogWriter.line w.torn call.op)).1 with
  | none =>
      obtain rfl := hall hresult
      obtain ⟨queue, hdone⟩ := carryOut_done hlog
        (LogWriter.append_done (Prod.ext (hfault.trans hresult) rfl)) now
      have hack : (h.outcome call now).acknowledged = true := by
        rw [outcome, hdone]
        rfl
      rw [Outcome.applied, if_pos hack, Outcome.Bounded, Outcome.logged, if_pos hack,
        show (h.outcome call now).op = call.op from rfl]
      refine ⟨⟨?_, ?_⟩, ?_, .inr ⟨call.op, Record.shortened_refl hop, rfl⟩⟩
      · rw [hdone]
        exact ⟨_, _, rfl, hdevice', hkeeping', rfl, fun _ => hcontent ▸ Log.endsLine_line _ _⟩
      · rw [hdone, Contents.applyAll_concat]
        exact hw.stores.apply call.op now
      · rw [hrecords, Log.records_whole_line w.torn hop]
  | some fault =>
      -- the call fails, but what the device accepted stays in the log
      have hdisk : h.disk.append w.device w.fsync (LogWriter.line w.torn call.op) =
          (some fault, (h.disk.append w.device w.fsync (LogWriter.line w.torn call.op)).2) :=
        Prod.ext (hfault.trans hresult) rfl
      obtain ⟨fault', happend⟩ := LogWriter.append_failed hdisk
      have hfailed := carryOut_failed hlog happend now
      have hack : ¬ (h.outcome call now).acknowledged = true := by
        rw [outcome, hfailed]
        exact Bool.false_ne_true
      rw [Outcome.applied, if_neg hack, Outcome.Bounded, Outcome.logged, if_neg hack,
        List.append_nil]
      have hnew : (h.carryOut call now).2.Writes capacity
          (device.append w.fsync (LogWriter.line w.torn call.op)).2.content ops := by
        rw [hfailed]
        exact ⟨⟨_, _, rfl, hdevice', hkeeping', rfl, fun h => by cases h⟩, hw.stores⟩
      have hwritten : (h.outcome call now).written = accepted := by
        rw [outcome, hnew.logBytes_eq, hlogBytes, hcontent, List.drop_left]
      rw [hwritten]
      exact ⟨hnew, hrecords, Log.records_accepted hop hstart⟩

/-- **A run**: what the calls left is read call by call, and the cache holds what was
acknowledged. -/
lemma Writes.carryOutAll (hw : h.Writes capacity log ops) {calls : List (Call × Moment)}
    (hcalls : ∀ c ∈ calls, c.1.Accepted) :
    ∃ log', (h.carryOutAll calls).2.Writes capacity log'
        (ops ++ (h.carryOutAll calls).1.flatMap Outcome.applied) ∧
      Log.records log' = Log.records log ++ (h.carryOutAll calls).1.flatMap Outcome.logged ∧
      ∀ o ∈ (h.carryOutAll calls).1, o.Bounded := by
  induction calls generalizing h log ops with
  | nil =>
      rw [Host.carryOutAll, List.flatMap_nil, List.flatMap_nil, List.append_nil]
      exact ⟨log, hw, (List.append_nil _).symm, List.forall_mem_nil _⟩
  | cons c calls ih =>
      obtain ⟨call, now⟩ := c
      rw [List.forall_mem_cons] at hcalls
      obtain ⟨log₁, hw₁, hlogged, hbounded⟩ := hw.carryOut hcalls.1 now
      obtain ⟨log', hw', hrecords, hall⟩ := ih hw₁ hcalls.2
      refine ⟨log', ?_, ?_, ?_⟩
      · rw [Host.carryOutAll, List.flatMap_cons, ← List.append_assoc]
        exact hw'
      · rw [Host.carryOutAll, List.flatMap_cons, ← List.append_assoc, ← hlogged]
        exact hrecords
      · exact List.forall_mem_cons.mpr ⟨hbounded, hall⟩

/-- A new node on an empty device. -/
lemma writes_onDevice {setup : NodeSetup} (httl : setup.ttl = none) (queue : Option SendQueue)
    {disk : Disk} {id : Nat} {device : Device} (hdevice : disk.device? id = some device)
    (hkeeping : device.Keeping) (hempty : device.content = []) (start : Moment) :
    (onDevice setup queue disk id start).Writes setup.capacity [] [] := by
  have hcontent : disk.contentOf id = [] := by
    simp only [Disk.contentOf, hdevice, hempty]
  refine ⟨⟨LogWriter.attach id, device, rfl, hdevice, hkeeping, hempty,
    fun _ => Log.endsLine_nil⟩, ?_⟩
  rw [onDevice, Node.onDevice, hcontent, httl]
  exact Log.stores_replay (Cache.stores_empty setup.capacity) [] start

/-- What a log gives when it is replayed, and what the node holds that wrote it. -/
lemma Writes.entries_eq (hw : h.Writes capacity log ops) (now : Moment) :
    (Log.replay h.logBytes (Cache.empty capacity none) now).2.entries now =
        entriesAfter capacity (Log.records log) now ∧
      h.node.cache.entries now = entriesAfter capacity ops now := by
  rw [hw.logBytes_eq, Log.entries_replay, hw.stores.entries_eq, Log.entriesAfter_eq capacity ops]
  exact ⟨rfl, rfl⟩

/-- **Durability**: on a device that answers writes and flushes by any script, a failed call leaves
at most one record in the log, which is a shortened one of its own; and a replay of the log gives
the live entries if and only if the operations of these records, carried out between those that
were acknowledged, change nothing in the end. -/
theorem entries_replay_eq_iff (setup : NodeSetup) (httl : setup.ttl = none)
    (queue : Option SendQueue) (disk : Disk) (id : Nat) (writes : List WriteAnswer)
    (flushes : List (Option DeviceFault)) (writeCalls flushCalls : Nat)
    (hdevice : disk.device? id = some (.scripted [] writes flushes writeCalls flushCalls))
    (start : Moment) (calls : List (Call × Moment)) (hcalls : ∀ c ∈ calls, c.1.Accepted) :
    let run := (onDevice setup queue disk id start).carryOutAll calls
    (∀ o ∈ run.1, o.Bounded) ∧
      ((∀ now, (Log.replay run.2.logBytes (Cache.empty setup.capacity none) now).2.entries now =
          run.2.node.cache.entries now) ↔
        ∀ now, entriesAfter setup.capacity (run.1.flatMap Outcome.logged) now =
          entriesAfter setup.capacity (run.1.flatMap Outcome.applied) now) := by
  intro run
  have hstart := writes_onDevice httl queue hdevice trivial rfl start
  obtain ⟨log, hw, hrecords, hbounded⟩ := hstart.carryOutAll hcalls
  rw [Log.records_nil, List.nil_append] at hrecords
  refine ⟨hbounded, ?_⟩
  constructor
  · intro h now
    obtain ⟨hreplay, hlive⟩ := hw.entries_eq now
    rw [hrecords] at hreplay
    exact (hreplay.symm.trans (h now)).trans hlive
  · intro h now
    obtain ⟨hreplay, hlive⟩ := hw.entries_eq now
    rw [hrecords] at hreplay
    exact (hreplay.trans (h now)).trans hlive.symm

/-- A put that fails inside its value. -/
theorem entries_replay_eq_iff_cut_value :
    let run := (onDevice ⟨10, none, none, false⟩ none
      ⟨#[.scripted [] [.part 7, .fails (.other "disk full")] [] 0 0], #[[]]⟩ 0 0).carryOutAll
        [(.put "a" "12", 0)]
    (∀ o ∈ run.1, o.Bounded) ∧
      ((∀ now, (Log.replay run.2.logBytes (Cache.empty 10 none) now).2.entries now =
          run.2.node.cache.entries now) ↔
        ∀ now, entriesAfter 10 (run.1.flatMap Outcome.logged) now =
          entriesAfter 10 (run.1.flatMap Outcome.applied) now) :=
  entries_replay_eq_iff ⟨10, none, none, false⟩ rfl none
    ⟨#[.scripted [] [.part 7, .fails (.other "disk full")] [] 0 0], #[[]]⟩ 0
    [.part 7, .fails (.other "disk full")] [] 0 0 rfl 0 [(.put "a" "12", 0)] (by decide)

/-- A log gives the live entries if no failed call has left a record in it. -/
theorem entries_replay_eq_of_clean {setup : NodeSetup} (httl : setup.ttl = none)
    (queue : Option SendQueue) {disk : Disk} {id : Nat} {device : Device}
    (hdevice : disk.device? id = some device) (hkeeping : device.Keeping)
    (hempty : device.content = []) (start : Moment) {calls : List (Call × Moment)}
    (hcalls : ∀ c ∈ calls, c.1.Accepted)
    (hclean : ∀ o ∈ ((onDevice setup queue disk id start).carryOutAll calls).1, o.Clean)
    (now : Moment) :
    (Log.replay ((onDevice setup queue disk id start).carryOutAll calls).2.logBytes
        (Cache.empty setup.capacity none) now).2.entries now =
      ((onDevice setup queue disk id start).carryOutAll calls).2.node.cache.entries now := by
  have hstart := writes_onDevice httl queue hdevice hkeeping hempty start
  obtain ⟨log, hw, hrecords, -⟩ := hstart.carryOutAll hcalls
  rw [Log.records_nil, List.nil_append] at hrecords
  have hsame : ∀ o ∈ ((onDevice setup queue disk id start).carryOutAll calls).1,
      o.logged = o.applied := by
    intro o ho
    cases hack : o.acknowledged with
    | false => rw [hclean o ho hack, Outcome.applied, hack]; rfl
    | true => rw [Outcome.logged, Outcome.applied, hack]; rfl
  obtain ⟨hreplay, hlive⟩ := hw.entries_eq now
  rw [hrecords, List.flatMap_congr hsame] at hreplay
  exact hreplay.trans hlive.symm

/-- The put of `12` fails, and its leftover is replayed as a put of `1`. -/
theorem entries_replay_ne_cut_value :
    ¬ ∀ now, (Log.replay ((onDevice ⟨10, none, none, false⟩ none
          ⟨#[.scripted [] [.part 7, .fails (.other "disk full")] [] 0 0], #[[]]⟩ 0 0).carryOutAll
            [(.put "a" "12", 0)]).2.logBytes (Cache.empty 10 none) now).2.entries now =
        ((onDevice ⟨10, none, none, false⟩ none
          ⟨#[.scripted [] [.part 7, .fails (.other "disk full")] [] 0 0], #[[]]⟩ 0 0).carryOutAll
            [(.put "a" "12", 0)]).2.node.cache.entries now := by
  intro h
  exact absurd (h 0) (by decide)

end ReplicatedCache.Host
