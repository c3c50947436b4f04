/-
What a node answers over its whole life, told by the changes it has accepted: restarts that rebuild
a smaller or larger cache from the log bring no old value back.

* `Host.Act`: a read, a call, or a restart that may change the setup, at its moment;
* `Host.actAll`: a node through several of them;
* `Host.mutations`: the operations of the calls among them;
* `Host.Tells`: **the invariant**: the log says all of these operations, and the cache holds nothing
  older than the last of them on each key;
* `Tells.act`: **one act** succeeds and keeps it;
* `last_of_found`: **no stale value**: what a node finds or lists was put there by the last
  operation on its key.
-/
import ReplicatedCache.Proofs.Cache.Freshness
import ReplicatedCache.Proofs.Node.Restart

namespace ReplicatedCache.Host

/-- What happens to a node, and when. A restart leaves nothing of the node but its disk. -/
inductive Act where
  | read (key : String) (now : Moment)
  | call (call : Call) (now : Moment)
  | restart (capacity : Nat) (ttl : Option Nat) (fsync : Bool) (queue : Option SendQueue)
      (now : Moment)

namespace Act

/-- The operation of an act, if it is a call. -/
def op? : Act → Option Operation
  | call c _ => some c.op
  | read _ _ | restart _ _ _ _ _ => none

/-- An act whose key and value are accepted, if it is a call. -/
def Accepted : Act → Prop
  | call c _ => c.Accepted
  | read _ _ | restart _ _ _ _ _ => True

instance : (a : Act) → Decidable a.Accepted
  | call c _ => inferInstanceAs (Decidable c.Accepted)
  | read _ _ | restart _ _ _ _ _ => inferInstanceAs (Decidable True)

end Act

/-- The operations of some acts, in their order. -/
def mutations (acts : List Act) : List Operation := acts.filterMap Act.op?

/-- One act on a node whose log is at a path: a call and a restart have to succeed. -/
def act (path : String) (h : Host) : Act → Except Fault Host
  | .read key now => .ok (h.get key now).2
  | .call c now =>
      match h.carryOut c now with
      | (.ok (), h) => .ok h
      | (.error fault, _) => .error fault
  | .restart capacity ttl fsync queue now =>
      start ⟨capacity, ttl, some path, fsync⟩ queue h.disk now

/-- Several acts, one after the other. -/
def actAll (path : String) : Host → List Act → Except Fault Host
  | h, [] => .ok h
  | h, a :: acts => (h.act path a).bind fun h => h.actAll path acts

/-- **The invariant**: the log says all operations so far, and the cache holds nothing older than
the last of them on each key. -/
structure Tells (h : Host) (path : String) (ops : List Operation) : Prop where
  log : ∃ log, h.Logs path log ∧ Log.records log = ops
  fresh : h.node.cache.Fresh ops

variable {path : String} {h : Host} {ops : List Operation}

/-- **One act** succeeds and keeps the invariant. -/
lemma Tells.act (ht : h.Tells path ops) {a : Act} (ha : a.Accepted) :
    ∃ h', h.act path a = .ok h' ∧ h'.Tells path (ops ++ a.op?.toList) := by
  obtain ⟨⟨log, hl, hrecords⟩, hfresh⟩ := ht
  cases a with
  | read key now =>
      refine ⟨_, rfl, ?_⟩
      rw [Act.op?, Option.toList_none, List.append_nil]
      exact ⟨⟨log, ⟨hl.writer, hl.endsLine⟩, hrecords⟩, hfresh.get key now⟩
  | call c now =>
      have hop := Record.oneLine_of_check ha
      obtain ⟨h', hdone, hl', hcache⟩ := hl.carryOut c now
      refine ⟨h', by rw [Host.act, hdone], ⟨_, hl', ?_⟩, ?_⟩
      · rw [Log.records_append hl.endsLine, Log.records_line hop, hrecords]
        rfl
      · rw [hcache]
        exact hfresh.apply c.op now
  | restart capacity ttl fsync queue now =>
      -- the new cache has seen no operation but those of the log
      have hpath : (NodeSetup.mk capacity ttl (some path) fsync).logPath = some path := rfl
      obtain ⟨h', hstart, hl', hcache⟩ := hl.restart hpath queue now
      refine ⟨h', hstart, ?_⟩
      rw [Act.op?, Option.toList_none, List.append_nil]
      refine ⟨⟨log, hl', hrecords⟩, ?_⟩
      rw [hcache, Log.replay_snd, hrecords]
      exact (Cache.fresh_empty capacity ttl).applyAll ops now

/-- **A run** succeeds and keeps the invariant. -/
lemma Tells.actAll (ht : h.Tells path ops) {acts : List Act} (hacts : ∀ a ∈ acts, a.Accepted) :
    ∃ h', h.actAll path acts = .ok h' ∧ h'.Tells path (ops ++ mutations acts) := by
  induction acts generalizing h ops with
  | nil => exact ⟨h, rfl, by simpa [mutations] using ht⟩
  | cons a acts ih =>
      rw [List.forall_mem_cons] at hacts
      obtain ⟨h₁, hact, ht₁⟩ := ht.act hacts.1
      obtain ⟨h', hrun, ht'⟩ := ih ht₁ hacts.2
      have hmutations : mutations (a :: acts) = a.op?.toList ++ mutations acts := by
        rw [mutations, List.filterMap_cons]
        cases a.op? with
        | none => rfl
        | some op => rfl
      refine ⟨h', ?_, ?_⟩
      · rw [Host.actAll, hact]
        exact hrun
      · rw [hmutations, ← List.append_assoc]
        exact ht'

/-! ### From the start -/

variable {setup : NodeSetup} {disk : Disk} {queue : Option SendQueue} {now : Moment}

/-- A log that is missing, or empty once it has been opened, is replayed to nothing. -/
lemma replayFile_of_empty {report : Log.Report} {c cache : Cache} {fsync : Bool}
    (hreplay : Log.replayFile disk path c now = (.ok report, cache))
    (hempty : (LogWriter.openAt disk path fsync).2.fileContent path = some []) : cache = c := by
  cases hresolve : disk.resolve path with
  | ok entry =>
      cases entry with
      | directory id =>
          simp only [Log.replayFile, Disk.read, hresolve] at hreplay
          cases hreplay
      | device id =>
          rw [(Disk.hasFile_of_openAt_nil hresolve hempty).replayFile_eq, Log.replay_snd] at hreplay
          exact (Prod.mk.inj hreplay).2.symm
  | error fault =>
      simp only [Log.replayFile, Disk.read, hresolve] at hreplay
      split at hreplay
      next => exact (Prod.mk.inj hreplay).2.symm
      next => cases hreplay

/-- **A node whose log is empty at first** has seen no operation. -/
lemma tells_start (hpath : setup.logPath = some path) (hstart : start setup queue disk now = .ok h)
    (hempty : h.disk.fileContent path = some []) : h.Tells path [] := by
  obtain ⟨report, cache, w, disk', hreplay, hopen, rfl⟩ := start_eq_ok hpath hstart
  obtain ⟨id, hfile⟩ := Disk.hasFile_of_fileContent hempty
  obtain rfl := Disk.eq_of_openAt hopen hfile.resolve_eq
  have hopened : (LogWriter.openAt disk path setup.fsync).2.fileContent path = some [] := by
    rwa [hopen]
  have hcache := replayFile_of_empty hreplay hopened
  refine ⟨⟨[], ⟨⟨_, rfl, rfl, hfile⟩, Log.endsLine_nil⟩, rfl⟩, ?_⟩
  rw [hcache]
  exact Cache.fresh_empty setup.capacity setup.ttl

/-- **No stale value**: on a node whose log is empty at first, whatever is called, read and
restarted with whatever capacity and time to live, all of it succeeds, and what is found or listed
in the end is what the last operation on its key has put there. So a value that was overwritten is
not found again, and a key that was deleted last is not found at all. -/
theorem last_of_found (setup : NodeSetup) (path : String) (hpath : setup.logPath = some path)
    (queue : Option SendQueue) (disk : Disk) (now : Moment) (h₀ : Host)
    (hstart : start setup queue disk now = .ok h₀)
    (hempty : h₀.disk.fileContent path = some []) (acts : List Act)
    (hacts : ∀ a ∈ acts, a.Accepted) :
    ∃ h, h₀.actAll path acts = .ok h ∧ ∀ key value t,
      ((h.get key t).1 = some value → lastOn (mutations acts) key = some (.put key value)) ∧
        ((key, value) ∈ h.node.cache.entries t →
          lastOn (mutations acts) key = some (.put key value)) := by
  obtain ⟨h, hrun, ht⟩ := (tells_start hpath hstart hempty).actAll hacts
  rw [List.nil_append] at ht
  exact ⟨h, hrun, fun key value t => ⟨ht.fresh.last_of_get, ht.fresh.last_of_entries⟩⟩

/-- A key that is deleted after it was evicted, and a restart with room for it. -/
theorem last_of_found_evicted :
    let h₀ : Host := ⟨⟨Cache.empty 1 none, some ⟨2, some "wal", false, 0, false⟩, none⟩,
      ⟨#[.null, .full, .file []], #[[("dev", .directory 1), ("wal", .device 2)],
        [("null", .device 0), ("full", .device 1)]]⟩⟩
    start ⟨1, none, some "wal", false⟩ none Disk.empty 0 = .ok h₀ ∧
      ∃ h, h₀.actAll "wal" [.call (.put "a" "1") 1, .call (.put "b" "2") 2, .read "a" 3,
          .call (.delete "a") 4, .restart 10 (some 60) true none 5] = .ok h ∧
        ∀ t, (h.get "a" t).1 = none := by
  intro h₀
  have hstart : start ⟨1, none, some "wal", false⟩ none Disk.empty 0 = .ok h₀ := rfl
  obtain ⟨h, hrun, hlast⟩ := last_of_found ⟨1, none, some "wal", false⟩ "wal" rfl none Disk.empty 0
    h₀ hstart (by decide) [.call (.put "a" "1") 1, .call (.put "b" "2") 2, .read "a" 3,
      .call (.delete "a") 4, .restart 10 (some 60) true none 5] (by decide)
  refine ⟨hstart, h, hrun, fun t => ?_⟩
  cases hget : (h.get "a" t).1 with
  | none => rfl
  | some value =>
      have hput : some (Operation.delete "a") = some (.put "a" value) := (hlast "a" value t).1 hget
      cases hput

end ReplicatedCache.Host
