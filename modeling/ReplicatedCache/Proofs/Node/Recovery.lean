/-
What a node finds again after a restart: the recent puts, whatever had become of them in memory.

The order of use that a restart rebuilds is that of the log, where reads, evictions and expiries
leave no trace, and not that of the memory which is lost. So what counts is only which keys were put
behind a put, and how many entries the new node has room for.

* `Logs.get_restart`: **one restart**: a put that the log holds is found, if fewer other keys than
  the new capacity were put behind it;
* `get_restarted`: **recovery**: so it is at the end of every run of a node, whatever happened.
-/
import ReplicatedCache.Proofs.Cache.Survival
import ReplicatedCache.Proofs.Node.Freshness

namespace ReplicatedCache

/-- An entry has not expired as long as its time to live has not passed since its last use. -/
lemma Entry.expired_eq_false {e : Entry} {ttl : Option Nat} {t : Moment}
    (h : ∀ limit, ttl = some limit → t ≤ e.lastAccess + limit) : e.expired ttl t = false := by
  cases ttl with
  | none => rfl
  | some limit =>
      rw [Bool.eq_false_iff, ne_eq, Entry.expired_iff]
      exact Nat.not_lt.mpr (Nat.sub_le_iff_le_add'.mpr (h limit rfl))

namespace Host

variable {path : String} {h : Host} {log : Bytes}

/-- **One restart**: a put that the log holds is found, if it is the last operation on its key and
fewer other keys than the new capacity were put behind it. -/
lemma Logs.get_restart (hl : h.Logs path log) {before after : List Operation} {key value : String}
    (hrecords : Log.records log = before ++ .put key value :: after)
    (hlast : ∀ op ∈ after, op.key ≠ key) {capacity : Nat}
    (hfew : (keysPut after).card < max capacity 1) (ttl : Option Nat) (fsync : Bool)
    (queue : Option SendQueue) (now : Moment) :
    ∃ h', start ⟨capacity, ttl, some path, fsync⟩ queue h.disk now = .ok h' ∧
      ∀ t, (∀ limit, ttl = some limit → t ≤ now + limit) → (h'.get key t).1 = some value := by
  have hpath : (NodeSetup.mk capacity ttl (some path) fsync).logPath = some path := rfl
  obtain ⟨h', hstart, -, hcache⟩ := hl.restart hpath queue now
  refine ⟨h', hstart, fun t ht => ?_⟩
  have hnew : (Cache.empty capacity ttl).IsConsistent := ⟨[], Cache.consistent_empty capacity ttl⟩
  rw [Log.replay_snd, hrecords] at hcache
  obtain ⟨hconsistent, -, httl⟩ := hnew.applyAll (before ++ .put key value :: after) now
  have hmem := Cache.mem_applyAll hnew before after key value now hlast hfew
  rw [← hcache] at hconsistent httl hmem
  refine Cache.get_of_mem hconsistent hmem (Entry.expired_eq_false fun limit hlimit => ht limit ?_)
  exact httl.symm.trans hlimit

/-- **Recovery**: on a node whose log is empty at first, whatever is called, read and restarted, all
of it succeeds. A put that is the last operation on its key is then found after one more restart,
with any capacity and time to live, if fewer other keys than this capacity were put behind it, and
as long as the time to live has not passed since the restart. It does not matter whether the key had
expired or been evicted before. -/
theorem get_restarted (setup : NodeSetup) (path : String) (hpath : setup.logPath = some path)
    (queue : Option SendQueue) (disk : Disk) (now : Moment) (h₀ : Host)
    (hstart : start setup queue disk now = .ok h₀)
    (hempty : h₀.disk.fileContent path = some []) (acts : List Act)
    (hacts : ∀ a ∈ acts, a.Accepted) :
    ∃ h, h₀.actAll path acts = .ok h ∧
      ∀ (before after : List Operation) (key value : String),
        mutations acts = before ++ .put key value :: after → (∀ op ∈ after, op.key ≠ key) →
        ∀ (capacity : Nat) (ttl : Option Nat) (fsync : Bool) (queue' : Option SendQueue)
          (now' : Moment), (keysPut after).card < max capacity 1 →
          ∃ h', start ⟨capacity, ttl, some path, fsync⟩ queue' h.disk now' = .ok h' ∧
            ∀ t, (∀ limit, ttl = some limit → t ≤ now' + limit) →
              (h'.get key t).1 = some value := by
  obtain ⟨h, hrun, ht⟩ := (tells_start hpath hstart hempty).actAll hacts
  obtain ⟨log, hl, hrecords⟩ := ht.log
  refine ⟨h, hrun, ?_⟩
  intro before after key value hmutations hlast capacity ttl fsync queue' now' hfew
  rw [List.nil_append, hmutations] at hrecords
  exact hl.get_restart hrecords hlast hfew ttl fsync queue' now'

/-- A key that is evicted from memory, and again while a first restart rebuilds it, and that is
found after a second restart, which has room for two. -/
theorem get_restarted_evicted :
    let h₀ : Host := ⟨⟨Cache.empty 1 (some 3), some ⟨2, some "wal", false, 0, false⟩, none⟩,
      ⟨#[.null, .full, .file []], #[[("dev", .directory 1), ("wal", .device 2)],
        [("null", .device 0), ("full", .device 1)]]⟩⟩
    start ⟨1, some 3, some "wal", false⟩ none Disk.empty 0 = .ok h₀ ∧
      ∃ h, h₀.actAll "wal" [.call (.put "a" "1") 1, .call (.put "b" "2") 2, .read "a" 3,
          .call (.delete "c") 4, .restart 1 (some 0) true none 5, .read "a" 6,
          .call (.receive (.put "b" "3")) 7] = .ok h ∧
        ∃ h', start ⟨2, some 5, some "wal", false⟩ none h.disk 8 = .ok h' ∧
          (h'.get "a" 13).1 = some "1" := by
  intro h₀
  have hstart : start ⟨1, some 3, some "wal", false⟩ none Disk.empty 0 = .ok h₀ := rfl
  obtain ⟨h, hrun, hfound⟩ := get_restarted ⟨1, some 3, some "wal", false⟩ "wal" rfl none
    Disk.empty 0 h₀ hstart (by decide) [.call (.put "a" "1") 1, .call (.put "b" "2") 2,
      .read "a" 3, .call (.delete "c") 4, .restart 1 (some 0) true none 5, .read "a" 6,
      .call (.receive (.put "b" "3")) 7] (by decide)
  obtain ⟨h', hrestart, hget⟩ := hfound [] [.put "b" "2", .delete "c", .put "b" "3"] "a" "1" rfl
    (by decide) 2 (some 5) false none 8 (by decide)
  refine ⟨hstart, h, hrun, h', hrestart, hget 13 fun limit hlimit => ?_⟩
  obtain rfl := Option.some.inj hlimit
  decide

end Host

end ReplicatedCache
