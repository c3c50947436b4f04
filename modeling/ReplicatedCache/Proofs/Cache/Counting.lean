/-
What the counters of a cache count.

* `Cache.finds`, `Cache.misses`, `Cache.putsAnew`, `Cache.takesOut`, `Cache.evicts`,
  `Cache.expires`: the kinds of accesses, told by what is in the cache when they are made;
* `CacheInterface.count`: how many accesses of a run are of some kind;
* `Cache.Booked`: **what one access adds to the counters**, and the balance of the entries that come
  and go with it;
* `IsConsistent.booked_get`, `IsConsistent.booked_put`, `IsConsistent.booked_remove`,
  `IsConsistent.booked_step`: every access is booked;
* `IsConsistent.count_after`, `IsConsistent.balance_after`: the same for a run;
* `Cache.counters_after`: **the counters after a run** and their balance.
-/
import Mathlib.Data.List.Nodup
import Mathlib.Tactic.MkIffOfInductiveProp
import ReplicatedCache.Proofs.Cache.Expiry

namespace ReplicatedCache

open CacheInterface (Access)

/-! ### Kinds of accesses -/

/-- Whether an access is a read. -/
def CacheInterface.Access.isRead : Access → Bool
  | .get _ => true
  | _ => false

namespace Cache

/-- A read that returns a value. -/
def finds (c : Cache) (now : Moment) : Access → Bool
  | .get key => (c.get key now).1.isSome
  | _ => false

/-- A read that returns none. -/
def misses (c : Cache) (now : Moment) : Access → Bool
  | .get key => (c.get key now).1.isNone
  | _ => false

/-- A put that meets no unexpired entry of its key. -/
def putsAnew (c : Cache) (now : Moment) : Access → Bool
  | .put key _ => !(c.keys now).contains key
  | _ => false

/-- A removal that is told that its key was there. -/
def takesOut (c : Cache) (_ : Moment) : Access → Bool
  | .remove key => (c.remove key).1
  | _ => false

/-- A put of a key that has no entry, not even an expired one, into a full cache. -/
def evicts (c : Cache) (_ : Moment) : Access → Bool
  | .put key _ => !c.contains key && c.size == c.capacity
  | _ => false

/-- A put or a read that meets an expired entry of its key. -/
def expires (c : Cache) (now : Moment) : Access → Bool
  | .put key _ | .get key => c.contains key && !(c.keys now).contains key
  | _ => false

end Cache

/-- How many accesses of a run are of some kind, which is told by the state and the moment at which
each of them is made. -/
def CacheInterface.count {σ : Type} (m : CacheInterface σ) (kind : σ → Moment → Access → Bool) :
    σ → Moment → List Access → Nat
  | _, _, [] => 0
  | s, now, a :: run =>
      (kind s now a).toNat + m.count kind (m.step s now a).2.1 (m.step s now a).2.2 run

/-- The counts of the second are those of the first, or have grown. The number of entries is left
out. -/
structure CacheCounters.Grows (before after : CacheCounters) : Prop where
  hits : before.hits ≤ after.hits
  misses : before.misses ≤ after.misses
  evictions : before.evictions ≤ after.evictions
  expirations : before.expirations ≤ after.expirations

namespace Cache

variable {c : Cache} {xs us vs : List (Nat × Entry)} {i : Nat} {e : Entry} {key value : String}
  {now : Moment}

/-! ### One access -/

/-- **What one access adds to the counters**: each count grows by one if the access is of its kind.
The entries that are held after it, or have left with it, were held before or came with it. -/
@[mk_iff]
structure Booked (c : Cache) (now : Moment) (a : Access) (c' : Cache) : Prop where
  hits : c'.tally.hits = c.tally.hits + (c.finds now a).toNat
  misses : c'.tally.misses = c.tally.misses + (c.misses now a).toNat
  evictions : c'.tally.evictions = c.tally.evictions + (c.evicts now a).toNat
  expirations : c'.tally.expirations = c.tally.expirations + (c.expires now a).toNat
  total : c.tally.totalEntries = c.size → c'.tally.totalEntries = c'.size
  balance : c'.size + (c.evicts now a).toNat + (c.expires now a).toNat + (c.takesOut now a).toNat =
    c.size + (c.putsAnew now a).toNat

/-- A key outside the index has no entry, expired or not. -/
lemma Consistent.not_listed (h : c.Consistent xs) (hi : c.index[key]? = none) (now : Moment) :
    c.contains key = false ∧ (c.keys now).contains key = false := by
  refine ⟨?_, ?_⟩
  · rw [contains, Std.TreeMap.contains_eq_isSome_getElem?, hi]
    rfl
  · rw [List.contains_eq_mem, decide_eq_false_iff_not, keys, live, h.holds.entries_eq]
    exact fun hm => h.absent hi (List.map_subset _ (List.filter_subset_self _) hm)

/-- A key of the index is listed unless its entry has expired. -/
lemma Consistent.listed (h : c.Consistent (us ++ (i, e) :: vs)) (now : Moment) :
    c.contains e.key = true ∧ (c.keys now).contains e.key = !e.expired c.ttl now := by
  have hmem : e ∈ (us ++ (i, e) :: vs).map Prod.snd := by simp
  refine ⟨?_, ?_⟩
  · rw [contains, Std.TreeMap.contains_eq_isSome_getElem?,
      (h.index_iff e.key i).mpr ⟨e, by simp, rfl⟩]
    rfl
  · rw [List.contains_eq_mem, keys, live, h.holds.entries_eq]
    cases hx : e.expired c.ttl now with
    | true =>
        rw [Bool.not_true, decide_eq_false_iff_not]
        intro hm
        obtain ⟨f, hf, hkey⟩ := List.mem_map.mp hm
        obtain ⟨hf, hlive⟩ := List.mem_filter.mp hf
        obtain rfl : f = e := List.inj_on_of_nodup_map h.keys_nodup hf hmem hkey
        simp [hx] at hlive
    | false =>
        rw [Bool.not_false, decide_eq_true_eq]
        exact List.mem_map_of_mem (List.mem_filter.mpr ⟨hmem, by simp [hx]⟩)

/-- Without one of its entries, a cache holds one less. -/
lemma Consistent.size_erase (h : c.Consistent (us ++ (i, e) :: vs)) :
    (c.index.erase e.key).size + 1 = c.size := by
  have hsize : (c.index.erase e.key).size = (us ++ vs).length := h.takeOut.size_eq
  rw [hsize, Cache.size, h.size_eq]
  simp only [List.length_append, List.length_cons, Nat.add_assoc]

/-- Making room in a full cache is an eviction. -/
lemma Consistent.tally_evict (h : c.Consistent xs) (hfull : c.capacity ≤ xs.length) :
    c.evict.tally = c.tally.eviction := by
  have hne : xs ≠ [] := by
    rintro rfl
    exact absurd c.capacity_pos (Nat.not_lt.mpr hfull)
  obtain ⟨us, ⟨i, e⟩, rfl⟩ := (List.eq_nil_or_concat' xs).resolve_left hne
  rw [Cache.evict, h.holds.popOldest.1]

/-- A fresh entry brings the number of entries up to date. -/
lemma tally_insertFresh (c : Cache) (key value : String) (now : Moment) :
    (c.insertFresh key value now).tally =
      (if c.capacity ≤ c.index.size then c.evict else c).tally.setTotal
        (c.insertFresh key value now).size :=
  rfl

/-- **A fresh entry** is one more, or the last one makes room for it. -/
lemma Consistent.booked_insertFresh (h : c.Consistent xs)
    (hkey : key ∉ (xs.map Prod.snd).map Entry.key) (value : String) (now : Moment) :
    let c' := c.insertFresh key value now
    c'.tally.evictions = c.tally.evictions + (c.size == c.capacity).toNat ∧
      c'.tally.expirations = c.tally.expirations ∧ c'.tally.totalEntries = c'.size ∧
      c'.size + (c.size == c.capacity).toNat = c.size + 1 := by
  intro c'
  have hsize : c.index.size = xs.length := h.size_eq
  obtain ⟨hnew, hflat⟩ := h.insertFresh hkey value now
  have hsize' : c'.size = c.flat.makeRoom.length + 1 := by
    rw [← hnew.size_eq, hflat]
    rfl
  have hlength : c.flat.makeRoom.length =
      if c.capacity ≤ xs.length then xs.length - 1 else xs.length := by
    rw [h.flat_eq, FlatCache.makeRoom, List.length_map, apply_ite List.length, List.length_dropLast,
      List.length_map]
  have htally : c'.tally = _ := c.tally_insertFresh key value now
  rw [htally, hsize', hlength, hsize, Cache.size, hsize]
  by_cases hfull : c.capacity ≤ xs.length
  · have heq : xs.length = c.capacity := Nat.le_antisymm h.length_le hfull
    have hpos := c.capacity_pos
    rw [if_pos hfull, if_pos hfull, h.tally_evict hfull, beq_iff_eq.mpr heq]
    exact ⟨rfl, rfl, rfl, by rw [Bool.toNat_true]; omega⟩
  · have hne : (xs.length == c.capacity) = false := beq_eq_false_iff_ne.mpr fun heq => hfull heq.ge
    rw [if_neg hfull, if_neg hfull, hne]
    exact ⟨rfl, rfl, rfl, rfl⟩

/-- **A read** counts as a hit or a miss, and drops the entry of its key if that has expired. -/
lemma IsConsistent.booked_get (h : c.IsConsistent) (key : String) (now : Moment) :
    Booked c now (.get key) (c.get key now).2 := by
  obtain ⟨xs, h⟩ := h
  rw [booked_iff, finds, misses, expires]
  cases hi : c.index[key]? with
  | none =>
      rw [(h.not_listed hi now).1, Cache.get, hi]
      exact ⟨rfl, rfl, rfl, rfl, id, rfl⟩
  | some i =>
      obtain ⟨us, e, vs, rfl, rfl⟩ := h.exists_split hi
      obtain ⟨hheld, hlisted⟩ := h.listed now
      rw [hheld, hlisted, Cache.get, hi]
      simp only [h.expiredAt_eq]
      cases hx : e.expired c.ttl now with
      | true => exact ⟨rfl, rfl, rfl, rfl, fun _ => rfl, h.size_erase⟩
      | false =>
          have hget := (h.touch now).get?_eq List.mem_cons_self
          rw [if_neg (by simp), hget]
          exact ⟨rfl, rfl, rfl, rfl, id, rfl⟩

/-- **A put** of a new key or of one whose entry has expired brings an entry: in the first case the
last one makes room for it in a full cache, in the second one there is room. -/
lemma IsConsistent.booked_put (h : c.IsConsistent) (key value : String) (now : Moment) :
    Booked c now (.put key value) (c.put key value now) := by
  obtain ⟨-, -, hhits, hmisses⟩ := c.kept_put key value now
  obtain ⟨xs, h⟩ := h
  refine (booked_iff ..).mpr ⟨hhits, hmisses, ?_⟩
  rw [evicts, expires, putsAnew]
  cases hi : c.index[key]? with
  | none =>
      obtain ⟨hheld, hlisted⟩ := h.not_listed hi now
      obtain ⟨hevicted, hexpired, htotal, hbalance⟩ := h.booked_insertFresh (h.absent hi) value now
      rw [hheld, hlisted, Cache.put, hi]
      exact ⟨hevicted, hexpired, fun _ => htotal, hbalance⟩
  | some i =>
      obtain ⟨us, e, vs, rfl, rfl⟩ := h.exists_split hi
      obtain ⟨hheld, hlisted⟩ := h.listed now
      rw [hheld, hlisted, Cache.put, hi]
      simp only [h.expiredAt_eq]
      cases hx : e.expired c.ttl now with
      | true =>
          have hkey : e.key ∉ ((us ++ vs).map Prod.snd).map Entry.key := by
            rw [List.map_append]
            exact FlatCache.not_mem_beside h.nodup_split
          obtain ⟨hevicted, hexpired, htotal, hbalance⟩ :=
            h.expire.booked_insertFresh hkey value now
          -- the entry that has expired leaves room for the fresh one
          have hsize : (c.expire e.key i).size + 1 = c.size := h.size_erase
          have hle : c.size ≤ c.capacity := h.size_eq.trans_le h.length_le
          have hroom : ((c.expire e.key i).size == c.capacity) = false :=
            beq_eq_false_iff_ne.mpr (by omega)
          have hsame : (c.expire e.key i).capacity = c.capacity := rfl
          rw [hsame, hroom] at hevicted hbalance
          refine ⟨hevicted, hexpired, fun _ => htotal, ?_⟩
          rw [← hsize]
          exact congrArg Nat.succ hbalance
      | false => exact ⟨rfl, rfl, id, rfl⟩

/-- **A removal** takes the entry of its key out, if there is one. -/
lemma IsConsistent.booked_remove (h : c.IsConsistent) (key : String) (now : Moment) :
    Booked c now (.remove key) (c.remove key).2 := by
  obtain ⟨xs, h⟩ := h
  rw [booked_iff, takesOut]
  cases hi : c.index[key]? with
  | none =>
      rw [Cache.remove, hi]
      exact ⟨rfl, rfl, rfl, rfl, id, rfl⟩
  | some i =>
      obtain ⟨us, e, vs, rfl, rfl⟩ := h.exists_split hi
      rw [Cache.remove, hi]
      exact ⟨rfl, rfl, rfl, rfl, fun _ => rfl, h.size_erase⟩

/-- **Every access** is booked; those that ask for no entry in particular change nothing. -/
lemma IsConsistent.booked_step (h : c.IsConsistent) (now : Moment) (a : Access) :
    Booked c now a (interface.step c now a).2.1 := by
  cases a with
  | put key value => exact h.booked_put key value now
  | get key => exact h.booked_get key now
  | remove key => exact h.booked_remove key now
  | contains key => exact ⟨rfl, rfl, rfl, rfl, id, rfl⟩
  | keys => exact ⟨rfl, rfl, rfl, rfl, id, rfl⟩
  | entries => exact ⟨rfl, rfl, rfl, rfl, id, rfl⟩
  | size => exact ⟨rfl, rfl, rfl, rfl, id, rfl⟩
  | wait nanos => exact ⟨rfl, rfl, rfl, rfl, id, rfl⟩

/-! ### A run -/

/-- **The counters after a run**: each has grown by the number of accesses of its kind. -/
lemma IsConsistent.count_after (h : c.IsConsistent) (now : Moment) (run : List Access) :
    let c' := (interface.after c now run).1
    c'.tally.hits = c.tally.hits + interface.count finds c now run ∧
      c'.tally.misses = c.tally.misses + interface.count misses c now run ∧
      c'.tally.evictions = c.tally.evictions + interface.count evicts c now run ∧
      c'.tally.expirations = c.tally.expirations + interface.count expires c now run := by
  induction run generalizing c now with
  | nil => exact ⟨rfl, rfl, rfl, rfl⟩
  | cons a run ih =>
      have hstep := h.booked_step now a
      obtain ⟨hhits, hmisses, hevictions, hexpirations⟩ :=
        ih (h.step now a) (interface.step c now a).2.2
      simp only [CacheInterface.after, CacheInterface.count, ← Nat.add_assoc, ← hstep.hits,
        ← hstep.misses, ← hstep.evictions, ← hstep.expirations]
      exact ⟨hhits, hmisses, hevictions, hexpirations⟩

/-- **The balance of a run**: what is held after it, or has left in it, was held before or came in
it. -/
lemma IsConsistent.balance_after (h : c.IsConsistent) (now : Moment) (run : List Access) :
    (interface.after c now run).1.size + interface.count evicts c now run +
        interface.count expires c now run + interface.count takesOut c now run =
      c.size + interface.count putsAnew c now run := by
  induction run generalizing c now with
  | nil => rfl
  | cons a run ih =>
      have hstep := (h.booked_step now a).balance
      have hrun := ih (h.step now a) (interface.step c now a).2.2
      simp only [CacheInterface.after, CacheInterface.count]
      omega

/-- The number of entries that is counted stays up to date. -/
lemma IsConsistent.total_after (h : c.IsConsistent) (htotal : c.tally.totalEntries = c.size)
    (now : Moment) (run : List Access) :
    (interface.after c now run).1.tally.totalEntries = (interface.after c now run).1.size := by
  induction run generalizing c now with
  | nil => exact htotal
  | cons a run ih => exact ih (h.step now a) ((h.booked_step now a).total htotal) _

/-- Every read returns a value or none. -/
lemma count_reads (c : Cache) (now : Moment) (run : List Access) :
    interface.count finds c now run + interface.count misses c now run =
      run.countP Access.isRead := by
  induction run generalizing c now with
  | nil => rfl
  | cons a run ih =>
      have hread : (c.finds now a).toNat + (c.misses now a).toNat = if a.isRead then 1 else 0 := by
        cases a with
        | get key =>
            rw [finds, misses]
            cases (c.get key now).1 <;> rfl
        | _ => rfl
      have hrest := ih (interface.step c now a).2.1 (interface.step c now a).2.2
      rw [List.countP_cons, ← hrest, ← hread]
      simp only [CacheInterface.count]
      omega

/-- A run takes no count back. -/
lemma IsConsistent.grows_after (h : c.IsConsistent) (now : Moment) (run : List Access) :
    c.counters.Grows (interface.after c now run).1.counters := by
  obtain ⟨hhits, hmisses, hevictions, hexpirations⟩ := h.count_after now run
  exact ⟨Nat.le.intro hhits.symm, Nat.le.intro hmisses.symm, Nat.le.intro hevictions.symm,
    Nat.le.intro hexpirations.symm⟩

/-- What is listed has an entry. -/
lemma IsConsistent.contains_of_listed (h : c.IsConsistent) (hlisted : key ∈ c.keys now) :
    c.contains key = true := by
  obtain ⟨e, he, rfl⟩ := List.mem_map.mp hlisted
  have hentry : e ∈ c.order.entries := (List.mem_filter.mp he).1
  rw [← h.contains_eq, FlatCache.contains, List.any_eq_true]
  exact ⟨e, hentry, decide_eq_true rfl⟩

/-- An access that counts an eviction puts a key that has no entry into a full cache. -/
lemma IsConsistent.eviction_step (h : c.IsConsistent) (a : Access)
    (hcounted : (interface.step c now a).2.1.counters.evictions ≠ c.counters.evictions) :
    (∃ key value, a = .put key value ∧ c.contains key = false ∧ key ∉ c.keys now) ∧
      c.size = c.capacity ∧
      (interface.step c now a).2.1.counters.evictions = c.counters.evictions + 1 := by
  have hstep : (interface.step c now a).2.1.counters.evictions =
      c.counters.evictions + (c.evicts now a).toNat := (h.booked_step now a).evictions
  have hevicts : c.evicts now a = true := by
    refine Bool.of_not_eq_false fun hnot => hcounted ?_
    rw [hstep, hnot]
    rfl
  cases a with
  | put key value =>
      rw [evicts, Bool.and_eq_true, Bool.not_eq_true', beq_iff_eq] at hevicts
      obtain ⟨habsent, hfull⟩ := hevicts
      refine ⟨⟨key, value, rfl, habsent, fun hlisted => ?_⟩, hfull, ?_⟩
      · rw [h.contains_of_listed hlisted] at habsent
        cases habsent
      · rw [hstep, evicts, habsent, hfull, beq_self_eq_true]
        rfl
  | _ => cases hevicts

/-- **The counters balance**: after every run on a new cache, whatever the capacity, the time to
live and the time that passes in between,

* the hits are the reads that have returned a value, and together with the misses they are all
  reads;
* the evictions and the expirations are the accesses that have evicted an entry or met an expired
  one;
* the number of entries that is reported, also the one that was last counted, is that of the cache;
* the puts that met no unexpired entry of their key are the entries held, evicted, expired and
  removed;
* no further run takes a count back, and an access counts an eviction, and then one, only if it puts
  a key that has no entry into a cache that holds as many entries as it may. -/
theorem counters_after (capacity : Nat) (ttl : Option Nat) (start : Moment) (run : List Access) :
    let new := empty capacity ttl
    let c := (interface.after new start run).1
    let now := (interface.after new start run).2
    c.counters.hits = interface.count finds new start run ∧
      c.counters.hits + c.counters.misses = run.countP Access.isRead ∧
      c.counters.evictions = interface.count evicts new start run ∧
      c.counters.expirations = interface.count expires new start run ∧
      c.counters.totalEntries = c.size ∧ c.tally.totalEntries = c.size ∧
      interface.count putsAnew new start run =
        c.size + c.counters.evictions + c.counters.expirations +
          interface.count takesOut new start run ∧
      (∀ more, c.counters.Grows (interface.after c now more).1.counters) ∧
      ∀ a, (interface.step c now a).2.1.counters.evictions ≠ c.counters.evictions →
        (∃ key value, a = .put key value ∧ c.contains key = false ∧ key ∉ c.keys now) ∧
          c.size = c.capacity ∧
          (interface.step c now a).2.1.counters.evictions = c.counters.evictions + 1 := by
  intro new c now
  have hnew : new.IsConsistent := ⟨[], consistent_empty capacity ttl⟩
  have hempty : new.size = 0 := Std.TreeMap.size_emptyc
  have h : c.IsConsistent := hnew.after start run
  obtain ⟨hhits, hmisses, hevictions, hexpirations⟩ := hnew.count_after start run
  have hbalance := hnew.balance_after start run
  have hreads := count_reads new start run
  have hzero : new.tally = {} := rfl
  rw [hzero, Nat.zero_add] at hhits hmisses hevictions hexpirations
  rw [hempty, Nat.zero_add] at hbalance
  refine ⟨hhits, ?_, hevictions, hexpirations, rfl, hnew.total_after hempty.symm start run, ?_,
    h.grows_after now, fun a => h.eviction_step a⟩
  · rw [← hreads, ← hhits, ← hmisses]
    rfl
  · rw [← hbalance, ← hevictions, ← hexpirations]
    rfl

/-- Of six entries that come into a cache for two, one makes room, two expire, of which one is then
put anew, and one is removed. The two that are left fill the cache, so the next one makes room. -/
theorem counters_after_every_way_out :
    let run : List Access := [.put "a" "1", .put "b" "2", .put "c" "3", .get "a", .get "b",
      .wait 6, .get "b", .put "c" "4", .put "d" "5", .remove "d", .put "e" "6"]
    let new := empty 2 (some 5)
    let c := (interface.after new 0 run).1
    run.countP Access.isRead = 3 ∧ interface.count putsAnew new 0 run = 6 ∧
      c.counters = ⟨1, 2, 1, 2, 2⟩ ∧ interface.count takesOut new 0 run = 1 ∧
      c.size = c.capacity ∧ (interface.step c 6 (.put "f" "7")).2.1.counters.evictions = 2 := by
  intro run new c
  obtain ⟨-, hreads, -, -, -, -, hbalance, -, heviction⟩ := counters_after 2 (some 5) 0 run
  obtain ⟨-, hfull, hcounted⟩ := heviction (.put "f" "7") (by decide)
  have hcounters : c.counters = ⟨1, 2, 1, 2, 2⟩ := by decide
  have htaken : interface.count takesOut new 0 run = 1 := by decide
  refine ⟨hreads.symm.trans ?_, hbalance.trans ?_, hcounters, htaken, hfull, hcounted.trans ?_⟩
  · decide
  · decide
  · decide

end Cache

end ReplicatedCache
