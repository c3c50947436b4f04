/-
Dropping expired entries late cannot be told from dropping them at once.

The cache leaves an expired entry in its slot until its key is asked for or the slot is needed. The
measure here is a cache with a clock of its own, which drops an entry in the very nanosecond in
which it has been idle for too long.

* `EagerCache`: that cache, with its reads counted as found or not;
* `FlatCache.Aged`: **the invariant**: from the front of the list to its end, the last uses go back
  in time; so what has expired stands at the end (`Aged.expired_last`), and making room drops
  nothing else as long as there is any of it (`Aged.live_makeRoom`);
* `FlatCache.live_get`, `FlatCache.live_put`, `FlatCache.live_remove`: what an access does to the
  unexpired part of the list;
* `Cache.eager`: the eager cache that holds the unexpired entries of a cache and its counts;
* `Cache.InOrder.step`, `Cache.InOrder.after`: an access and a run keep the two caches together;
* `Cache.after_eq_eager`: **late is as good as at once**: reads, listings and the counts of reads
  are those of the eager cache, and no put drops an unexpired entry while an expired one is held.
-/
import ReplicatedCache.Proofs.Cache.Runs

namespace ReplicatedCache

open CacheInterface (Access)

/-- A cache of at most `capacity` entries that holds no expired one at any moment of its clock. -/
structure EagerCache where
  /-- The entries, most recently used first. -/
  order : List Entry
  capacity : Nat
  /-- How long an entry may be idle, in nanoseconds; without it no entry expires. -/
  ttl : Option Nat
  clock : Moment
  /-- Reads that returned a value. -/
  hits : Nat
  /-- Reads that found nothing. -/
  misses : Nat

namespace EagerCache

open FlatCache (find? without)

/-- An empty cache. It holds at least one entry, also if none are asked for. -/
def empty (capacity : Nat) (ttl : Option Nat) (start : Moment) : EagerCache :=
  ⟨[], max capacity 1, ttl, start, 0, 0⟩

/-- Reads a key: its entry is stamped anew and moved to the front. -/
def get (d : EagerCache) (key : String) : Option String × EagerCache :=
  match find? d.order key with
  | some e =>
      (some e.value, { d with
        order := ⟨key, e.value, d.clock⟩ :: without d.order key
        hits := d.hits + 1 })
  | none => (none, { d with misses := d.misses + 1 })

/-- Writes a key: it goes to the front, and the last entry makes room for it if it is new and the
cache is full. -/
def put (d : EagerCache) (key value : String) : EagerCache :=
  match find? d.order key with
  | some _ => { d with order := ⟨key, value, d.clock⟩ :: without d.order key }
  | none =>
      { d with order := ⟨key, value, d.clock⟩ ::
          if d.capacity ≤ d.order.length then d.order.dropLast else d.order }

/-- Drops a key. -/
def remove (d : EagerCache) (key : String) : EagerCache :=
  { d with order := without d.order key }

/-- The clock moves on by a nanosecond, and what has been idle for too long then is gone. -/
def tick (d : EagerCache) : EagerCache :=
  { d with
    order := d.order.filter fun e => !e.expired d.ttl (d.clock + 1)
    clock := d.clock + 1 }

/-- The clock moves on by several nanoseconds. -/
def wait (d : EagerCache) (nanos : Nat) : EagerCache := Nat.iterate tick nanos d

/-- The keys and values, most recently used first. -/
def entries (d : EagerCache) : List (String × String) := d.order.map fun e => (e.key, e.value)

/-- The keys, most recently used first. -/
def keys (d : EagerCache) : List String := d.order.map Entry.key

/-- One access. -/
def step (d : EagerCache) : Access → EagerCache
  | .put key value => d.put key value
  | .get key => (d.get key).2
  | .remove key => d.remove key
  | .wait nanos => d.wait nanos
  | .contains _ | .keys | .entries | .size => d

/-- The cache after several accesses. -/
def after (d : EagerCache) (run : List Access) : EagerCache := run.foldl step d

end EagerCache

/-! ### Expiry of an entry -/

lemma Entry.expired_iff {e : Entry} {ttl : Nat} {now : Moment} :
    e.expired (some ttl) now = true ↔ ttl < now - e.lastAccess :=
  decide_eq_true_iff

/-- An entry has expired if one has that was used as late, at a moment before. -/
lemma Entry.expired_of_le {e f : Entry} {ttl : Option Nat} {now later : Moment}
    (hused : f.lastAccess ≤ e.lastAccess) (hnow : now ≤ later) (h : e.expired ttl now = true) :
    f.expired ttl later = true := by
  cases ttl with
  | none => cases h
  | some ttl =>
      rw [Entry.expired_iff] at h ⊢
      calc ttl < now - e.lastAccess := h
        _ ≤ later - e.lastAccess := Nat.sub_le_sub_right hnow _
        _ ≤ later - f.lastAccess := Nat.sub_le_sub_left hused _

/-- An entry that is used now has not expired. -/
lemma Entry.expired_used (key value : String) (ttl : Option Nat) (now : Moment) :
    (Entry.mk key value now).expired ttl now = false := by
  cases ttl with
  | none => rfl
  | some ttl => simp [Entry.expired, Entry.idle]

namespace FlatCache

variable {es rest us vs : List Entry} {e : Entry} {key value : String} {capacity : Nat}
  {ttl : Option Nat} {now later : Moment}

/-! ### The unexpired part -/

lemma live_append : live ⟨us ++ vs, capacity, ttl⟩ now =
    live ⟨us, capacity, ttl⟩ now ++ live ⟨vs, capacity, ttl⟩ now :=
  List.filter_append us vs

lemma live_cons (hx : e.expired ttl now = false) :
    live ⟨e :: vs, capacity, ttl⟩ now = e :: live ⟨vs, capacity, ttl⟩ now :=
  List.filter_cons_of_pos (by simp [hx])

lemma live_cons_expired (hx : e.expired ttl now = true) :
    live ⟨e :: vs, capacity, ttl⟩ now = live ⟨vs, capacity, ttl⟩ now :=
  List.filter_cons_of_neg (by simp [hx])

lemma live_subset : live ⟨es, capacity, ttl⟩ now ⊆ es := List.filter_subset_self es

lemma live_sublist : (live ⟨es, capacity, ttl⟩ now).Sublist es := List.filter_sublist

/-- An expired entry is none of the unexpired part. -/
lemma length_live_lt (capacity : Nat) (hexpired : ∃ e ∈ es, e.expired ttl now = true) :
    (live ⟨es, capacity, ttl⟩ now).length < es.length := by
  obtain ⟨e, he, hx⟩ := hexpired
  rw [live, List.length_filter_lt_length_iff_exists]
  exact ⟨e, he, by simp [hx]⟩

lemma makeRoom_sublist (c : FlatCache) : c.makeRoom.Sublist c.order := by
  rw [makeRoom]
  split
  · exact List.dropLast_sublist _
  · exact List.Sublist.refl _

/-! ### The order of the last uses -/

/-- **The invariant**: no entry was used after `now`, or before one that stands behind it. -/
structure Aged (es : List Entry) (now : Moment) : Prop where
  used : ∀ e ∈ es, e.lastAccess ≤ now
  sorted : es.Pairwise fun e f => f.lastAccess ≤ e.lastAccess

lemma aged_nil : Aged [] now := ⟨fun _ he => (List.not_mem_nil he).elim, List.Pairwise.nil⟩

namespace Aged

lemma mono (h : Aged es now) (hnow : now ≤ later) : Aged es later :=
  ⟨fun e he => (h.used e he).trans hnow, h.sorted⟩

lemma sublist (h : Aged es now) (hrest : rest.Sublist es) : Aged rest now :=
  ⟨fun e he => h.used e (hrest.subset he), h.sorted.sublist hrest⟩

/-- An entry that is used now may go to the front. -/
lemma cons (h : Aged rest now) (key value : String) : Aged (⟨key, value, now⟩ :: rest) now := by
  refine ⟨fun e he => ?_, List.pairwise_cons.mpr ⟨h.used, h.sorted⟩⟩
  rcases List.mem_cons.mp he with rfl | he
  · exact Nat.le_refl now
  · exact h.used e he

/-- **What has expired stands at the end**: if any entry has expired, the last one has. -/
lemma expired_last {x : Entry} (h : Aged (us ++ [x]) now) (he : e ∈ us ++ [x])
    (hx : e.expired ttl now = true) : x.expired ttl now = true := by
  rcases List.mem_append.mp he with he | he
  · have hused := (List.pairwise_append.mp h.sorted).2.2 e he x List.mem_cons_self
    exact Entry.expired_of_le hused (Nat.le_refl now) hx
  · obtain rfl := List.mem_singleton.mp he
    exact hx

/-- The last entry is none of the unexpired part, if anything has expired. -/
lemma live_dropLast (h : Aged es now) (hexpired : ∃ e ∈ es, e.expired ttl now = true) :
    live ⟨es.dropLast, capacity, ttl⟩ now = live ⟨es, capacity, ttl⟩ now := by
  obtain ⟨e, he, hx⟩ := hexpired
  rcases List.eq_nil_or_concat' es with rfl | ⟨us, x, rfl⟩
  · rfl
  · rw [List.dropLast_concat, live_append, live_cons_expired (h.expired_last he hx)]
    exact (List.append_nil _).symm

/-- **Making room** costs the unexpired part its last entry only if it fills the list. -/
lemma live_makeRoom (h : Aged es now) (hlength : es.length ≤ capacity) :
    live ⟨makeRoom ⟨es, capacity, ttl⟩, capacity, ttl⟩ now =
      if capacity ≤ (live ⟨es, capacity, ttl⟩ now).length then
        (live ⟨es, capacity, ttl⟩ now).dropLast
      else live ⟨es, capacity, ttl⟩ now := by
  by_cases hexpired : ∃ e ∈ es, e.expired ttl now = true
  · have hshort := length_live_lt capacity hexpired
    rw [if_neg (hshort.trans_le hlength).not_ge, makeRoom]
    simp only
    split
    · exact h.live_dropLast hexpired
    · rfl
  · have hlive {rest : List Entry} (hrest : rest.Sublist es) :
        live ⟨rest, capacity, ttl⟩ now = rest := by
      refine List.filter_eq_self.mpr fun e he => ?_
      simpa using fun hx => hexpired ⟨e, hrest.subset he, hx⟩
    rw [hlive (makeRoom_sublist ⟨es, capacity, ttl⟩), hlive (List.Sublist.refl es)]
    rfl

end Aged

/-! ### Accesses and the unexpired part -/

/-- Whether a key is in a list, and if so, where. -/
lemma exists_split_or (es : List Entry) (key : String) :
    key ∉ es.map Entry.key ∨ ∃ us e vs, es = us ++ e :: vs ∧ e.key = key := by
  by_cases hkey : key ∈ es.map Entry.key
  · obtain ⟨e, he, hk⟩ := List.mem_map.mp hkey
    obtain ⟨us, vs, rfl⟩ := List.append_of_mem he
    exact .inr ⟨us, e, vs, rfl, hk⟩
  · exact .inl hkey

lemma not_mem_live (h : key ∉ es.map Entry.key) :
    key ∉ (live ⟨es, capacity, ttl⟩ now).map Entry.key := fun hm =>
  h (List.map_subset _ live_subset hm)

/-- The unexpired part of a split list keeps its keys distinct. -/
lemma nodup_live (hd : ((us ++ e :: vs).map Entry.key).Nodup) (hx : e.expired ttl now = false) :
    ((live ⟨us, capacity, ttl⟩ now ++ e :: live ⟨vs, capacity, ttl⟩ now).map
      Entry.key).Nodup := by
  rw [← live_cons hx, ← live_append]
  exact hd.sublist (live_sublist.map Entry.key)

/-- **A read** acts on the unexpired part as if there were no other. -/
lemma live_get (hd : (es.map Entry.key).Nodup) (key : String) :
    (get ⟨es, capacity, ttl⟩ key now).1 =
        (find? (live ⟨es, capacity, ttl⟩ now) key).map Entry.value ∧
      live (get ⟨es, capacity, ttl⟩ key now).2 now =
        match find? (live ⟨es, capacity, ttl⟩ now) key with
        | some e => ⟨key, e.value, now⟩ :: without (live ⟨es, capacity, ttl⟩ now) key
        | none => live ⟨es, capacity, ttl⟩ now := by
  rcases exists_split_or es key with habsent | ⟨us, e, vs, rfl, rfl⟩
  · rw [get_absent habsent, find?_absent (not_mem_live habsent)]
    exact ⟨rfl, rfl⟩
  · have hbeside := not_mem_beside hd
    cases hx : e.expired ttl now with
    | true =>
        rw [get_expired hd hx, live_append, live_cons_expired hx, ← live_append,
          find?_absent (not_mem_live hbeside)]
        exact ⟨rfl, rfl⟩
    | false =>
        have hlive := @nodup_live us vs e capacity ttl now hd hx
        rw [get_live hd hx, live_append, live_cons hx, find?_split hlive, without_split hlive,
          live_cons (Entry.expired_used _ _ _ _), live_append]
        exact ⟨rfl, rfl⟩

/-- **A put** acts on the unexpired part as if there were no other. -/
lemma live_put (h : Aged es now) (hd : (es.map Entry.key).Nodup) (hlength : es.length ≤ capacity)
    (key value : String) :
    live (put ⟨es, capacity, ttl⟩ key value now) now =
      ⟨key, value, now⟩ ::
        match find? (live ⟨es, capacity, ttl⟩ now) key with
        | some _ => without (live ⟨es, capacity, ttl⟩ now) key
        | none =>
            if capacity ≤ (live ⟨es, capacity, ttl⟩ now).length then
              (live ⟨es, capacity, ttl⟩ now).dropLast
            else live ⟨es, capacity, ttl⟩ now := by
  rcases exists_split_or es key with habsent | ⟨us, e, vs, rfl, rfl⟩
  · rw [put_absent habsent, find?_absent (not_mem_live habsent),
      live_cons (Entry.expired_used _ _ _ _), h.live_makeRoom hlength]
  · have hbeside := not_mem_beside hd
    cases hx : e.expired ttl now with
    | true =>
        -- the expired entry of the key leaves room for the new one
        have hroom : (us ++ vs).length < capacity := by
          simp only [List.length_append, List.length_cons] at hlength ⊢
          omega
        have hshort : (live ⟨us ++ vs, capacity, ttl⟩ now).length < capacity :=
          live_sublist.length_le.trans_lt hroom
        rw [put_expired hd hx, live_append, live_cons_expired hx, ← live_append,
          find?_absent (not_mem_live hbeside), live_cons (Entry.expired_used _ _ _ _), makeRoom,
          if_neg (by exact hroom.not_ge)]
        simp only [if_neg hshort.not_ge]
    | false =>
        have hlive := @nodup_live us vs e capacity ttl now hd hx
        rw [put_live hd hx, live_append, live_cons hx, find?_split hlive,
          live_cons (Entry.expired_used _ _ _ _), live_append]
        simp only [without_split hlive]

/-- **A removal** acts on the unexpired part as if there were no other. -/
lemma live_remove (key : String) :
    live (remove ⟨es, capacity, ttl⟩ key).2 now =
      without (live ⟨es, capacity, ttl⟩ now) key := by
  simp only [remove, live, without, List.filter_filter, Bool.and_comm]

lemma without_sublist (es : List Entry) (key : String) : (without es key).Sublist es :=
  List.filter_sublist

lemma dropExpired_sublist (c : FlatCache) (key : String) (now : Moment) :
    (c.dropExpired key now).order.Sublist c.order := by
  rw [dropExpired]
  split
  · split
    · exact without_sublist c.order key
    · exact List.Sublist.refl _
  · exact List.Sublist.refl _

namespace Aged

variable {c : FlatCache}

/-- **A read** keeps the order of the last uses. -/
lemma get (h : Aged c.order now) (key : String) : Aged (c.get key now).2.order now := by
  have hdropped := h.sublist (c.dropExpired_sublist key now)
  rw [FlatCache.get]
  split
  · exact (hdropped.sublist (without_sublist _ key)).cons key _
  · exact hdropped

/-- **A put** keeps the order of the last uses. -/
lemma put (h : Aged c.order now) (key value : String) : Aged (c.put key value now).order now := by
  have hdropped := h.sublist (c.dropExpired_sublist key now)
  rw [FlatCache.put]
  split
  · exact (hdropped.sublist (without_sublist _ key)).cons key value
  · exact (hdropped.sublist (makeRoom_sublist _)).cons key value

/-- **A removal** keeps the order of the last uses. -/
lemma remove (h : Aged c.order now) (key : String) : Aged (c.remove key).2.order now :=
  h.sublist (without_sublist c.order key)

end Aged

end FlatCache

/-! ### The counts of reads -/

namespace Cache

variable {c : Cache} {key value : String} {now : Moment}

/-- A read counts as a hit if it finds a value, and as a miss otherwise. -/
lemma IsConsistent.kept_get (h : c.IsConsistent) (key : String) (now : Moment) :
    (c.get key now).2.capacity = c.capacity ∧ (c.get key now).2.ttl = c.ttl ∧
      (c.get key now).2.tally.hits = c.tally.hits + (if (c.get key now).1.isSome then 1 else 0) ∧
      (c.get key now).2.tally.misses =
        c.tally.misses + if (c.get key now).1.isSome then 0 else 1 := by
  obtain ⟨xs, h⟩ := h
  cases hi : c.index[key]? with
  | none =>
      rw [Cache.get, hi]
      exact ⟨rfl, rfl, rfl, rfl⟩
  | some i =>
      obtain ⟨us, e, vs, rfl, rfl⟩ := h.exists_split hi
      rw [Cache.get, hi]
      simp only [h.expiredAt_eq]
      cases hx : e.expired c.ttl now with
      | true =>
          rw [if_pos rfl]
          exact ⟨rfl, rfl, rfl, rfl⟩
      | false =>
          have hget := (h.touch now).get?_eq List.mem_cons_self
          rw [if_neg (by simp), hget]
          exact ⟨rfl, rfl, rfl, rfl⟩

/-- What making room and a fresh entry leave alone. -/
lemma kept_insertFresh (c : Cache) (key value : String) (now : Moment) :
    (c.insertFresh key value now).capacity = c.capacity ∧
      (c.insertFresh key value now).ttl = c.ttl ∧
      (c.insertFresh key value now).tally.hits = c.tally.hits ∧
      (c.insertFresh key value now).tally.misses = c.tally.misses := by
  have hevict : c.evict.tally.hits = c.tally.hits ∧ c.evict.tally.misses = c.tally.misses := by
    rw [evict]
    split
    · exact ⟨rfl, rfl⟩
    · exact ⟨rfl, rfl⟩
  simp only [insertFresh, recount, CacheCounters.setTotal]
  split
  · exact ⟨capacity_evict, ttl_evict, hevict⟩
  · exact ⟨rfl, rfl, rfl, rfl⟩

/-- A put counts as no read. -/
lemma kept_put (c : Cache) (key value : String) (now : Moment) :
    (c.put key value now).capacity = c.capacity ∧ (c.put key value now).ttl = c.ttl ∧
      (c.put key value now).tally.hits = c.tally.hits ∧
      (c.put key value now).tally.misses = c.tally.misses := by
  rw [put]
  split
  · exact c.kept_insertFresh key value now
  · split
    · exact (c.expire key _).kept_insertFresh key value now
    · exact ⟨rfl, rfl, rfl, rfl⟩

/-- A removal counts as no read. -/
lemma kept_remove (c : Cache) (key : String) :
    (c.remove key).2.capacity = c.capacity ∧ (c.remove key).2.ttl = c.ttl ∧
      (c.remove key).2.tally.hits = c.tally.hits ∧
      (c.remove key).2.tally.misses = c.tally.misses := by
  rw [remove]
  split
  · exact ⟨rfl, rfl, rfl, rfl⟩
  · exact ⟨rfl, rfl, rfl, rfl⟩

/-- No access changes a setting. -/
lemma IsConsistent.settings_step (h : c.IsConsistent) (now : Moment) (a : Access) :
    (interface.step c now a).2.1.capacity = c.capacity ∧
      (interface.step c now a).2.1.ttl = c.ttl := by
  cases a with
  | put key value =>
      obtain ⟨hcapacity, httl, -, -⟩ := c.kept_put key value now
      exact ⟨hcapacity, httl⟩
  | get key =>
      obtain ⟨hcapacity, httl, -, -⟩ := h.kept_get key now
      exact ⟨hcapacity, httl⟩
  | remove key =>
      obtain ⟨hcapacity, httl, -, -⟩ := c.kept_remove key
      exact ⟨hcapacity, httl⟩
  | contains key => exact ⟨rfl, rfl⟩
  | keys => exact ⟨rfl, rfl⟩
  | entries => exact ⟨rfl, rfl⟩
  | size => exact ⟨rfl, rfl⟩
  | wait nanos => exact ⟨rfl, rfl⟩

/-- No run changes a setting. -/
lemma IsConsistent.settings_after (h : c.IsConsistent) (now : Moment) (run : List Access) :
    (interface.after c now run).1.capacity = c.capacity ∧
      (interface.after c now run).1.ttl = c.ttl := by
  induction run generalizing c now with
  | nil => exact ⟨rfl, rfl⟩
  | cons a run ih =>
      obtain ⟨hcapacity, httl⟩ := h.settings_step now a
      obtain ⟨hcapacity', httl'⟩ := ih (h.step now a) _
      exact ⟨hcapacity'.trans hcapacity, httl'.trans httl⟩

/-! ### The two caches side by side -/

lemma IsConsistent.keys_nodup (h : c.IsConsistent) : (c.order.entries.map Entry.key).Nodup := by
  obtain ⟨xs, h⟩ := h
  rw [h.holds.entries_eq]
  exact h.keys_nodup

lemma IsConsistent.length_le (h : c.IsConsistent) : c.order.entries.length ≤ c.capacity := by
  obtain ⟨xs, h⟩ := h
  rw [h.holds.entries_eq, List.length_map]
  exact h.length_le

/-- The cache as one that drops what has expired at once. -/
def eager (c : Cache) (now : Moment) : EagerCache :=
  ⟨c.live now, c.capacity, c.ttl, now, c.tally.hits, c.tally.misses⟩

lemma eager_eq (c : Cache) (now : Moment) :
    c.eager now = ⟨c.flat.live now, c.capacity, c.ttl, now, c.tally.hits, c.tally.misses⟩ :=
  rfl

/-- **The invariant of a cache in time**: it is consistent, and the last uses of its entries go back
in time from the front to the end. -/
structure InOrder (c : Cache) (now : Moment) : Prop where
  consistent : c.IsConsistent
  aged : FlatCache.Aged c.order.entries now

lemma inOrder_empty (capacity : Nat) (ttl : Option Nat) (start : Moment) :
    (empty capacity ttl).InOrder start ∧
      (empty capacity ttl).eager start = .empty capacity ttl start := by
  have h := consistent_empty capacity ttl
  have hentries : (empty capacity ttl).order.entries = [] := h.holds.entries_eq
  refine ⟨⟨⟨[], h⟩, ?_⟩, ?_⟩
  · rw [hentries]
    exact FlatCache.aged_nil
  · rw [eager, live, hentries]
    rfl

namespace InOrder

variable (h : c.InOrder now)

include h

/-- **A read** finds what the eager cache finds, and keeps the two together. -/
lemma get (key : String) :
    (c.get key now).2.InOrder now ∧
      (c.eager now).get key = ((c.get key now).1, (c.get key now).2.eager now) := by
  obtain ⟨hnew, hflat⟩ := h.consistent.get key now
  obtain ⟨hcapacity, httl, hhits, hmisses⟩ := h.consistent.kept_get key now
  have haged : FlatCache.Aged (c.flat.get key now).2.order now :=
    FlatCache.Aged.get h.aged key
  obtain ⟨hfound, hlive⟩ := @FlatCache.live_get _ c.capacity c.ttl now h.consistent.keys_nodup key
  rw [← flat, hflat] at hfound hlive
  rw [hflat] at haged
  refine ⟨⟨hnew, haged⟩, ?_⟩
  rw [eager_eq, eager_eq, hcapacity, httl, hhits, hmisses, hlive, hfound, EagerCache.get]
  cases FlatCache.find? (c.flat.live now) key with
  | none => rfl
  | some e => rfl

/-- What a put does to the unexpired part. -/
lemma live_put (key value : String) :
    (c.put key value now).flat.live now =
      ⟨key, value, now⟩ ::
        match FlatCache.find? (c.flat.live now) key with
        | some _ => FlatCache.without (c.flat.live now) key
        | none =>
            if c.capacity ≤ (c.flat.live now).length then (c.flat.live now).dropLast
            else c.flat.live now := by
  rw [← (h.consistent.put key value now).2]
  exact FlatCache.live_put h.aged h.consistent.keys_nodup h.consistent.length_le key value

/-- **A put** keeps the two together. -/
lemma put (key value : String) :
    (c.put key value now).InOrder now ∧
      (c.eager now).put key value = (c.put key value now).eager now := by
  obtain ⟨hnew, hflat⟩ := h.consistent.put key value now
  obtain ⟨hcapacity, httl, hhits, hmisses⟩ := c.kept_put key value now
  have haged : FlatCache.Aged (c.flat.put key value now).order now :=
    FlatCache.Aged.put h.aged key value
  have hlive := h.live_put key value
  rw [hflat] at haged
  refine ⟨⟨hnew, haged⟩, ?_⟩
  rw [eager_eq, eager_eq, hcapacity, httl, hhits, hmisses, hlive, EagerCache.put]
  cases FlatCache.find? (c.flat.live now) key with
  | none => rfl
  | some e => rfl

/-- **A removal** keeps the two together. -/
lemma remove (key : String) :
    (c.remove key).2.InOrder now ∧
      (c.eager now).remove key = (c.remove key).2.eager now := by
  obtain ⟨hnew, hflat⟩ := h.consistent.remove key
  obtain ⟨hcapacity, httl, hhits, hmisses⟩ := c.kept_remove key
  have haged : FlatCache.Aged (c.flat.remove key).2.order now :=
    FlatCache.Aged.remove h.aged key
  have hlive : (c.flat.remove key).2.live now = FlatCache.without (c.flat.live now) key :=
    FlatCache.live_remove key
  rw [hflat] at haged hlive
  refine ⟨⟨hnew, haged⟩, ?_⟩
  rw [eager_eq, eager_eq, hcapacity, httl, hhits, hmisses, hlive]
  rfl

/-- **A nanosecond** keeps the two together: what expires in it leaves the eager cache, and the
entries of the other one are as they were. -/
lemma tick : c.InOrder (now + 1) ∧ (c.eager now).tick = c.eager (now + 1) := by
  refine ⟨⟨h.consistent, h.aged.mono (Nat.le_succ now)⟩, ?_⟩
  have hlive : (c.live now).filter (fun e => !e.expired c.ttl (now + 1)) = c.live (now + 1) := by
    rw [live, live, List.filter_filter]
    refine List.filter_congr fun e _ => ?_
    -- what lasts until the next moment has lasted until this one
    cases hx : e.expired c.ttl now with
    | false => rw [Bool.not_false, Bool.and_true]
    | true => rw [Entry.expired_of_le (Nat.le_refl _) (Nat.le_succ now) hx]; rfl
  rw [EagerCache.tick, eager, eager]
  simp only [hlive]

/-- **Time that passes** keeps the two together. -/
lemma wait (nanos : Nat) :
    c.InOrder (now + nanos) ∧ (c.eager now).wait nanos = c.eager (now + nanos) := by
  induction nanos generalizing now with
  | zero => exact ⟨h, rfl⟩
  | succ nanos ih =>
      obtain ⟨hnext, htick⟩ := h.tick
      obtain ⟨hlast, hwait⟩ := ih hnext
      have hsum : now + 1 + nanos = now + (nanos + 1) := Nat.add_right_comm now 1 nanos
      rw [hsum] at hlast hwait
      refine ⟨hlast, ?_⟩
      rw [← hwait, ← htick]
      rfl

/-- **One access** keeps the two together. -/
lemma step (a : Access) :
    (interface.step c now a).2.1.InOrder (interface.step c now a).2.2 ∧
      (c.eager now).step a =
        (interface.step c now a).2.1.eager (interface.step c now a).2.2 := by
  cases a with
  | put key value => exact h.put key value
  | get key => exact ⟨(h.get key).1, congrArg Prod.snd (h.get key).2⟩
  | remove key => exact h.remove key
  | contains key => exact ⟨h, rfl⟩
  | keys => exact ⟨h, rfl⟩
  | entries => exact ⟨h, rfl⟩
  | size => exact ⟨h, rfl⟩
  | wait nanos => exact h.wait nanos

/-- **A run** keeps the two together. -/
lemma after (run : List Access) :
    (interface.after c now run).1.InOrder (interface.after c now run).2 ∧
      (c.eager now).after run =
        (interface.after c now run).1.eager (interface.after c now run).2 := by
  induction run generalizing c now with
  | nil => exact ⟨h, rfl⟩
  | cons a run ih =>
      obtain ⟨hnext, hstep⟩ := h.step a
      obtain ⟨hlast, hrest⟩ := ih hnext
      refine ⟨hlast, ?_⟩
      rw [EagerCache.after, List.foldl_cons, hstep]
      exact hrest

/-- **No put drops an unexpired entry** of another key while an expired one is held. -/
lemma mem_live_put {e : Entry} (hexpired : ∃ f ∈ c.order.entries, f.expired c.ttl now = true)
    (he : e ∈ c.live now) (hkey : e.key ≠ key) : e ∈ (c.put key value now).live now := by
  have hshort : (c.live now).length < c.order.entries.length :=
    FlatCache.length_live_lt c.capacity hexpired
  have hroom : ¬ c.capacity ≤ (c.flat.live now).length :=
    (hshort.trans_le h.consistent.length_le).not_ge
  have hput : (c.put key value now).live now = _ := h.live_put key value
  rw [hput, if_neg hroom]
  refine List.mem_cons_of_mem _ ?_
  split
  · exact FlatCache.mem_without.mpr ⟨he, hkey⟩
  · exact he

end InOrder

/-- **Late is as good as at once**: on every run of a new cache, whatever the capacity, the time to
live and the time that passes in between,

* at its end the entries and keys that are listed, the value that a read of any key finds, and the
  numbers of reads that have found a value or not, are those of the eager cache;
* while the cache holds an expired entry, a put drops no unexpired one of another key. -/
theorem after_eq_eager (capacity : Nat) (ttl : Option Nat) (start : Moment) (run : List Access) :
    let state := interface.after (empty capacity ttl) start run
    let eager := (EagerCache.empty capacity ttl start).after run
    state.1.entries state.2 = eager.entries ∧ state.1.keys state.2 = eager.keys ∧
      (∀ key, (state.1.get key state.2).1 = (eager.get key).1) ∧
      state.1.counters.hits = eager.hits ∧ state.1.counters.misses = eager.misses ∧
      ((∃ f ∈ state.1.order.entries, f.expired state.1.ttl state.2 = true) →
        ∀ key value, ∀ e ∈ state.1.live state.2, e.key ≠ key →
          e ∈ (state.1.put key value state.2).live state.2) := by
  intro state eager
  obtain ⟨hempty, hsame⟩ := inOrder_empty capacity ttl start
  obtain ⟨h, hafter⟩ := hempty.after run
  have heager : eager = state.1.eager state.2 := by
    rw [← hafter, hsame]
  rw [heager]
  exact ⟨rfl, rfl, fun key => (congrArg Prod.fst (h.get key).2).symm, rfl, rfl,
    fun hexpired key value e he hkey => h.mem_live_put hexpired he hkey⟩

/-- A full cache that holds an expired entry makes room for a third one, and keeps the second. -/
theorem after_eq_eager_expired_slot :
    let run : List Access := [.put "a" "1", .wait 4, .put "b" "2", .wait 3]
    let state := interface.after (empty 2 (some 5)) 0 run
    state.1.entries state.2 = [("b", "2")] ∧ state.1.order.entries.length = 2 ∧
      ⟨"b", "2", 4⟩ ∈ (state.1.put "c" "3" state.2).live state.2 := by
  intro run state
  obtain ⟨hentries, -, -, -, -, hkept⟩ := after_eq_eager 2 (some 5) 0 run
  exact ⟨hentries.trans (by decide), by decide,
    hkept ⟨⟨"a", "1", 0⟩, by decide, by decide⟩ "c" "3" ⟨"b", "2", 4⟩ (by decide) (by decide)⟩

end Cache

end ReplicatedCache
