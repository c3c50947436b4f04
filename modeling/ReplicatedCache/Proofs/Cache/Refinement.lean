/-
The cache with its index and its chained slots does what the plain list does.

* `Cache.Consistent`: **the invariant**: index and chain agree on a list of handles and entries
  with distinct keys, which fits the capacity;
* `Consistent.takeOut`, `Consistent.putIn`, `Consistent.restamp`: the three changes that accesses
  are made of;
* `Cache.flat`: the cache as one plain list;
* `IsConsistent.get`, `IsConsistent.put`, `IsConsistent.remove`: each access keeps the invariant,
  and answers and acts as on that list.
-/
import ReplicatedCache.Proofs.Cache.Flat
import ReplicatedCache.Proofs.Cache.Order

namespace ReplicatedCache.Cache

open FlatCache (without find? without_split without_absent find?_split find?_absent)

/-- **The invariant of the cache**: its chain holds `xs`, whose keys are distinct and lead to
their own handles, and no other key leads anywhere. -/
structure Consistent (c : Cache) (xs : List (Nat × Entry)) : Prop where
  holds : c.order.Holds xs
  index_iff : ∀ key i, c.index[key]? = some i ↔ ∃ e, (i, e) ∈ xs ∧ e.key = key
  keys_nodup : ((xs.map Prod.snd).map Entry.key).Nodup
  size_eq : c.index.size = xs.length
  length_le : xs.length ≤ c.capacity

lemma consistent_empty (capacity : Nat) (ttl : Option Nat) :
    (empty capacity ttl).Consistent [] where
  holds := UseOrder.holds_empty
  index_iff key i := by simp [empty]
  keys_nodup := List.nodup_nil
  size_eq := Std.TreeMap.size_emptyc
  length_le := Nat.zero_le _

namespace Consistent

variable {c : Cache} {xs us vs : List (Nat × Entry)} {i : Nat} {e : Entry} {key value : String}
  {now : Moment}

/-- The counters play no part in the invariant. -/
lemma withTally (h : c.Consistent xs) (tally : CacheCounters) :
    ({ c with tally } : Cache).Consistent xs :=
  ⟨h.holds, h.index_iff, h.keys_nodup, h.size_eq, h.length_le⟩

lemma recount (h : c.Consistent xs) : c.recount.Consistent xs := h.withTally _

/-- A key of the index leads to its entry in the list. -/
lemma exists_split (h : c.Consistent xs) (hi : c.index[key]? = some i) :
    ∃ us e vs, xs = us ++ (i, e) :: vs ∧ e.key = key := by
  obtain ⟨e, he, hk⟩ := (h.index_iff key i).mp hi
  obtain ⟨us, vs, rfl⟩ := List.append_of_mem he
  exact ⟨us, e, vs, rfl, hk⟩

/-- A key outside the index is in no entry. -/
lemma absent (h : c.Consistent xs) (hi : c.index[key]? = none) :
    key ∉ (xs.map Prod.snd).map Entry.key := by
  intro hm
  simp only [List.mem_map, Prod.exists] at hm
  obtain ⟨_, ⟨i, e, he, rfl⟩, hk⟩ := hm
  have := (h.index_iff key i).mpr ⟨e, he, hk⟩
  simp [hi] at this

lemma expiredAt_eq (h : c.Consistent (us ++ (i, e) :: vs)) :
    c.expiredAt i now = e.expired c.ttl now := by
  rw [expiredAt, h.holds.get?_eq (a := e) (by simp)]

/-- The keys of a split list. -/
lemma nodup_split (h : c.Consistent (us ++ (i, e) :: vs)) :
    ((us.map Prod.snd ++ e :: vs.map Prod.snd).map Entry.key).Nodup := by
  simpa using h.keys_nodup

/-! ### Taking an entry out and putting one in -/

/-- Taking an entry out of index and chain. -/
lemma takeOut (h : c.Consistent (us ++ (i, e) :: vs)) :
    ({ c with index := c.index.erase e.key, order := (c.order.remove i).2 } : Cache).Consistent
      (us ++ vs) := by
  have hd := h.nodup_split
  have hperm : (us ++ (i, e) :: vs).Perm ((i, e) :: (us ++ vs)) := List.perm_middle
  refine ⟨h.holds.remove.2, ?_, ?_, ?_, ?_⟩
  · intro key j
    rw [Std.TreeMap.getElem?_erase]
    by_cases hk : e.key = key
    · subst hk
      have hnot : ∀ b, (j, b) ∈ us ++ vs → b.key ≠ e.key := by
        intro b hb hbk
        obtain ⟨hu, hv⟩ := FlatCache.not_mem_of_nodup hd
        rw [← hbk] at hu hv
        rcases List.mem_append.mp hb with hb | hb
        · exact hu (List.mem_map_of_mem (List.mem_map_of_mem hb))
        · exact hv (List.mem_map_of_mem (List.mem_map_of_mem hb))
      simpa using hnot
    · have hcmp : compare e.key key ≠ .eq := by simpa using hk
      rw [if_neg hcmp, h.index_iff]
      simp only [hperm.mem_iff, List.mem_cons, Prod.mk.injEq]
      constructor
      · rintro ⟨b, ⟨-, rfl⟩ | hb, hbk⟩
        · exact absurd hbk hk
        · exact ⟨b, hb, hbk⟩
      · exact fun ⟨b, hb, hbk⟩ => ⟨b, .inr hb, hbk⟩
  · rw [List.map_append, List.map_cons, List.perm_middle.nodup_iff, List.nodup_cons] at hd
    simpa using hd.2
  · have hmem : c.index.contains e.key = true := by
      rw [Std.TreeMap.contains_eq_isSome_getElem?, (h.index_iff e.key i).mpr ⟨e, by simp, rfl⟩]
      rfl
    rw [Std.TreeMap.size_erase, if_pos hmem, h.size_eq, hperm.length_eq]
    rfl
  · have := h.length_le
    rw [hperm.length_eq, List.length_cons] at this
    exact Nat.le_of_succ_le this

/-- Putting an entry with a new key into index and chain. -/
lemma putIn (h : c.Consistent xs) (hkey : e.key ∉ (xs.map Prod.snd).map Entry.key)
    (hroom : xs.length < c.capacity) :
    ({ c with index := c.index.insert e.key (c.order.add e).1, order := (c.order.add e).2 } :
      Cache).Consistent (((c.order.add e).1, e) :: xs) := by
  refine ⟨h.holds.add e, ?_, ?_, ?_, hroom⟩
  · intro key j
    rw [Std.TreeMap.getElem?_insert]
    simp only [List.mem_cons, Prod.mk.injEq]
    by_cases hk : e.key = key
    · subst hk
      rw [if_pos (by simp), Option.some.injEq]
      constructor
      · rintro rfl
        exact ⟨e, .inl ⟨rfl, rfl⟩, rfl⟩
      · rintro ⟨b, ⟨rfl, -⟩ | hb, hbk⟩
        · rfl
        · rw [← hbk] at hkey
          exact absurd (List.mem_map_of_mem (List.mem_map_of_mem hb)) hkey
    · have hcmp : compare e.key key ≠ .eq := by simpa using hk
      rw [if_neg hcmp, h.index_iff]
      constructor
      · exact fun ⟨b, hb, hbk⟩ => ⟨b, .inr hb, hbk⟩
      · rintro ⟨b, ⟨-, rfl⟩ | hb, hbk⟩
        · exact absurd hbk hk
        · exact ⟨b, hb, hbk⟩
  · rw [List.map_cons, List.map_cons, List.nodup_cons]
    exact ⟨hkey, h.keys_nodup⟩
  · have hmem : ¬ c.index.contains e.key = true := by
      rw [Std.TreeMap.contains_eq_isSome_getElem?, Option.not_isSome_iff_eq_none,
        Option.eq_none_iff_forall_ne_some]
      intro i hi
      obtain ⟨b, hb, hbk⟩ := (h.index_iff e.key i).mp hi
      rw [← hbk] at hkey
      exact hkey (List.mem_map_of_mem (List.mem_map_of_mem hb))
    rw [Std.TreeMap.size_insert, if_neg hmem, h.size_eq, List.length_cons]

/-- Giving an entry its place at the front, with a new value and stamp. -/
lemma restamp (h : c.Consistent (us ++ (i, e) :: vs)) {order : UseOrder Entry} {f : Entry}
    (hkey : f.key = e.key) (horder : order.Holds ((i, f) :: (us ++ vs))) :
    ({ c with order } : Cache).Consistent ((i, f) :: (us ++ vs)) := by
  have hperm : (us ++ (i, e) :: vs).Perm ((i, e) :: (us ++ vs)) := List.perm_middle
  refine ⟨horder, ?_, ?_, ?_, ?_⟩
  · intro key j
    rw [h.index_iff]
    simp only [hperm.mem_iff, List.mem_cons, Prod.mk.injEq]
    constructor
    · rintro ⟨b, ⟨rfl, rfl⟩ | hb, hbk⟩
      · exact ⟨f, .inl ⟨rfl, rfl⟩, hkey.trans hbk⟩
      · exact ⟨b, .inr hb, hbk⟩
    · rintro ⟨b, ⟨rfl, rfl⟩ | hb, hbk⟩
      · exact ⟨e, .inl ⟨rfl, rfl⟩, hkey.symm.trans hbk⟩
      · exact ⟨b, .inr hb, hbk⟩
  · have hd := h.nodup_split
    rw [List.map_append, List.map_cons, List.perm_middle.nodup_iff] at hd
    simpa [hkey] using hd
  · rw [h.size_eq, hperm.length_eq]
    rfl
  · have := h.length_le
    rw [hperm.length_eq] at this
    exact this

lemma expire (h : c.Consistent (us ++ (i, e) :: vs)) : (c.expire e.key i).Consistent (us ++ vs) :=
  (h.takeOut.withTally _).recount

/-- Making room for one more entry. -/
lemma evict (h : c.Consistent (us ++ [(i, e)])) : c.evict.Consistent us := by
  have hpop := h.holds.popOldest.1
  rw [Cache.evict, hpop]
  simpa using h.takeOut.withTally c.tally.eviction

end Consistent

/-! ### The accesses on the plain list -/

/-- The cache as one plain list. -/
def flat (c : Cache) : FlatCache := ⟨c.order.entries, c.capacity, c.ttl⟩

/-- The invariant, whatever list is held. -/
def IsConsistent (c : Cache) : Prop := ∃ xs, c.Consistent xs

variable {c : Cache} {xs us vs : List (Nat × Entry)} {i : Nat} {e : Entry} {key value : String}
  {now : Moment}

lemma Consistent.flat_eq (h : c.Consistent xs) :
    c.flat = ⟨xs.map Prod.snd, c.capacity, c.ttl⟩ := by
  rw [flat, h.holds.entries_eq]

lemma Consistent.flat_split (h : c.Consistent (us ++ (i, e) :: vs)) :
    c.flat = ⟨us.map Prod.snd ++ e :: vs.map Prod.snd, c.capacity, c.ttl⟩ := by
  rw [h.flat_eq]
  simp

@[simp] lemma capacity_evict : c.evict.capacity = c.capacity := by
  rw [evict]
  split <;> rfl

@[simp] lemma ttl_evict : c.evict.ttl = c.ttl := by
  rw [evict]
  split <;> rfl

/-- A full cache loses its last entry, so that there is room for one more. -/
lemma Consistent.makeRoom (h : c.Consistent xs) :
    ∃ ys, (if c.capacity ≤ c.index.size then c.evict else c).Consistent ys ∧
      ys.length < c.capacity ∧ ys.map Prod.snd = c.flat.makeRoom ∧
      ys ⊆ xs := by
  rw [h.flat_eq, FlatCache.makeRoom, List.length_map, h.size_eq]
  by_cases hfull : c.capacity ≤ xs.length
  · rw [if_pos hfull, if_pos hfull]
    have hpos := c.capacity_pos
    have hne : xs ≠ [] := by
      rintro rfl
      rw [List.length_nil] at hfull
      omega
    obtain ⟨us, x, rfl⟩ := (List.eq_nil_or_concat' xs).resolve_left hne
    have hlen := h.length_le
    rw [List.length_append, List.length_singleton] at hlen
    exact ⟨us, h.evict, by omega, by simp, by simp⟩
  · rw [if_neg hfull, if_neg hfull]
    exact ⟨xs, h, by omega, rfl, List.Subset.refl _⟩

/-- A fresh entry goes to the front of the list, which loses its last one if it is full. -/
lemma Consistent.insertFresh (h : c.Consistent xs)
    (hkey : key ∉ (xs.map Prod.snd).map Entry.key) (value : String) (now : Moment) :
    (c.insertFresh key value now).IsConsistent ∧
      (c.insertFresh key value now).flat =
        { c.flat with order := ⟨key, value, now⟩ :: c.flat.makeRoom } := by
  obtain ⟨ys, hys, hroom, hflat, hsub⟩ := h.makeRoom
  have hcap : (if c.capacity ≤ c.index.size then c.evict else c).capacity = c.capacity := by
    split
    · exact capacity_evict
    · rfl
  have httl : (if c.capacity ≤ c.index.size then c.evict else c).ttl = c.ttl := by
    split
    · exact ttl_evict
    · rfl
  have hkey' : key ∉ (ys.map Prod.snd).map Entry.key := fun hm =>
    hkey (List.map_subset _ (List.map_subset _ hsub) hm)
  have hnew := (hys.putIn (e := ⟨key, value, now⟩) hkey' (by rw [hcap]; exact hroom)).recount
  refine ⟨⟨_, hnew⟩, ?_⟩
  refine hnew.flat_eq.trans ?_
  rw [List.map_cons, hflat]
  simp only [Cache.recount, hcap, httl, flat]

/-- A read that finds its key brings the entry to the front with a new stamp. -/
lemma Consistent.touch (h : c.Consistent (us ++ (i, e) :: vs)) (now : Moment) :
    ((c.order.renew i).update i (·.touch now)).Holds ((i, e.touch now) :: (us ++ vs)) := by
  have hrenewed : (c.order.renew i).Holds ([] ++ (i, e) :: (us ++ vs)) := h.holds.renew
  exact hrenewed.update _

/-- **Reading** keeps the invariant, and answers and acts as on the plain list. -/
lemma IsConsistent.get (h : c.IsConsistent) (key : String) (now : Moment) :
    (c.get key now).2.IsConsistent ∧
      c.flat.get key now = ((c.get key now).1, (c.get key now).2.flat) := by
  obtain ⟨xs, h⟩ := h
  cases hi : c.index[key]? with
  | none =>
      rw [Cache.get, hi, h.flat_eq, FlatCache.get_absent (h.absent hi), ← h.flat_eq]
      exact ⟨⟨xs, h.withTally _⟩, rfl⟩
  | some i =>
      obtain ⟨us, e, vs, rfl, rfl⟩ := h.exists_split hi
      have hd := h.nodup_split
      rw [Cache.get, hi, h.flat_split]
      simp only [h.expiredAt_eq]
      cases hx : e.expired c.ttl now with
      | true =>
          have hnew := h.expire.withTally (c.expire e.key i).tally.miss
          rw [FlatCache.get_expired hd hx, if_pos rfl]
          refine ⟨⟨_, hnew⟩, congrArg (Prod.mk none) ?_⟩
          rw [hnew.flat_eq, List.map_append]
          rfl
      | false =>
          have hnew := (h.restamp (f := e.touch now) rfl (h.touch now)).withTally c.tally.hit
          have hget := hnew.holds.get?_eq (List.mem_cons_self)
          simp only at hget
          rw [FlatCache.get_live hd hx, if_neg (by simp), hget]
          refine ⟨⟨_, hnew⟩, congrArg (Prod.mk (some e.value)) ?_⟩
          rw [hnew.flat_eq, List.map_cons, List.map_append]
          rfl

/-- **Writing** keeps the invariant and acts as on the plain list. -/
lemma IsConsistent.put (h : c.IsConsistent) (key value : String) (now : Moment) :
    (c.put key value now).IsConsistent ∧
      c.flat.put key value now = (c.put key value now).flat := by
  obtain ⟨xs, h⟩ := h
  cases hi : c.index[key]? with
  | none =>
      obtain ⟨hnew, hflat⟩ := h.insertFresh (h.absent hi) value now
      rw [Cache.put, hi]
      refine ⟨hnew, ?_⟩
      rw [hflat, h.flat_eq, FlatCache.put_absent (h.absent hi)]
  | some i =>
      obtain ⟨us, e, vs, rfl, rfl⟩ := h.exists_split hi
      have hd := h.nodup_split
      rw [Cache.put, hi, h.flat_split]
      simp only [h.expiredAt_eq]
      cases hx : e.expired c.ttl now with
      | true =>
          have hkey : e.key ∉ ((us ++ vs).map Prod.snd).map Entry.key := by
            rw [List.map_append]
            exact FlatCache.not_mem_beside hd
          obtain ⟨hnew, hflat⟩ := h.expire.insertFresh hkey value now
          rw [FlatCache.put_expired hd hx, if_pos rfl]
          refine ⟨hnew, ?_⟩
          rw [hflat, h.expire.flat_eq, List.map_append]
          rfl
      | false =>
          have hnew := h.restamp (f := ⟨e.key, value, now⟩) rfl
            (h.holds.update fun e => { e with value, lastAccess := now }).renew
          rw [FlatCache.put_live hd hx, if_neg (by simp)]
          refine ⟨⟨_, hnew⟩, ?_⟩
          rw [hnew.flat_eq, List.map_cons, List.map_append]

/-- **Removing** keeps the invariant, and answers and acts as on the plain list. -/
lemma IsConsistent.remove (h : c.IsConsistent) (key : String) :
    (c.remove key).2.IsConsistent ∧
      c.flat.remove key = ((c.remove key).1, (c.remove key).2.flat) := by
  obtain ⟨xs, h⟩ := h
  cases hi : c.index[key]? with
  | none =>
      rw [Cache.remove, hi, h.flat_eq, FlatCache.remove_absent (h.absent hi), ← h.flat_eq]
      exact ⟨⟨xs, h⟩, rfl⟩
  | some i =>
      obtain ⟨us, e, vs, rfl, rfl⟩ := h.exists_split hi
      have hnew := h.takeOut.recount
      rw [Cache.remove, hi, h.flat_split, FlatCache.remove_present h.nodup_split]
      refine ⟨⟨_, hnew⟩, congrArg (Prod.mk true) ?_⟩
      rw [hnew.flat_eq, List.map_append]
      rfl

lemma IsConsistent.contains_eq (h : c.IsConsistent) (key : String) :
    c.flat.contains key = c.contains key := by
  obtain ⟨xs, h⟩ := h
  rw [h.flat_eq, Cache.contains, Std.TreeMap.contains_eq_isSome_getElem?, Bool.eq_iff_iff,
    Option.isSome_iff_exists, FlatCache.contains, List.any_eq_true]
  constructor
  · rintro ⟨e, he, hk⟩
    obtain ⟨⟨i, e⟩, hx, rfl⟩ := List.mem_map.mp he
    exact ⟨i, (h.index_iff key i).mpr ⟨e, hx, of_decide_eq_true hk⟩⟩
  · rintro ⟨i, hi⟩
    obtain ⟨e, he, hk⟩ := (h.index_iff key i).mp hi
    exact ⟨e, List.mem_map_of_mem he, decide_eq_true hk⟩

/-- What is put is contained. -/
lemma IsConsistent.contains_put (h : c.IsConsistent) (key value : String) (now : Moment) :
    (c.put key value now).contains key = true := by
  obtain ⟨hnew, hflat⟩ := h.put key value now
  rw [← hnew.contains_eq, ← hflat, FlatCache.put]
  split
  · simp [FlatCache.contains]
  · simp [FlatCache.contains]

/-- What is removed is not. -/
lemma IsConsistent.contains_remove (h : c.IsConsistent) (key : String) :
    (c.remove key).2.contains key = false := by
  obtain ⟨hnew, hflat⟩ := h.remove key
  have hremoved : (c.flat.remove key).2 = (c.remove key).2.flat := congrArg Prod.snd hflat
  rw [← hnew.contains_eq, ← hremoved, FlatCache.contains, List.any_eq_false]
  intro e he
  simpa using (FlatCache.mem_without.mp he).2

lemma IsConsistent.size_eq (h : c.IsConsistent) : c.flat.size = c.size := by
  obtain ⟨xs, h⟩ := h
  rw [h.flat_eq, Cache.size, h.size_eq, FlatCache.size, List.length_map]

end ReplicatedCache.Cache
