/-
A key stays in a cache as long as fewer other keys than the cache has room for are put after it.

* `keysPut`: the keys that some operations put;
* `FlatCache.Behind`: **the invariant**: an entry that stands in a list, and the keys that may stand
  in front of it;
* `Behind.put`: what a put of another key adds to them; the entry makes room for none of them while
  there are fewer than the capacity;
* `Cache.behind_applyAll`: the same for several operations;
* `Cache.mem_applyAll`: **survival**: an entry is still there after operations on other keys that
  put fewer of them than the capacity;
* `Cache.get_of_mem`: an entry that is there and has not expired is found.
-/
import Mathlib.Data.Finset.Card
import ReplicatedCache.Proofs.Cache.Expiry
import ReplicatedCache.Proofs.Cache.Freshness

namespace ReplicatedCache

/-- The key that an operation puts, if it is a put. -/
def Operation.keyPut? : Operation → Option String
  | put key _ => some key
  | delete _ => none

/-- The keys that some operations put. -/
def keysPut (ops : List Operation) : Finset String := (ops.filterMap Operation.keyPut?).toFinset

@[simp] lemma keysPut_nil : keysPut [] = ∅ := rfl

lemma keysPut_put (key value : String) (ops : List Operation) :
    keysPut (.put key value :: ops) = insert key (keysPut ops) := List.toFinset_cons

lemma keysPut_delete (key : String) (ops : List Operation) :
    keysPut (.delete key :: ops) = keysPut ops := rfl

namespace FlatCache

lemma capacity_dropExpired (c : FlatCache) (key : String) (now : Moment) :
    (c.dropExpired key now).capacity = c.capacity := by
  rw [dropExpired]
  split
  · split <;> rfl
  · rfl

/-- **The invariant of an entry that was used last**: it stands in the list, and in front of it are
only entries with some of the given keys. -/
def Behind (es : List Entry) (e : Entry) (keys : Finset String) : Prop :=
  ∃ us vs, es = us ++ e :: vs ∧ ∀ f ∈ us, f.key ∈ keys

namespace Behind

variable {es : List Entry} {e : Entry} {keys : Finset String} {key : String} {now : Moment}
  {c : FlatCache}

lemma mem (h : Behind es e keys) : e ∈ es := by
  obtain ⟨us, vs, rfl, -⟩ := h
  exact List.mem_append_right us List.mem_cons_self

/-- An entry at the front. -/
lemma front (e : Entry) (es : List Entry) : Behind (e :: es) e ∅ :=
  ⟨[], es, rfl, fun _ hf => (List.not_mem_nil hf).elim⟩

/-- Another entry goes to the front. -/
lemma cons (h : Behind es e keys) (f : Entry) : Behind (f :: es) e (insert f.key keys) := by
  obtain ⟨us, vs, rfl, hkeys⟩ := h
  refine ⟨f :: us, vs, rfl, List.forall_mem_cons.mpr ⟨Finset.mem_insert_self _ _, ?_⟩⟩
  exact fun g hg => Finset.mem_insert_of_mem (hkeys g hg)

/-- Another entry leaves the list. -/
lemma without (h : Behind es e keys) (hkey : key ≠ e.key) :
    Behind (FlatCache.without es key) e keys := by
  obtain ⟨us, vs, rfl, hkeys⟩ := h
  refine ⟨FlatCache.without us key, FlatCache.without vs key, ?_, fun f hf =>
    hkeys f (mem_without.mp hf).1⟩
  simp only [FlatCache.without]
  rw [List.filter_append, List.filter_cons_of_pos (by simpa using hkey.symm)]

lemma dropExpired (h : Behind c.order e keys) (hkey : key ≠ e.key) (now : Moment) :
    Behind (c.dropExpired key now).order e keys := by
  rw [FlatCache.dropExpired]
  split
  · split
    · exact h.without hkey
    · exact h
  · exact h

/-- The entries in front of it have distinct keys, and so there are no more of them than keys. -/
lemma length_front_le {us vs : List Entry} (hd : ((us ++ e :: vs).map Entry.key).Nodup)
    (hkeys : ∀ f ∈ us, f.key ∈ keys) : us.length ≤ keys.card := by
  have hus : (us.map Entry.key).Nodup := by
    rw [List.map_append] at hd
    exact (List.nodup_append.mp hd).1
  have hsubset : (us.map Entry.key).toFinset ⊆ keys := by
    intro k hk
    obtain ⟨f, hf, rfl⟩ := List.mem_map.mp (List.mem_toFinset.mp hk)
    exact hkeys f hf
  calc us.length = (us.map Entry.key).toFinset.card := by
        rw [List.toFinset_card_of_nodup hus, List.length_map]
    _ ≤ keys.card := Finset.card_le_card hsubset

/-- **Making room** for a new key costs another entry, or else this key and those in front of the
entry are as many as the capacity. -/
lemma makeRoom (h : Behind c.order e keys) (hd : (c.order.map Entry.key).Nodup)
    (hnew : key ∉ c.order.map Entry.key) :
    Behind c.makeRoom e keys ∨
      e.key ∉ c.makeRoom.map Entry.key ∧ c.capacity ≤ (insert key keys).card := by
  obtain ⟨order, capacity, ttl⟩ := c
  obtain ⟨us, vs, rfl, hkeys⟩ := h
  rw [FlatCache.makeRoom]
  split
  next hfull =>
      rcases List.eq_nil_or_concat' vs with rfl | ⟨vs, x, rfl⟩
      · -- the new key is none of those in front of the entry, which is the last one
        refine .inr ⟨by simpa using (not_mem_of_nodup hd).1, ?_⟩
        have hothers : ∀ f ∈ us, f.key ∈ (insert key keys).erase key := fun f hf =>
          Finset.mem_erase.mpr ⟨fun hk => hnew (List.mem_map.mpr ⟨f, by simp [hf], hk⟩),
            Finset.mem_insert_of_mem (hkeys f hf)⟩
        have hlength := length_front_le hd hothers
        rw [Finset.card_erase_of_mem (Finset.mem_insert_self key keys)] at hlength
        have hpos := Finset.card_pos.mpr (Finset.insert_nonempty key keys)
        simp only [List.length_append, List.length_singleton] at hfull ⊢
        omega
      · refine .inl ⟨us, vs, ?_, hkeys⟩
        rw [← List.cons_append, ← List.append_assoc, List.dropLast_concat]
  next => exact .inl ⟨us, vs, rfl, hkeys⟩

/-- **A put** of another key puts that key in front, or else this key and those in front of the
entry are as many as the capacity. -/
lemma put (h : Behind c.order e keys) (hd : (c.order.map Entry.key).Nodup) (hkey : key ≠ e.key)
    (value : String) (now : Moment) :
    Behind (c.put key value now).order e (insert key keys) ∨
      e.key ∉ (c.put key value now).order.map Entry.key ∧
        c.capacity ≤ (insert key keys).card := by
  have hdropped := h.dropExpired hkey now
  have hd' := hd.sublist ((c.dropExpired_sublist key now).map Entry.key)
  rw [FlatCache.put]
  split
  · exact .inl ((hdropped.without hkey).cons ⟨key, value, now⟩)
  next hfind =>
      rw [← capacity_dropExpired c key now]
      refine (hdropped.makeRoom hd' (not_mem_of_find? hfind)).imp (fun h => h.cons _) ?_
      rintro ⟨hgone, hle⟩
      refine ⟨?_, hle⟩
      rw [List.map_cons, List.mem_cons, not_or]
      exact ⟨hkey.symm, hgone⟩

/-- An entry that was put stands at the front. -/
lemma put_self (c : FlatCache) (key value : String) (now : Moment) :
    Behind (c.put key value now).order ⟨key, value, now⟩ ∅ := by
  rw [FlatCache.put]
  split
  · exact front _ _
  · exact front _ _

end Behind

end FlatCache

/-! ### Operations on the cache itself -/

namespace Cache

open FlatCache (Behind)

variable {c : Cache} {e : Entry} {keys : Finset String} {now : Moment}

/-- An operation changes no setting. -/
lemma kept_apply (c : Cache) (op : Operation) (now : Moment) :
    (c.apply op now).capacity = c.capacity ∧ (c.apply op now).ttl = c.ttl := by
  cases op with
  | put key value =>
      obtain ⟨hcapacity, httl, -, -⟩ := c.kept_put key value now
      exact ⟨hcapacity, httl⟩
  | delete key =>
      obtain ⟨hcapacity, httl, -, -⟩ := c.kept_remove key
      exact ⟨hcapacity, httl⟩

/-- Several operations change no setting and keep the invariant. -/
lemma IsConsistent.applyAll (hc : c.IsConsistent) (ops : List Operation) (now : Moment) :
    (c.applyAll ops now).IsConsistent ∧ (c.applyAll ops now).capacity = c.capacity ∧
      (c.applyAll ops now).ttl = c.ttl := by
  induction ops generalizing c with
  | nil => exact ⟨hc, rfl, rfl⟩
  | cons op ops ih =>
      obtain ⟨hcapacity, httl⟩ := c.kept_apply op now
      obtain ⟨hnew, hcapacity', httl'⟩ := ih (hc.apply op now).1
      exact ⟨hnew, hcapacity'.trans hcapacity, httl'.trans httl⟩

/-- **Several operations on other keys** put the keys of their puts in front of an entry, if there
are fewer of them than the capacity. -/
lemma behind_applyAll (hc : c.IsConsistent) (h : Behind c.order.entries e keys)
    {ops : List Operation} (hops : ∀ op ∈ ops, op.key ≠ e.key)
    (hfew : (keys ∪ keysPut ops).card < c.capacity) (now : Moment) :
    Behind (c.applyAll ops now).order.entries e (keys ∪ keysPut ops) := by
  induction ops generalizing c keys with
  | nil => rwa [keysPut_nil, Finset.union_empty]
  | cons op ops ih =>
      rw [List.forall_mem_cons] at hops
      obtain ⟨hnew, hflat⟩ := hc.apply op now
      have hcapacity := (c.kept_apply op now).1
      cases op with
      | put key value =>
          rw [keysPut_put, Finset.union_insert, ← Finset.insert_union] at hfew ⊢
          have hfew' : (insert key keys).card < c.flat.capacity :=
            (Finset.card_le_card Finset.subset_union_left).trans_lt hfew
          have hput : Behind (c.flat.put key value now).order e (insert key keys) :=
            (Behind.put (c := c.flat) h hc.keys_nodup hops.1 value now).resolve_right
              fun hgone => hfew'.not_ge hgone.2
          rw [show c.flat.put key value now = (c.put key value now).flat from hflat] at hput
          exact ih hnew hput hops.2 (by rwa [hcapacity])
      | delete key =>
          rw [keysPut_delete] at hfew ⊢
          have hremove : Behind (c.flat.remove key).2.order e keys := h.without hops.1
          rw [show (c.flat.remove key).2 = (c.remove key).2.flat from hflat] at hremove
          exact ih hnew hremove hops.2 (by rwa [hcapacity])

/-- **Survival**: an entry that is put is still there after operations on other keys that put fewer
of them than the capacity. -/
lemma mem_applyAll (hc : c.IsConsistent) (before after : List Operation) (key value : String)
    (now : Moment) (hafter : ∀ op ∈ after, op.key ≠ key)
    (hfew : (keysPut after).card < c.capacity) :
    ⟨key, value, now⟩ ∈ (c.applyAll (before ++ .put key value :: after) now).order.entries := by
  obtain ⟨hbefore, hcapacity, -⟩ := hc.applyAll before now
  obtain ⟨hput, hflat⟩ := hbefore.put key value now
  have hfront : Behind ((c.applyAll before now).put key value now).order.entries
      ⟨key, value, now⟩ ∅ := by
    have hself := Behind.put_self (c.applyAll before now).flat key value now
    rwa [hflat] at hself
  rw [applyAll, List.foldl_append]
  refine (behind_applyAll hput hfront hafter ?_ now).mem
  rw [((c.applyAll before now).kept_put key value now).1, hcapacity, Finset.empty_union]
  exact hfew

/-- An entry that is there and has not expired is found. -/
lemma get_of_mem (hc : c.IsConsistent) (he : e ∈ c.order.entries)
    (hlive : e.expired c.ttl now = false) : (c.get e.key now).1 = some e.value := by
  have hd := hc.keys_nodup
  have hflat := congrArg Prod.fst (hc.get e.key now).2
  obtain ⟨us, vs, hsplit⟩ := List.append_of_mem he
  rw [hsplit] at hd
  rw [← hflat, flat, hsplit, FlatCache.get_live hd hlive]

end Cache

end ReplicatedCache
