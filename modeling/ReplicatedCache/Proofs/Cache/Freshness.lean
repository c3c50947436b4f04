/-
What a cache holds, seen from the operations applied to it: whatever is read in between, evicted or
expired, each entry is what the last operation on its key has put there.

* `lastOn`: the last of some operations on a key;
* `FlatCache.mem_get`, `FlatCache.mem_put`, `FlatCache.mem_apply`: where the entries come from that
  a plain list holds after an access;
* `Cache.Fresh`: **the invariant**: no entry is older than the last operation on its key;
* `Fresh.apply`, `Fresh.applyAll`, `Fresh.get`: operations and reads keep it;
* `Fresh.last_of_get`, `Fresh.last_of_entries`: what is read or listed was put there last.
-/
import ReplicatedCache.Proofs.Cache.Contents

namespace ReplicatedCache

/-- The last of some operations on a key. -/
def lastOn (ops : List Operation) (key : String) : Option Operation :=
  (ops.filter fun op => op.key = key).getLast?

lemma lastOn_concat_self (ops : List Operation) (op : Operation) :
    lastOn (ops ++ [op]) op.key = some op := by
  rw [lastOn, List.filter_append, List.filter_cons_of_pos (by simp), List.filter_nil,
    List.getLast?_concat]

lemma lastOn_concat_of_ne (ops : List Operation) {op : Operation} {key : String}
    (h : key ≠ op.key) : lastOn (ops ++ [op]) key = lastOn ops key := by
  rw [lastOn, List.filter_append, List.filter_cons_of_neg (by simpa using Ne.symm h),
    List.filter_nil, List.append_nil, lastOn]

namespace FlatCache

variable {c : FlatCache} {e : Entry} {key value : String} {op : Operation} {now : Moment}

/-- What an access drops first is not there, and nothing is added. -/
lemma mem_dropExpired (h : e ∈ (c.dropExpired key now).order) : e ∈ c.order := by
  rw [dropExpired] at h
  split at h
  · split at h
    · exact (mem_without.mp h).1
    · exact h
  · exact h

lemma mem_makeRoom (h : e ∈ c.makeRoom) : e ∈ c.order := by
  rw [makeRoom] at h
  split at h
  · exact List.dropLast_subset _ h
  · exact h

lemma mem_of_find? {es : List Entry} (h : find? es key = some e) : e ∈ es ∧ e.key = key :=
  ⟨List.mem_of_find?_eq_some h, by simpa using List.find?_some h⟩

lemma key_ne_of_find? {es : List Entry} (h : find? es key = none) (he : e ∈ es) : e.key ≠ key := by
  rw [find?, List.find?_eq_none] at h
  simpa using h e he

lemma not_mem_of_find? {es : List Entry} (h : find? es key = none) : key ∉ es.map Entry.key := by
  intro hm
  obtain ⟨e, he, hkey⟩ := List.mem_map.mp hm
  exact key_ne_of_find? h he hkey

/-- **A read** stamps an entry anew at most, and finds the value of one. -/
lemma mem_get (c : FlatCache) (key : String) (now : Moment) :
    (∀ e ∈ (c.get key now).2.order, ∃ e' ∈ c.order, e'.key = e.key ∧ e'.value = e.value) ∧
      ∀ value, (c.get key now).1 = some value → ∃ e ∈ c.order, e.key = key ∧ e.value = value := by
  rw [get]
  split
  next e hfind =>
      obtain ⟨he, hkey⟩ := mem_of_find? hfind
      constructor
      · intro e' he'
        rcases List.mem_cons.mp he' with rfl | he'
        · exact ⟨e, mem_dropExpired he, hkey, rfl⟩
        · exact ⟨e', mem_dropExpired (mem_without.mp he').1, rfl, rfl⟩
      · rintro value ⟨⟩
        exact ⟨e, mem_dropExpired he, hkey, rfl⟩
  next =>
      refine ⟨fun e he => ⟨e, mem_dropExpired he, rfl, rfl⟩, fun value h => ?_⟩
      cases h

/-- **A put** leaves its own entry, and of the other ones those of other keys. -/
lemma mem_put (h : e ∈ (c.put key value now).order) :
    e = ⟨key, value, now⟩ ∨ (e ∈ c.order ∧ e.key ≠ key) := by
  rw [put] at h
  split at h
  next =>
      refine (List.mem_cons.mp h).imp_right fun he => ?_
      obtain ⟨he, hkey⟩ := mem_without.mp he
      exact ⟨mem_dropExpired he, hkey⟩
  next hfind =>
      refine (List.mem_cons.mp h).imp_right fun he => ?_
      exact ⟨mem_dropExpired (mem_makeRoom he), key_ne_of_find? hfind (mem_makeRoom he)⟩

/-- **An operation** leaves entries of other keys, and one of its own key only if it is a put. -/
lemma mem_apply (h : e ∈ (c.apply op now).order) :
    op = .put e.key e.value ∨ (e ∈ c.order ∧ e.key ≠ op.key) := by
  cases op with
  | put key value =>
      rcases mem_put h with rfl | hother
      · exact .inl rfl
      · exact .inr hother
  | delete key => exact .inr (mem_without.mp h)

end FlatCache

namespace Cache

/-- **The invariant**: each entry is what the last operation on its key has put there. -/
structure Fresh (c : Cache) (ops : List Operation) : Prop where
  consistent : c.IsConsistent
  last_eq : ∀ e ∈ c.order.entries, lastOn ops e.key = some (.put e.key e.value)

variable {c : Cache} {ops : List Operation}

lemma fresh_empty (capacity : Nat) (ttl : Option Nat) : (empty capacity ttl).Fresh [] := by
  have h := consistent_empty capacity ttl
  refine ⟨⟨[], h⟩, fun e he => ?_⟩
  rw [h.holds.entries_eq] at he
  cases he

namespace Fresh

variable (h : c.Fresh ops)

include h

/-- **An operation** keeps the invariant. -/
lemma apply (op : Operation) (now : Moment) : (c.apply op now).Fresh (ops ++ [op]) := by
  obtain ⟨hnew, hflat⟩ := h.consistent.apply op now
  refine ⟨hnew, fun e he => ?_⟩
  have he' : e ∈ (c.flat.apply op now).order := hflat ▸ he
  rcases FlatCache.mem_apply he' with rfl | ⟨he', hkey⟩
  · exact lastOn_concat_self ops (.put e.key e.value)
  · rw [lastOn_concat_of_ne ops hkey]
    exact h.last_eq e he'

/-- Several operations, one after the other. -/
lemma applyAll (ops' : List Operation) (now : Moment) :
    (c.applyAll ops' now).Fresh (ops ++ ops') := by
  induction ops' generalizing c ops with
  | nil => rwa [List.append_nil]
  | cons op ops' ih =>
      have hrest := ih (h.apply op now)
      rwa [List.append_assoc] at hrest

/-- **A read** keeps the invariant, although it moves and stamps entries. -/
lemma get (key : String) (now : Moment) : (c.get key now).2.Fresh ops := by
  obtain ⟨hnew, hflat⟩ := h.consistent.get key now
  refine ⟨hnew, fun e he => ?_⟩
  have he' : e ∈ (c.flat.get key now).2.order := by
    rw [hflat]
    exact he
  obtain ⟨e', hmem, hkey, hvalue⟩ := (c.flat.mem_get key now).1 e he'
  rw [← hkey, ← hvalue]
  exact h.last_eq e' hmem

/-- What is read was put there last. -/
lemma last_of_get {key value : String} {now : Moment} (hget : (c.get key now).1 = some value) :
    lastOn ops key = some (.put key value) := by
  have hflat := (h.consistent.get key now).2
  obtain ⟨e, he, rfl, rfl⟩ := (c.flat.mem_get key now).2 value (by rw [hflat, hget])
  exact h.last_eq e he

/-- What is listed was put there last. -/
lemma last_of_entries {key value : String} {now : Moment} (hlisted : (key, value) ∈ c.entries now) :
    lastOn ops key = some (.put key value) := by
  obtain ⟨e, he, hpair⟩ := List.mem_map.mp hlisted
  obtain ⟨rfl, rfl⟩ := Prod.mk.inj hpair
  exact h.last_eq e (List.mem_filter.mp he).1

end Fresh

end Cache

end ReplicatedCache
