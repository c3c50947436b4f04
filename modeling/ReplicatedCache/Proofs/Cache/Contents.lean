/-
The contents of a cache in which nothing expires: a list of keys and values that depends on the
operations alone, and not on the moments at which they are applied.

* `Contents.apply`, `Contents.applyAll`: the effect of one operation and of several;
* `Cache.Stores`: a cache without expiry, with its capacity and its contents;
* `Cache.Stores.apply`: **one operation**: the contents change as the list does;
* `Cache.Stores.entries_eq`: the entries are the contents, at every moment.
-/
import ReplicatedCache.Proofs.Cache.Refinement

namespace ReplicatedCache

/-- Keys and values, most recently used first. -/
abbrev Contents := List (String × String)

namespace Contents

/-- The contents without a key. -/
def without (ps : Contents) (key : String) : Contents := ps.filter fun p => p.1 ≠ key

/-- Writes a key: it goes to the front, and the last one makes room for it if it is new and the
list is full. -/
def put (capacity : Nat) (ps : Contents) (key value : String) : Contents :=
  if key ∈ ps.map Prod.fst then (key, value) :: ps.without key
  else (key, value) :: if capacity ≤ ps.length then ps.dropLast else ps

/-- The effect of an operation. -/
def apply (capacity : Nat) (ps : Contents) : Operation → Contents
  | .put key value => ps.put capacity key value
  | .delete key => ps.without key

/-- The effect of several operations, the first one first. -/
def applyAll (capacity : Nat) (ps : Contents) (ops : List Operation) : Contents :=
  ops.foldl (apply capacity) ps

lemma applyAll_append (capacity : Nat) (ps : Contents) (ops ops' : List Operation) :
    applyAll capacity ps (ops ++ ops') = applyAll capacity (applyAll capacity ps ops) ops' :=
  List.foldl_append

lemma applyAll_concat (capacity : Nat) (ps : Contents) (ops : List Operation) (op : Operation) :
    applyAll capacity ps (ops ++ [op]) = apply capacity (applyAll capacity ps ops) op :=
  applyAll_append capacity ps ops [op]

end Contents

namespace FlatCache

/-- The keys and values of a plain list. -/
def pairs (es : List Entry) : Contents := es.map fun e => (e.key, e.value)

variable {es : List Entry} {key value : String} {capacity : Nat} {now : Moment}

lemma pairs_without (es : List Entry) (key : String) :
    pairs (without es key) = (pairs es).without key := by
  rw [pairs, without, Contents.without, pairs, List.filter_map]
  rfl

lemma keys_pairs (es : List Entry) : (pairs es).map Prod.fst = es.map Entry.key := by
  rw [pairs, List.map_map]
  rfl

lemma find?_of_mem (h : key ∈ es.map Entry.key) : ∃ e, find? es key = some e := by
  obtain ⟨e, he, hk⟩ := List.mem_map.mp h
  rw [← Option.isSome_iff_exists, find?, List.find?_isSome]
  exact ⟨e, he, decide_eq_true hk⟩

/-- Where nothing expires, an access drops nothing. -/
lemma dropExpired_lasting : dropExpired ⟨es, capacity, none⟩ key now = ⟨es, capacity, none⟩ := by
  rw [dropExpired]
  split
  · exact if_neg (by simp [Entry.expired])
  · rfl

lemma pairs_put : pairs (put ⟨es, capacity, none⟩ key value now).order =
    (pairs es).put capacity key value := by
  rw [put, dropExpired_lasting, Contents.put, keys_pairs]
  by_cases hkey : key ∈ es.map Entry.key
  · obtain ⟨e, he⟩ := find?_of_mem hkey
    simp only [he, if_pos hkey]
    rw [← pairs_without]
    rfl
  · have hlength : (pairs es).length = es.length := List.length_map _
    simp only [find?_absent hkey, if_neg hkey, makeRoom, hlength]
    split
    · exact congrArg (List.cons _) List.map_dropLast
    · rfl

/-- An operation changes a plain list without expiry as it changes the contents. -/
lemma apply_lasting (es : List Entry) (capacity : Nat) (op : Operation) (now : Moment) :
    ∃ es', apply ⟨es, capacity, none⟩ op now = ⟨es', capacity, none⟩ ∧
      pairs es' = (pairs es).apply capacity op := by
  cases op with
  | put key value =>
      refine ⟨(put ⟨es, capacity, none⟩ key value now).order, ?_, pairs_put⟩
      rw [apply, put, dropExpired_lasting]
      split <;> rfl
  | delete key => exact ⟨without es key, rfl, pairs_without es key⟩

end FlatCache

namespace Cache

open FlatCache (pairs)

/-- **A cache in which nothing expires**, with its capacity and its contents. -/
structure Stores (c : Cache) (capacity : Nat) (ps : Contents) : Prop where
  consistent : c.IsConsistent
  lasting : c.ttl = none
  capacity_eq : c.capacity = capacity
  contents_eq : pairs c.order.entries = ps

/-- The effect of several operations at one moment. -/
def applyAll (c : Cache) (ops : List Operation) (now : Moment) : Cache :=
  ops.foldl (fun c op => c.apply op now) c

variable {c : Cache} {capacity : Nat} {ps : Contents}

lemma stores_empty (capacity : Nat) : (empty capacity none).Stores (max capacity 1) [] := by
  have h := consistent_empty capacity none
  refine ⟨⟨[], h⟩, rfl, rfl, ?_⟩
  rw [h.holds.entries_eq]
  rfl

/-- An operation keeps the invariant and acts as on the plain list. -/
lemma IsConsistent.apply (h : c.IsConsistent) (op : Operation) (now : Moment) :
    (c.apply op now).IsConsistent ∧ c.flat.apply op now = (c.apply op now).flat := by
  cases op with
  | put key value => exact h.put key value now
  | delete key => exact ⟨(h.remove key).1, congrArg Prod.snd (h.remove key).2⟩

namespace Stores

/-- **One operation** changes the contents as it changes the list, whenever it is applied. -/
lemma apply (h : c.Stores capacity ps) (op : Operation) (now : Moment) :
    (c.apply op now).Stores capacity (ps.apply capacity op) := by
  obtain ⟨hc, httl, rfl, rfl⟩ := h
  obtain ⟨hnew, hflat⟩ := hc.apply op now
  obtain ⟨es, hes, hpairs⟩ := FlatCache.apply_lasting c.order.entries c.capacity op now
  rw [flat, httl, hes] at hflat
  obtain ⟨horder, hcapacity, hnone⟩ := FlatCache.mk.inj hflat
  exact ⟨hnew, hnone.symm, hcapacity.symm, by rw [← horder, hpairs]⟩

/-- Several operations, one after the other. -/
lemma applyAll (h : c.Stores capacity ps) (ops : List Operation) (now : Moment) :
    (c.applyAll ops now).Stores capacity (ps.applyAll capacity ops) := by
  induction ops generalizing c ps with
  | nil => exact h
  | cons op ops ih => exact ih (h.apply op now)

/-- At every moment, the entries are the contents. -/
lemma entries_eq (h : c.Stores capacity ps) (now : Moment) : c.entries now = ps := by
  rw [← h.contents_eq, entries, live, List.filter_eq_self.mpr]
  · rfl
  · intro e _
    rw [h.lasting]
    rfl

end Stores

end Cache

end ReplicatedCache
