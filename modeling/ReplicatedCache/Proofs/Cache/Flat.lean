/-
A cache as one plain list of entries, most recently used first. It is the model that the cache
with its index and its chained slots is measured by.

* `FlatCache.get`, `FlatCache.put`, `FlatCache.remove`: the three accesses on the list; a read
  or a write drops the entry of its key first if it has expired;
* `FlatCache.live`, `FlatCache.entries`, `FlatCache.keys`: what is not expired, in order;
* `get_absent`, `get_expired`, `get_live` and the like: what an access does to a list in which
  its key is not found, has expired or is live.
-/
import Mathlib.Tactic.Lemma
import ReplicatedCache.Cache.Basic

namespace ReplicatedCache

/-- A cache of at most `capacity` entries that is nothing but the list of them. -/
structure FlatCache where
  /-- The entries, expired ones included, most recently used first. -/
  order : List Entry
  capacity : Nat
  /-- How long an entry may be idle, in nanoseconds; without it no entry expires. -/
  ttl : Option Nat

namespace FlatCache

/-- An empty cache. It holds at least one entry, also if none are asked for. -/
def empty (capacity : Nat) (ttl : Option Nat) : FlatCache where
  order := []
  capacity := if capacity = 0 then 1 else capacity
  ttl := ttl

/-- The entry of a key in a list, expired or not. -/
def find? (es : List Entry) (key : String) : Option Entry := es.find? fun e => e.key = key

/-- A list without the entry of a key. -/
def without (es : List Entry) (key : String) : List Entry := es.filter fun e => e.key ≠ key

/-- Drops the entry of a key if it has expired. -/
def dropExpired (c : FlatCache) (key : String) (now : Moment) : FlatCache :=
  match find? c.order key with
  | some e => if e.expired c.ttl now then { c with order := without c.order key } else c
  | none => c

/-- The list without its last entry if it is full. -/
def makeRoom (c : FlatCache) : List Entry :=
  if c.capacity ≤ c.order.length then c.order.dropLast else c.order

/-- Reads a key: its entry, unless expired, is stamped anew and moved to the front. -/
def get (c : FlatCache) (key : String) (now : Moment) : Option String × FlatCache :=
  let c := c.dropExpired key now
  match find? c.order key with
  | some e => (some e.value, { c with order := ⟨key, e.value, now⟩ :: without c.order key })
  | none => (none, c)

/-- Writes a key: its entry, unless expired, is replaced and moved to the front; a fresh one is
put there, and the last entry is dropped for it if the list is full. -/
def put (c : FlatCache) (key value : String) (now : Moment) : FlatCache :=
  let c := c.dropExpired key now
  match find? c.order key with
  | some _ => { c with order := ⟨key, value, now⟩ :: without c.order key }
  | none => { c with order := ⟨key, value, now⟩ :: c.makeRoom }

/-- Drops a key, expired or not, and says whether it was there. -/
def remove (c : FlatCache) (key : String) : Bool × FlatCache :=
  ((find? c.order key).isSome, { c with order := without c.order key })

/-- The effect of an operation. -/
def apply (c : FlatCache) (op : Operation) (now : Moment) : FlatCache :=
  match op with
  | .put key value => c.put key value now
  | .delete key => (c.remove key).2

/-- Whether a key is in the list, expired or not. -/
def contains (c : FlatCache) (key : String) : Bool := c.order.any fun e => e.key = key

/-- The number of entries, expired ones included. -/
def size (c : FlatCache) : Nat := c.order.length

/-- The entries that have not expired. -/
def live (c : FlatCache) (now : Moment) : List Entry :=
  c.order.filter fun e => !e.expired c.ttl now

/-- The keys and values that have not expired. -/
def entries (c : FlatCache) (now : Moment) : List (String × String) :=
  (c.live now).map fun e => (e.key, e.value)

/-- The keys that have not expired. -/
def keys (c : FlatCache) (now : Moment) : List String := (c.live now).map Entry.key

/-! ### A key that stands in the list once -/

section Split

variable {es us vs : List Entry} {e : Entry} {key : String}

lemma mem_without : e ∈ without es key ↔ e ∈ es ∧ e.key ≠ key := by
  rw [without, List.mem_filter, decide_eq_true_eq]

/-- A list without the key is left alone. -/
lemma without_absent (h : key ∉ es.map Entry.key) : without es key = es := by
  rw [without, List.filter_eq_self]
  intro e he
  simp only [ne_eq, decide_eq_true_eq]
  exact fun hk => h (hk ▸ List.mem_map_of_mem he)

lemma find?_absent (h : key ∉ es.map Entry.key) : find? es key = none := by
  rw [find?, List.find?_eq_none]
  intro e he
  simp only [decide_eq_true_eq]
  exact fun hk => h (hk ▸ List.mem_map_of_mem he)

variable (hd : ((us ++ e :: vs).map Entry.key).Nodup)

include hd in
lemma not_mem_of_nodup : e.key ∉ us.map Entry.key ∧ e.key ∉ vs.map Entry.key := by
  rw [List.map_append, List.map_cons, List.perm_middle.nodup_iff, List.nodup_cons] at hd
  simpa using hd.1

include hd in
/-- Without its key, an entry leaves the two parts of the list beside it. -/
lemma without_split : without (us ++ e :: vs) e.key = us ++ vs := by
  obtain ⟨hu, hv⟩ := not_mem_of_nodup hd
  have hus := without_absent hu
  have hvs := without_absent hv
  rw [without] at hus hvs ⊢
  rw [List.filter_append, List.filter_cons_of_neg (by simp), hus, hvs]

include hd in
lemma find?_split : find? (us ++ e :: vs) e.key = some e := by
  have hu := find?_absent (not_mem_of_nodup hd).1
  rw [find?] at hu ⊢
  rw [List.find?_append, hu]
  simp

end Split

/-! ### The accesses, case by case -/

section Accesses

variable {es us vs : List Entry} {e : Entry} {key : String} {capacity : Nat} {ttl : Option Nat}
  {now : Moment}

lemma dropExpired_absent (h : key ∉ es.map Entry.key) :
    dropExpired ⟨es, capacity, ttl⟩ key now = ⟨es, capacity, ttl⟩ := by
  rw [dropExpired, find?_absent h]

lemma get_absent (h : key ∉ es.map Entry.key) :
    get ⟨es, capacity, ttl⟩ key now = (none, ⟨es, capacity, ttl⟩) := by
  rw [get, dropExpired_absent h]
  simp only [find?_absent h]

lemma put_absent (h : key ∉ es.map Entry.key) (value : String) :
    put ⟨es, capacity, ttl⟩ key value now =
      ⟨⟨key, value, now⟩ :: makeRoom ⟨es, capacity, ttl⟩, capacity, ttl⟩ := by
  rw [put, dropExpired_absent h]
  simp only [find?_absent h]

lemma remove_absent (h : key ∉ es.map Entry.key) :
    remove ⟨es, capacity, ttl⟩ key = (false, ⟨es, capacity, ttl⟩) := by
  simp only [remove, find?_absent h, without_absent h, Option.isSome_none]

variable (hd : ((us ++ e :: vs).map Entry.key).Nodup)

include hd in
lemma not_mem_beside : e.key ∉ (us ++ vs).map Entry.key := by
  obtain ⟨hu, hv⟩ := not_mem_of_nodup hd
  rw [List.map_append, List.mem_append]
  exact fun h => h.elim hu hv

include hd in
lemma dropExpired_expired (hx : e.expired ttl now = true) :
    dropExpired ⟨us ++ e :: vs, capacity, ttl⟩ e.key now = ⟨us ++ vs, capacity, ttl⟩ := by
  simp only [dropExpired, find?_split hd, hx, if_true, without_split hd]

include hd in
lemma dropExpired_live (hx : e.expired ttl now = false) :
    dropExpired ⟨us ++ e :: vs, capacity, ttl⟩ e.key now = ⟨us ++ e :: vs, capacity, ttl⟩ := by
  simp only [dropExpired, find?_split hd, hx, Bool.false_eq_true, if_false]

include hd in
lemma get_expired (hx : e.expired ttl now = true) :
    get ⟨us ++ e :: vs, capacity, ttl⟩ e.key now = (none, ⟨us ++ vs, capacity, ttl⟩) := by
  rw [get, dropExpired_expired hd hx]
  simp only [find?_absent (not_mem_beside hd)]

include hd in
lemma get_live (hx : e.expired ttl now = false) :
    get ⟨us ++ e :: vs, capacity, ttl⟩ e.key now =
      (some e.value, ⟨⟨e.key, e.value, now⟩ :: (us ++ vs), capacity, ttl⟩) := by
  rw [get, dropExpired_live hd hx]
  simp only [find?_split hd, without_split hd]

include hd in
lemma put_expired (hx : e.expired ttl now = true) (value : String) :
    put ⟨us ++ e :: vs, capacity, ttl⟩ e.key value now =
      ⟨⟨e.key, value, now⟩ :: makeRoom ⟨us ++ vs, capacity, ttl⟩, capacity, ttl⟩ := by
  rw [put, dropExpired_expired hd hx]
  simp only [find?_absent (not_mem_beside hd)]

include hd in
lemma put_live (hx : e.expired ttl now = false) (value : String) :
    put ⟨us ++ e :: vs, capacity, ttl⟩ e.key value now =
      ⟨⟨e.key, value, now⟩ :: (us ++ vs), capacity, ttl⟩ := by
  rw [put, dropExpired_live hd hx]
  simp only [find?_split hd, without_split hd]

include hd in
lemma remove_present :
    remove ⟨us ++ e :: vs, capacity, ttl⟩ e.key = (true, ⟨us ++ vs, capacity, ttl⟩) := by
  simp only [remove, find?_split hd, without_split hd, Option.isSome_some]

end Accesses

end FlatCache

end ReplicatedCache
