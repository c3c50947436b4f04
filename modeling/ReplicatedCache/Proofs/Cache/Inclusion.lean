/-
A larger cache holds whatever a smaller one holds, if both are asked the same.

The two drift apart: a key may be found in the larger one only, and a removal may free a place in
one of them at a time when the other one has none to free. What is kept is that the entries of the
smaller one are found in the larger one, in the same order, and that the larger one has at least as
many free places.

* `FlatCache.Within`: **the invariant** of a smaller list and a larger one;
* `Within.dropExpired`, `Within.makeRoom`: an entry that expires, and one that has to go;
* `Within.get`, `Within.put`, `Within.remove`: the accesses keep it, and the larger list finds what
  the smaller one finds;
* `Cache.Within.step`, `Cache.Within.after`: an access and a run of the caches themselves;
* `Cache.after_sublist`: **inclusion**: a larger capacity never loses anything.
-/
import ReplicatedCache.Proofs.Cache.Expiry
import ReplicatedCache.Proofs.Cache.Freshness

namespace ReplicatedCache

open CacheInterface (Access)

namespace FlatCache

variable {es fs : List Entry} {e : Entry} {key value : String} {now : Moment} {c d : FlatCache}

/-! ### Lists of entries -/

/-- An entry of the smaller list is the one that the larger list has for its key. -/
lemma find?_of_sublist (hd : (fs.map Entry.key).Nodup) (h : es.Sublist fs)
    (hfind : find? es key = some e) : find? fs key = some e := by
  obtain ⟨he, rfl⟩ := mem_of_find? hfind
  obtain ⟨us, vs, rfl⟩ := List.append_of_mem (h.subset he)
  exact find?_split hd

lemma find?_eq_none_of_sublist (hd : (fs.map Entry.key).Nodup) (h : es.Sublist fs)
    (hfind : find? fs key = none) : find? es key = none := by
  cases hes : find? es key with
  | none => rfl
  | some e => exact absurd (hfind.symm.trans (find?_of_sublist hd h hes)) (by simp)

/-- Without a key, a list that does not have it is as it was. -/
lemma without_of_find? (hfind : find? es key = none) : without es key = es :=
  without_absent (not_mem_of_find? hfind)

/-- A key that a list has takes one place of it. -/
lemma length_without (hd : (es.map Entry.key).Nodup) (hfind : find? es key = some e) :
    (without es key).length + 1 = es.length := by
  obtain ⟨he, rfl⟩ := mem_of_find? hfind
  obtain ⟨us, vs, rfl⟩ := List.append_of_mem he
  rw [without_split hd, List.perm_middle.length_eq, List.length_cons]

/-- Without a key, the larger list gets shorter by as much as the smaller one, or by more. -/
lemma length_without_le (h : es.Sublist fs) (key : String) :
    (without fs key).length + es.length ≤ fs.length + (without es key).length := by
  have hes := List.length_eq_length_filter_add (l := es) fun e => decide (e.key ≠ key)
  have hfs := List.length_eq_length_filter_add (l := fs) fun e => decide (e.key ≠ key)
  have hle := (h.filter fun e => !decide (e.key ≠ key)).length_le
  simp only [without]
  omega

/-- Both lists may lose their last entry. -/
lemma dropLast_sublist_dropLast (h : es.Sublist fs) : es.dropLast.Sublist fs.dropLast := by
  rw [← List.reverse_sublist, ← List.tail_reverse, ← List.tail_reverse]
  exact h.reverse.tail

/-- Making room takes one place at most. -/
lemma length_le_makeRoom (c : FlatCache) : c.order.length ≤ c.makeRoom.length + 1 := by
  rw [makeRoom]
  split
  · rw [List.length_dropLast]
    omega
  · omega

/-! ### The invariant -/

/-- **The invariant** of a smaller list and a larger one: the larger one has the entries of the
smaller one, in their order, and at least as many free places. -/
structure Within (c d : FlatCache) : Prop where
  order : c.order.Sublist d.order
  room : d.order.length + c.capacity ≤ c.order.length + d.capacity
  ttl_eq : c.ttl = d.ttl

namespace Within

variable (h : c.Within d)

include h

/-- Without a key, the two lists stay in step. -/
lemma without (key : String) :
    Within { c with order := FlatCache.without c.order key }
      { d with order := FlatCache.without d.order key } := by
  have hroom := h.room
  have hle := length_without_le h.order key
  exact ⟨h.order.filter _, by simp only; omega, h.ttl_eq⟩

lemma remove (key : String) : (c.remove key).2.Within (d.remove key).2 := h.without key

variable (hd : (d.order.map Entry.key).Nodup)

include hd

/-- **An entry that has expired** leaves both lists, or the larger one if it is there alone. -/
lemma dropExpired (key : String) (now : Moment) :
    (c.dropExpired key now).Within (d.dropExpired key now) := by
  rw [FlatCache.dropExpired, FlatCache.dropExpired]
  cases hlarge : find? d.order key with
  | none =>
      rw [find?_eq_none_of_sublist hd h.order hlarge]
      exact h
  | some e =>
      cases hsmall : find? c.order key with
      | none =>
          simp only
          split
          · have hdropped := h.without key
            rw [without_of_find? hsmall] at hdropped
            exact hdropped
          · exact h
      | some e' =>
          obtain rfl : e' = e :=
            Option.some.inj ((find?_of_sublist hd h.order hsmall).symm.trans hlarge)
          simp only [h.ttl_eq]
          split
          · have hdropped := h.without key
            rw [h.ttl_eq] at hdropped
            exact hdropped
          · exact h

omit hd in
/-- **Making room** in both lists: the larger one has to only where the smaller one has to. -/
lemma makeRoom : c.makeRoom.Sublist d.makeRoom ∧
    d.makeRoom.length + c.capacity ≤ c.makeRoom.length + d.capacity := by
  have hroom := h.room
  rw [FlatCache.makeRoom, FlatCache.makeRoom]
  by_cases hlarge : d.capacity ≤ d.order.length
  · have hlength := h.order.length_le
    have hsmall : c.capacity ≤ c.order.length := by omega
    rw [if_pos hlarge, if_pos hsmall, List.length_dropLast, List.length_dropLast]
    exact ⟨dropLast_sublist_dropLast h.order, by omega⟩
  · rw [if_neg hlarge]
    split
    · rw [List.length_dropLast]
      exact ⟨(List.dropLast_sublist _).trans h.order, by omega⟩
    · exact ⟨h.order, hroom⟩

/-- **A read** keeps the invariant, and the larger list finds what the smaller one finds. -/
lemma get (key : String) (now : Moment) :
    (c.get key now).2.Within (d.get key now).2 ∧
      ∀ value, (c.get key now).1 = some value → (d.get key now).1 = some value := by
  have hdropped := h.dropExpired hd key now
  have hd' := hd.sublist ((d.dropExpired_sublist key now).map Entry.key)
  rw [FlatCache.get, FlatCache.get]
  generalize c.dropExpired key now = c' at hdropped ⊢
  generalize d.dropExpired key now = d' at hdropped hd' ⊢
  have hroom := hdropped.room
  cases hlarge : find? d'.order key with
  | none =>
      rw [find?_eq_none_of_sublist hd' hdropped.order hlarge]
      exact ⟨hdropped, fun value hvalue => hvalue⟩
  | some e =>
      have hlength := length_without hd' hlarge
      cases hsmall : find? c'.order key with
      | none =>
          -- the smaller list stays, and has no entry of the key that moves in the larger one
          have horder := (hdropped.without key).order
          rw [without_of_find? hsmall] at horder
          refine ⟨⟨horder.cons _, ?_, hdropped.ttl_eq⟩, fun value hvalue => by cases hvalue⟩
          simp only [List.length_cons]
          omega
      | some e' =>
          obtain rfl : e' = e :=
            Option.some.inj ((find?_of_sublist hd' hdropped.order hsmall).symm.trans hlarge)
          have hwithout := hdropped.without key
          refine ⟨⟨hwithout.order.cons_cons _, ?_, hdropped.ttl_eq⟩, fun value hvalue => hvalue⟩
          have hrest := hwithout.room
          simp only [List.length_cons] at hrest ⊢
          omega

/-- **A put** keeps the invariant. -/
lemma put (key value : String) (now : Moment) :
    (c.put key value now).Within (d.put key value now) := by
  have hdropped := h.dropExpired hd key now
  have hd' := hd.sublist ((d.dropExpired_sublist key now).map Entry.key)
  rw [FlatCache.put, FlatCache.put]
  generalize c.dropExpired key now = c' at hdropped ⊢
  generalize d.dropExpired key now = d' at hdropped hd' ⊢
  have hroom := hdropped.room
  cases hlarge : find? d'.order key with
  | none =>
      rw [find?_eq_none_of_sublist hd' hdropped.order hlarge]
      obtain ⟨horder, hrest⟩ := hdropped.makeRoom
      refine ⟨horder.cons_cons _, ?_, hdropped.ttl_eq⟩
      simp only [List.length_cons]
      omega
  | some e =>
      have hlength := length_without hd' hlarge
      have hwithout := hdropped.without key
      cases hsmall : find? c'.order key with
      | none =>
          -- the entry is new in the smaller list only, which may have to make room for it
          have hkept := length_le_makeRoom c'
          have horder := hwithout.order
          rw [without_of_find? hsmall] at horder
          refine ⟨((makeRoom_sublist c').trans horder).cons_cons _, ?_, hdropped.ttl_eq⟩
          simp only [List.length_cons]
          omega
      | some e' =>
          have hrest := hwithout.room
          refine ⟨hwithout.order.cons_cons _, ?_, hdropped.ttl_eq⟩
          simp only [List.length_cons] at hrest ⊢
          omega

end Within

end FlatCache

/-! ### The caches themselves -/

namespace Cache

/-- A smaller cache and a larger one that are in step. -/
structure Within (c d : Cache) : Prop where
  small : c.IsConsistent
  large : d.IsConsistent
  flat : c.flat.Within d.flat

variable {capacity capacity' : Nat}

lemma within_empty (hcapacity : max capacity 1 ≤ max capacity' 1) (ttl : Option Nat) :
    (empty capacity ttl).Within (empty capacity' ttl) := by
  have hsmall := consistent_empty capacity ttl
  have hlarge := consistent_empty capacity' ttl
  refine ⟨⟨[], hsmall⟩, ⟨[], hlarge⟩, ?_⟩
  rw [hsmall.flat_eq, hlarge.flat_eq]
  exact ⟨List.Sublist.refl _, Nat.add_le_add_left hcapacity _, rfl⟩

namespace Within

variable {c d : Cache} (h : c.Within d)

include h

/-- **A read** keeps the two in step, and the larger one finds what the smaller one finds. -/
lemma get (key : String) (now : Moment) :
    (c.get key now).2.Within (d.get key now).2 ∧
      ∀ value, (c.get key now).1 = some value → (d.get key now).1 = some value := by
  obtain ⟨hsmall, hflat⟩ := h.small.get key now
  obtain ⟨hlarge, hflat'⟩ := h.large.get key now
  have hget := h.flat.get h.large.keys_nodup key now
  rw [hflat, hflat'] at hget
  exact ⟨⟨hsmall, hlarge, hget.1⟩, hget.2⟩

/-- **One access** keeps the two in step, at the same moment. -/
lemma step (now : Moment) (a : Access) :
    (interface.step c now a).2.1.Within (interface.step d now a).2.1 ∧
      (interface.step c now a).2.2 = (interface.step d now a).2.2 := by
  cases a with
  | put key value =>
      obtain ⟨hsmall, hflat⟩ := h.small.put key value now
      obtain ⟨hlarge, hflat'⟩ := h.large.put key value now
      have hput := h.flat.put h.large.keys_nodup key value now
      rw [hflat, hflat'] at hput
      exact ⟨⟨hsmall, hlarge, hput⟩, rfl⟩
  | get key => exact ⟨(h.get key now).1, rfl⟩
  | remove key =>
      obtain ⟨hsmall, hflat⟩ := h.small.remove key
      obtain ⟨hlarge, hflat'⟩ := h.large.remove key
      have hremove := h.flat.remove key
      rw [hflat, hflat'] at hremove
      exact ⟨⟨hsmall, hlarge, hremove⟩, rfl⟩
  | contains key => exact ⟨h, rfl⟩
  | keys => exact ⟨h, rfl⟩
  | entries => exact ⟨h, rfl⟩
  | size => exact ⟨h, rfl⟩
  | wait nanos => exact ⟨h, rfl⟩

/-- **A run** keeps the two in step. -/
lemma after (now : Moment) (run : List Access) :
    (interface.after c now run).1.Within (interface.after d now run).1 ∧
      (interface.after c now run).2 = (interface.after d now run).2 := by
  induction run generalizing c d now with
  | nil => exact ⟨h, rfl⟩
  | cons a run ih =>
      obtain ⟨hnext, hnow⟩ := h.step now a
      rw [CacheInterface.after, CacheInterface.after, ← hnow]
      exact ih hnext _

end Within

/-- **Inclusion**: two new caches with the same time to live, of which the second has at least the
capacity of the first, are asked the same at the same moments. After any run, and so after every
access of it, the entries of the first, expired ones included, are among those of the second, in
the same order and with the same values and last uses; and a read that finds a value in the first
finds the same value in the second. -/
theorem after_sublist (capacity capacity' : Nat) (hcapacity : max capacity 1 ≤ max capacity' 1)
    (ttl : Option Nat) (start : Moment) (run : List Access) :
    let small := interface.after (empty capacity ttl) start run
    let large := interface.after (empty capacity' ttl) start run
    small.2 = large.2 ∧ small.1.order.entries.Sublist large.1.order.entries ∧
      ∀ key value, (small.1.get key small.2).1 = some value →
        (large.1.get key large.2).1 = some value := by
  intro small large
  obtain ⟨h, hnow⟩ := (within_empty hcapacity ttl).after start run
  refine ⟨hnow, h.flat.order, fun key value hvalue => ?_⟩
  rw [← hnow]
  exact (h.get key small.2).2 value hvalue

/-- A removal frees a place in both caches, and an entry expires that only the larger one holds. -/
theorem after_sublist_free_place :
    let run : List Access :=
      [.put "a" "1", .wait 3, .put "b" "2", .put "c" "3", .remove "c", .wait 3, .get "a",
        .put "d" "4"]
    let small := interface.after (empty 2 (some 5)) 0 run
    let large := interface.after (empty 3 (some 5)) 0 run
    max 2 1 ≤ max 3 1 ∧ small.1.order.entries.Sublist large.1.order.entries ∧
      (large.1.get "b" large.2).1 = some "2" := by
  intro run small large
  obtain ⟨-, horder, hget⟩ := after_sublist 2 3 (by decide) (some 5) 0 run
  exact ⟨by decide, horder, hget "b" "2" (by decide)⟩

end Cache

end ReplicatedCache
