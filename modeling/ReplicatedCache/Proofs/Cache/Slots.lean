/-
The slots of a cache: what each of them is for, and how many there are.

* `UseOrder.Holds.perm_slots`: behind the two ends, each slot has an entry or is free, never both;
* `UseOrder.Holds.size_add`: the array grows only if no slot is free;
* `CacheInterface.peak`: the largest number of entries that are held in the course of a run;
* `Cache.IsConsistent.slots_step`, `Cache.IsConsistent.slots_after`: **the array grows with the
  largest number of entries**, and with nothing else;
* `Cache.Tidy`: index, chain and free slots agree with each other, and there are no more slots than
  the capacity needs;
* `Cache.after_tidy`: **every run leaves a tidy cache**, with a slot for each entry of its peak.
-/
import Mathlib.Data.List.Nodup
import ReplicatedCache.Proofs.Cache.Expiry

namespace ReplicatedCache

/-! ### The slots of an order of use -/

namespace UseOrder

variable {α : Type} {l : UseOrder α} {xs : List (Nat × α)}

@[simp] lemma size_update (l : UseOrder α) (i : Nat) (f : α → α) :
    (l.update i f).slots.size = l.slots.size :=
  Array.size_modify

@[simp] lemma size_renew (l : UseOrder α) (i : Nat) : (l.renew i).slots.size = l.slots.size := by
  rw [renew]
  split
  · rfl
  · rw [size_linkFirst, size_unlink]

@[simp] lemma size_remove (l : UseOrder α) (i : Nat) :
    (l.remove i).2.slots.size = l.slots.size := by
  rw [remove]
  split
  · rfl
  · rw [size_unlink, Array.size_modify]

@[simp] lemma size_popOldest (l : UseOrder α) : l.popOldest.2.slots.size = l.slots.size := by
  rw [popOldest]
  split
  · exact l.size_remove _
  · rfl

namespace Holds

lemma two_le_size (h : l.Holds xs) : 2 ≤ l.slots.size := h.tail_lt_size

/-- **Behind the two ends, each slot has an entry or is free**, and never both. -/
lemma perm_slots (h : l.Holds xs) :
    (xs.map Prod.fst ++ l.free).Perm (List.range' 2 (l.slots.size - 2)) := by
  obtain ⟨hhead, hhandles⟩ := List.nodup_cons.mp h.nodup_ends
  obtain ⟨htail, hhandles⟩ := List.nodup_cons.mp hhandles
  have hsize := h.two_le_size
  have hfree : ∀ i, i ∈ l.free ↔ i < l.slots.size ∧ i ≠ head ∧ i ≠ tail ∧ i ∉ xs.map Prod.fst := by
    intro i
    rw [h.free_iff, path]
    simp only [List.mem_cons, List.mem_append, List.not_mem_nil, or_false, not_or]
    tauto
  refine (List.perm_ext_iff_of_nodup ?_ List.nodup_range').mpr fun i => ?_
  · exact List.nodup_append.mpr ⟨hhandles, h.free_nodup, fun i hi j hj hij =>
      ((hfree j).mp hj).2.2.2 (hij ▸ hi)⟩
  · rw [List.mem_append, hfree, List.mem_range'_1]
    simp only [head, tail] at hhead htail ⊢
    constructor
    · rintro (hi | ⟨hi, hne, hne', -⟩)
      · have hlt : i < l.slots.size := by
          obtain ⟨x, hx, rfl⟩ := List.mem_map.mp hi
          exact h.lt_size (mem_path_of_mem hx)
        have hne : i ≠ 0 := fun hi' => hhead (List.mem_cons_of_mem _ (hi' ▸ hi))
        have hne' : i ≠ 1 := fun hi' => htail (hi' ▸ hi)
        omega
      · omega
    · intro hi
      by_cases hmem : i ∈ xs.map Prod.fst
      · exact .inl hmem
      · exact .inr ⟨by omega, by omega, by omega, hmem⟩

/-- The slots are counted by the entries and the free ones. -/
lemma size_eq (h : l.Holds xs) : l.slots.size = xs.length + l.free.length + 2 := by
  have hlength := h.perm_slots.length_eq
  have hsize := h.two_le_size
  rw [List.length_append, List.length_map, List.length_range'] at hlength
  omega

/-- **The array grows only if no slot is free**: it then has one slot for each entry. -/
lemma size_add (h : l.Holds xs) (a : α) :
    (l.add a).2.slots.size = max l.slots.size (xs.length + 3) := by
  have hsize := h.size_eq
  rw [UseOrder.add]
  cases hf : l.free with
  | cons i free =>
      rw [hf, List.length_cons] at hsize
      simp only [size_linkFirst, Array.size_modify]
      omega
  | nil =>
      rw [hf, List.length_nil] at hsize
      simp only [size_linkFirst, Array.size_push]
      omega

end Holds

end UseOrder

/-! ### The slots of a cache in the course of a run -/

/-- The largest number of entries that are held in the course of a run, its start and its end
included. -/
def CacheInterface.peak {σ : Type} (m : CacheInterface σ) : σ → Moment → List Access → Nat
  | s, _, [] => m.size s
  | s, now, a :: run => max (m.size s) (m.peak (m.step s now a).2.1 (m.step s now a).2.2 run)

namespace Cache

open CacheInterface (Access)

variable {c : Cache} {xs : List (Nat × Entry)} {key value : String} {now : Moment}

/-- Each entry has a slot behind the two ends. -/
lemma IsConsistent.size_le_slots (h : c.IsConsistent) : c.size + 2 ≤ c.order.slots.size := by
  obtain ⟨xs, h⟩ := h
  rw [size, h.size_eq, h.holds.size_eq]
  omega

@[simp] lemma slots_expire (c : Cache) (key : String) (i : Nat) :
    (c.expire key i).order.slots.size = c.order.slots.size :=
  c.order.size_remove i

@[simp] lemma slots_evict (c : Cache) : c.evict.order.slots.size = c.order.slots.size := by
  have hpop := c.order.size_popOldest
  rw [evict]
  split
  next hsplit => rwa [hsplit] at hpop
  next hsplit => rwa [hsplit] at hpop

lemma slots_get (c : Cache) (key : String) (now : Moment) :
    (c.get key now).2.order.slots.size = c.order.slots.size := by
  rw [get]
  split
  · rfl
  · split
    · exact c.slots_expire key _
    · simp only
      split
      · simp only [UseOrder.size_update, UseOrder.size_renew]
      · simp only [UseOrder.size_update, UseOrder.size_renew]

lemma slots_remove (c : Cache) (key : String) :
    (c.remove key).2.order.slots.size = c.order.slots.size := by
  rw [remove]
  split
  · exact c.order.size_remove _
  · rfl

/-- A fresh entry takes a free slot, or a new one if there are no more slots than entries. -/
lemma Consistent.slots_insertFresh (h : c.Consistent xs)
    (hkey : key ∉ (xs.map Prod.snd).map Entry.key) (value : String) (now : Moment) :
    (c.insertFresh key value now).order.slots.size =
      max c.order.slots.size ((c.insertFresh key value now).size + 2) := by
  obtain ⟨hnew, hflat⟩ := h.insertFresh hkey value now
  obtain ⟨ys, hys, -, hmakeRoom, -⟩ := h.makeRoom
  have hsize : (c.insertFresh key value now).size = ys.length + 1 := by
    rw [← hnew.size_eq, hflat, FlatCache.size, List.length_cons, ← hmakeRoom, List.length_map]
  have hslots : (if c.capacity ≤ c.index.size then c.evict else c).order.slots.size =
      c.order.slots.size := by
    split
    · exact c.slots_evict
    · rfl
  rw [hsize, ← hslots]
  exact hys.holds.size_add ⟨key, value, now⟩

lemma IsConsistent.slots_put (h : c.IsConsistent) (key value : String) (now : Moment) :
    (c.put key value now).order.slots.size =
      max c.order.slots.size ((c.put key value now).size + 2) := by
  have hput := (h.put key value now).1
  obtain ⟨xs, h⟩ := h
  cases hi : c.index[key]? with
  | none =>
      rw [Cache.put, hi]
      exact h.slots_insertFresh (h.absent hi) value now
  | some i =>
      obtain ⟨us, e, vs, rfl, rfl⟩ := h.exists_split hi
      rw [Cache.put, hi] at hput ⊢
      simp only at hput ⊢
      split at hput
      next =>
          have hkey : e.key ∉ ((us ++ vs).map Prod.snd).map Entry.key := by
            rw [List.map_append]
            exact FlatCache.not_mem_beside h.nodup_split
          rw [if_pos ‹_›, ← c.slots_expire e.key i]
          exact h.expire.slots_insertFresh hkey value now
      next =>
          rw [if_neg ‹_›]
          have hle := hput.size_le_slots
          simp only [UseOrder.size_renew, UseOrder.size_update] at hle ⊢
          exact (max_eq_left hle).symm

/-- **One access**: there are as many slots as before, or one for each entry. -/
lemma IsConsistent.slots_step (h : c.IsConsistent) (now : Moment) (a : Access) :
    (interface.step c now a).2.1.order.slots.size =
      max c.order.slots.size ((interface.step c now a).2.1.size + 2) := by
  have hle := (h.step now a).size_le_slots
  have hkept : (interface.step c now a).2.1.order.slots.size = c.order.slots.size →
      (interface.step c now a).2.1.order.slots.size =
        max c.order.slots.size ((interface.step c now a).2.1.size + 2) := by
    intro heq
    rw [heq, max_eq_left (heq ▸ hle)]
  cases a with
  | put key value => exact h.slots_put key value now
  | get key => exact hkept (c.slots_get key now)
  | remove key => exact hkept (c.slots_remove key)
  | contains key => exact hkept rfl
  | keys => exact hkept rfl
  | entries => exact hkept rfl
  | size => exact hkept rfl
  | wait nanos => exact hkept rfl

/-- **A run**: there are as many slots as before, or one for each entry that was held when there
were most of them. -/
lemma IsConsistent.slots_after (h : c.IsConsistent) (now : Moment) (run : List Access) :
    (interface.after c now run).1.order.slots.size =
      max c.order.slots.size (interface.peak c now run + 2) := by
  have hle := h.size_le_slots
  induction run generalizing c now with
  | nil => exact (max_eq_left hle).symm
  | cons a run ih =>
      have hnew := h.step now a
      have hpeak : interface.peak c now (a :: run) = max c.size
        (interface.peak (interface.step c now a).2.1 (interface.step c now a).2.2 run) := rfl
      have hstart : (interface.step c now a).2.1.size ≤
          interface.peak (interface.step c now a).2.1 (interface.step c now a).2.2 run := by
        cases run with
        | nil => exact Nat.le_refl _
        | cons b run => exact Nat.le_max_left _ _
      rw [CacheInterface.after, ih hnew _ hnew.size_le_slots, h.slots_step, hpeak]
      omega

lemma IsConsistent.size_le (h : c.IsConsistent) : c.size ≤ c.capacity := by
  rw [← h.size_eq]
  exact h.length_le

/-- No run holds more entries than the capacity. -/
lemma IsConsistent.peak_le (h : c.IsConsistent) (now : Moment) (run : List Access) :
    interface.peak c now run ≤ c.capacity := by
  induction run generalizing c now with
  | nil => exact h.size_le
  | cons a run ih =>
      have hrest := ih (h.step now a) (interface.step c now a).2.2
      rw [(h.settings_step now a).1] at hrest
      exact Nat.max_le.mpr ⟨h.size_le, hrest⟩

/-! ### Tidy caches -/

/-- **A tidy cache**: its index, its chain and its free slots agree with each other, and it has no
more slots than its capacity needs. -/
structure Tidy (c : Cache) : Prop where
  /-- The listed handles are on one chain between the two ends, with pointers both ways. -/
  chained : (UseOrder.path (c.order.toList.map Prod.fst)).IsChain (UseOrder.Adjacent c.order.slots)
  /-- A key of the index leads to a slot on the chain that holds an entry of this key. -/
  indexed : ∀ key i, c.index[key]? = some i →
    ∃ e, c.order.get? i = some e ∧ e.key = key ∧ (i, e) ∈ c.order.toList
  /-- A slot on the chain is where the index leads from the key of its entry. -/
  linked : ∀ i e, (i, e) ∈ c.order.toList → c.order.get? i = some e ∧ c.index[e.key]? = some i
  keys_nodup : (c.order.entries.map Entry.key).Nodup
  size_eq : c.index.size = c.order.toList.length
  length_eq : c.order.length = c.order.toList.length
  size_le : c.index.size ≤ c.capacity
  /-- All slots but the two ends are on the chain or free, each of them once. -/
  perm_slots : (c.order.toList.map Prod.fst ++ c.order.free).Perm
    (List.range' 2 (c.order.slots.size - 2))
  slots_le : c.order.slots.size ≤ c.capacity + 2

lemma IsConsistent.tidy (h : c.IsConsistent) (hslots : c.order.slots.size ≤ c.capacity + 2) :
    c.Tidy := by
  have hkeys := h.keys_nodup
  obtain ⟨xs, h⟩ := h
  have hlist := h.holds.toList_eq
  refine ⟨hlist ▸ h.holds.chained, ?_, ?_, hkeys, hlist ▸ h.size_eq, hlist ▸ h.holds.length_eq, ?_,
    hlist ▸ h.holds.perm_slots, hslots⟩
  · intro key i hi
    obtain ⟨e, he, hkey⟩ := (h.index_iff key i).mp hi
    exact ⟨e, h.holds.get?_eq he, hkey, hlist ▸ he⟩
  · intro i e he
    rw [hlist] at he
    exact ⟨h.holds.get?_eq he, (h.index_iff e.key i).mpr ⟨e, he, rfl⟩⟩
  · rw [h.size_eq]
    exact h.length_le

/-- **Every run leaves a tidy cache**, whatever the capacity, the time to live and the time that
passes in between. Behind the two ends, the array has as many slots as there were entries when
there were most of them. -/
theorem after_tidy (capacity : Nat) (ttl : Option Nat) (start : Moment) (run : List Access) :
    let c := (interface.after (empty capacity ttl) start run).1
    c.Tidy ∧ c.capacity = max capacity 1 ∧
      c.order.slots.size = 2 + interface.peak (empty capacity ttl) start run := by
  intro c
  have hempty : (empty capacity ttl).IsConsistent := ⟨[], consistent_empty capacity ttl⟩
  obtain ⟨hcapacity, -⟩ := hempty.settings_after start run
  have hpeak := hempty.peak_le start run
  have hslots : c.order.slots.size =
      max 2 (interface.peak (empty capacity ttl) start run + 2) := hempty.slots_after start run
  rw [max_eq_right (Nat.le_add_left 2 _)] at hslots
  refine ⟨(hempty.after start run).tidy ?_, hcapacity, hslots.trans (Nat.add_comm _ 2)⟩
  rw [hslots, hcapacity]
  exact Nat.add_le_add_right hpeak 2

end Cache

end ReplicatedCache
