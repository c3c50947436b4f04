/-
Chains of slots that point at each other.

* `UseOrder.olderOf`, `UseOrder.newerOf`, `UseOrder.entryOf`: what a slot says;
* `UseOrder.Adjacent`: two slots that point at each other;
* `chain_modify`, `chain_push`: changes that no chain notices;
* `chain_unlink`: a slot is taken out of a chain;
* `chain_linkFirst`: a slot is put behind the front end of a chain.

A chain includes its two ends, so every slot inside it has a neighbour on either side and no
case is special.
-/
import Mathlib.Data.List.Chain
import Mathlib.Tactic.Lemma
import ReplicatedCache.Cache.UseOrder

namespace ReplicatedCache.UseOrder

variable {α : Type} {slots : Array (Slot α)}

/-! ### Pointers of a slot -/

/-- Where slot `i` points on its older side. -/
def olderOf (slots : Array (Slot α)) (i : Nat) : Option Nat := slots[i]?.map Slot.older

/-- Where slot `i` points on its newer side. -/
def newerOf (slots : Array (Slot α)) (i : Nat) : Option Nat := slots[i]?.map Slot.newer

/-- What slot `i` holds. -/
def entryOf (slots : Array (Slot α)) (i : Nat) : Option α := slots[i]?.bind Slot.entry

lemma get?_eq_entryOf (l : UseOrder α) (i : Nat) : l.get? i = entryOf l.slots i := by
  rw [get?, entryOf]
  cases l.slots[i]? <;> rfl

/-- Slot `j` is the next older one after slot `i`, and both know it. -/
def Adjacent (slots : Array (Slot α)) (i j : Nat) : Prop :=
  olderOf slots i = some j ∧ newerOf slots j = some i

lemma lt_size_of_olderOf {i j : Nat} (h : olderOf slots i = some j) : i < slots.size := by
  rw [olderOf, Option.map_eq_some_iff] at h
  obtain ⟨s, hs, -⟩ := h
  exact (Array.getElem?_eq_some_iff.mp hs).1

lemma lt_size_of_newerOf {i j : Nat} (h : newerOf slots i = some j) : i < slots.size := by
  rw [newerOf, Option.map_eq_some_iff] at h
  obtain ⟨s, hs, -⟩ := h
  exact (Array.getElem?_eq_some_iff.mp hs).1

@[simp] lemma olderOf_setNewer (i j k : Nat) :
    olderOf (setNewer slots i j) k = olderOf slots k := by
  simp only [olderOf, setNewer, Array.getElem?_modify]
  split <;> simp [Function.comp_def]

@[simp] lemma newerOf_setOlder (i j k : Nat) :
    newerOf (setOlder slots i j) k = newerOf slots k := by
  simp only [newerOf, setOlder, Array.getElem?_modify]
  split <;> simp [Function.comp_def]

@[simp] lemma entryOf_setNewer (i j k : Nat) :
    entryOf (setNewer slots i j) k = entryOf slots k := by
  simp only [entryOf, setNewer, Array.getElem?_modify]
  split <;> simp only [Option.bind_map, Function.comp_def]

@[simp] lemma entryOf_setOlder (i j k : Nat) :
    entryOf (setOlder slots i j) k = entryOf slots k := by
  simp only [entryOf, setOlder, Array.getElem?_modify]
  split <;> simp only [Option.bind_map, Function.comp_def]

@[simp] lemma size_setNewer (i j : Nat) : (setNewer slots i j).size = slots.size :=
  Array.size_modify

@[simp] lemma size_setOlder (i j : Nat) : (setOlder slots i j).size = slots.size :=
  Array.size_modify

lemma olderOf_setOlder_self {i : Nat} (j : Nat) (h : i < slots.size) :
    olderOf (setOlder slots i j) i = some j := by
  rw [olderOf, setOlder, Array.getElem?_modify, if_pos rfl, Array.getElem?_eq_getElem h]
  rfl

lemma olderOf_setOlder_of_ne {i k : Nat} (j : Nat) (h : k ≠ i) :
    olderOf (setOlder slots i j) k = olderOf slots k := by
  simp [olderOf, setOlder, Array.getElem?_modify, h.symm]

lemma newerOf_setNewer_self {i : Nat} (j : Nat) (h : i < slots.size) :
    newerOf (setNewer slots i j) i = some j := by
  rw [newerOf, setNewer, Array.getElem?_modify, if_pos rfl, Array.getElem?_eq_getElem h]
  rfl

lemma newerOf_setNewer_of_ne {i k : Nat} (j : Nat) (h : k ≠ i) :
    newerOf (setNewer slots i j) k = newerOf slots k := by
  simp [newerOf, setNewer, Array.getElem?_modify, h.symm]

/-! ### Chains of slots -/

/-- A chain only reads the older side of all its slots but the last and the newer side of all but
the first. -/
lemma chain_congr {slots' : Array (Slot α)} {p : List Nat}
    (ho : ∀ i ∈ p.dropLast, olderOf slots' i = olderOf slots i)
    (hn : ∀ i ∈ p.tail, newerOf slots' i = newerOf slots i)
    (h : p.IsChain (Adjacent slots)) : p.IsChain (Adjacent slots') := by
  rw [List.isChain_iff_forall_rel_of_append_cons_cons] at h ⊢
  intro i j us vs hp
  obtain ⟨h1, h2⟩ := h hp
  refine ⟨(ho i ?_).trans h1, (hn j ?_).trans h2⟩
  · rw [hp, List.dropLast_append_of_ne_nil (by simp)]
    simp
  · rw [hp]
    cases us <;> simp

/-- A change that leaves the two pointers of a slot alone leaves every chain alone. -/
lemma chain_modify {f : Slot α → Slot α} {p : List Nat} (i : Nat)
    (hf : ∀ s, (f s).newer = s.newer ∧ (f s).older = s.older)
    (h : p.IsChain (Adjacent slots)) : p.IsChain (Adjacent (slots.modify i f)) := by
  refine chain_congr ?_ ?_ h
  · intro k _
    simp only [olderOf, Array.getElem?_modify]
    split <;> simp [Function.comp_def, hf]
  · intro k _
    simp only [newerOf, Array.getElem?_modify]
    split <;> simp [Function.comp_def, hf]

/-- A new slot leaves every chain of the old ones alone. -/
lemma chain_push {p : List Nat} (s : Slot α) (hp : ∀ i ∈ p, i < slots.size)
    (h : p.IsChain (Adjacent slots)) : p.IsChain (Adjacent (slots.push s)) := by
  refine chain_congr ?_ ?_ h
  · intro k hk
    have := hp k (List.dropLast_subset _ hk)
    simp [olderOf, Array.getElem?_push, this.ne]
  · intro k hk
    have := hp k (List.mem_of_mem_tail hk)
    simp [newerOf, Array.getElem?_push, this.ne]

/-- Taking a slot out of a chain. -/
lemma chain_unlink {p q : List Nat} {i : Nat} (hp : p ≠ []) (hq : q ≠ [])
    (hd : (p ++ i :: q).Nodup) (h : (p ++ i :: q).IsChain (Adjacent slots)) :
    (p ++ q).IsChain (Adjacent (unlink slots i)) := by
  obtain ⟨us, a, rfl⟩ := List.eq_nil_or_concat' p |>.resolve_left hp
  obtain ⟨b, vs, rfl⟩ := List.exists_cons_of_ne_nil hq
  simp only [List.append_assoc, List.singleton_append] at hd h ⊢
  rw [List.isChain_split] at h
  obtain ⟨hus, hrest⟩ := h
  obtain ⟨⟨ha, hia⟩, ⟨hi, hb⟩, hvs⟩ := by simpa only [List.isChain_cons_cons] using hrest
  have hsize := lt_size_of_olderOf hi
  have hunlink : unlink slots i = setNewer (setOlder slots a b) b a := by
    simp only [olderOf, newerOf, Array.getElem?_eq_getElem hsize, Option.map_some,
      Option.some.injEq] at hi hia
    rw [unlink, Array.getElem?_eq_getElem hsize]
    simp only [hi, hia]
  obtain ⟨-, hd, hdisj⟩ := List.nodup_append.mp hd
  simp only [List.nodup_cons, List.mem_cons, not_or] at hd
  obtain ⟨⟨-, hab, hav⟩, -, hbv, -⟩ := hd
  have hau : a ∉ us := fun h => hdisj a h a (by simp) rfl
  have hbu : b ∉ us := fun h => hdisj b h b (by simp) rfl
  rw [hunlink, List.isChain_split, List.isChain_cons_cons]
  refine ⟨chain_congr ?_ ?_ hus, ⟨?_, ?_⟩, chain_congr ?_ ?_ hvs⟩
  · intro x hx
    rw [List.dropLast_concat] at hx
    rw [olderOf_setNewer, olderOf_setOlder_of_ne]
    rintro rfl
    exact hau hx
  · intro x hx
    rw [newerOf_setNewer_of_ne, newerOf_setOlder]
    rintro rfl
    have := List.mem_of_mem_tail hx
    simp only [List.mem_append, List.mem_singleton] at this
    exact this.elim hbu (hab ·.symm)
  · rw [olderOf_setNewer, olderOf_setOlder_self _ (lt_size_of_olderOf ha)]
  · rw [newerOf_setNewer_self]
    simpa using lt_size_of_newerOf hb
  · intro x hx
    rw [olderOf_setNewer, olderOf_setOlder_of_ne]
    rintro rfl
    exact (List.mem_cons.mp (List.dropLast_subset _ hx)).elim hab hav
  · intro x hx
    rw [newerOf_setNewer_of_ne, newerOf_setOlder]
    rintro rfl
    exact hbv hx

/-- Putting a slot behind the front end of a chain. -/
lemma chain_linkFirst {p : List Nat} {i : Nat} (hp : p ≠ []) (hi : i < slots.size)
    (hd : (head :: i :: p).Nodup) (h : (head :: p).IsChain (Adjacent slots)) :
    (head :: i :: p).IsChain (Adjacent (linkFirst slots i)) := by
  obtain ⟨first, q, rfl⟩ := List.exists_cons_of_ne_nil hp
  obtain ⟨⟨hh, hf⟩, hq⟩ := List.isChain_cons_cons.mp h
  have hhead := lt_size_of_olderOf hh
  have hlink : linkFirst slots i = setOlder (setNewer (slots.modify i
      fun s => { s with newer := head, older := first }) first i) head i := by
    simp only [olderOf, Array.getElem?_eq_getElem hhead, Option.map_some, Option.some.injEq] at hh
    rw [linkFirst, Array.getElem?_eq_getElem hhead]
    simp only [hh]
  simp only [List.nodup_cons, List.mem_cons, not_or] at hd
  obtain ⟨⟨hhi, hhf, hhq⟩, ⟨hif, hiq⟩, hfq, -⟩ := hd
  -- away from slot `i` itself the three writes leave every pointer of the old chain alone
  have hold : ∀ k ≠ i, k ≠ head → olderOf (linkFirst slots i) k = olderOf slots k := by
    intro k hk hkh
    rw [hlink, olderOf_setOlder_of_ne _ hkh, olderOf_setNewer]
    simp only [olderOf, Array.getElem?_modify, if_neg hk.symm]
  have hnew : ∀ k ≠ i, k ≠ first → newerOf (linkFirst slots i) k = newerOf slots k := by
    intro k hk hkf
    rw [hlink, newerOf_setOlder, newerOf_setNewer_of_ne _ hkf]
    simp only [newerOf, Array.getElem?_modify, if_neg hk.symm]
  rw [List.isChain_cons_cons, List.isChain_cons_cons]
  refine ⟨⟨?_, ?_⟩, ⟨?_, ?_⟩, chain_congr ?_ ?_ hq⟩
  · rw [hlink, olderOf_setOlder_self]
    simpa using hhead
  · rw [hlink, newerOf_setOlder, newerOf_setNewer_of_ne _ hif, newerOf,
      Array.getElem?_modify, if_pos rfl, Array.getElem?_eq_getElem hi]
    rfl
  · rw [hlink, olderOf_setOlder_of_ne _ (Ne.symm hhi), olderOf_setNewer, olderOf,
      Array.getElem?_modify, if_pos rfl, Array.getElem?_eq_getElem hi]
    rfl
  · rw [hlink, newerOf_setOlder, newerOf_setNewer_self]
    simpa using lt_size_of_newerOf hf
  · intro x hx
    have hx := List.dropLast_subset _ hx
    exact hold x (fun e => by simp_all) (fun e => by simp_all)
  · intro x hx
    exact hnew x (fun e => hiq (e ▸ hx)) (fun e => hfq (e ▸ hx))

/-- The slots of a chain with two ends exist. -/
lemma chain_lt_size {p : List Nat} (hp : 1 < p.length) (h : p.IsChain (Adjacent slots)) :
    ∀ i ∈ p, i < slots.size := by
  induction p with
  | nil => simp at hp
  | cons i p ih =>
      obtain ⟨j, p, rfl⟩ := List.exists_cons_of_length_pos (by simpa using hp)
      obtain ⟨⟨ho, hn⟩, hrest⟩ := List.isChain_cons_cons.mp h
      intro k hk
      rcases List.mem_cons.mp hk with rfl | hk
      · exact lt_size_of_olderOf ho
      · cases p with
        | nil =>
            rw [List.mem_singleton.mp hk]
            exact lt_size_of_newerOf hn
        | cons j' p => exact ih (by simp) hrest k hk

@[simp] lemma entryOf_unlink (i k : Nat) : entryOf (unlink slots i) k = entryOf slots k := by
  rw [unlink]
  split <;> simp

@[simp] lemma size_unlink (i : Nat) : (unlink slots i).size = slots.size := by
  rw [unlink]
  split <;> simp

@[simp] lemma entryOf_linkFirst (i k : Nat) :
    entryOf (linkFirst slots i) k = entryOf slots k := by
  rw [linkFirst]
  split
  · rfl
  · rw [entryOf_setOlder, entryOf_setNewer]
    simp only [entryOf, Array.getElem?_modify]
    split <;> simp only [Option.bind_map, Function.comp_def]

@[simp] lemma size_linkFirst (i : Nat) : (linkFirst slots i).size = slots.size := by
  rw [linkFirst]
  split <;> simp

end ReplicatedCache.UseOrder
