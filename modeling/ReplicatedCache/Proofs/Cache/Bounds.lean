/-
The operations of an order of use, with each access to a slot checked.

Here an access to a slot that the array does not have, and a length that would go below zero,
leave no result.

* `UseOrder.Checked`: the operations, access by access;
* `Checked.unlink_eq`, `Checked.linkFirst_eq`: the neighbours of a slot on a chain exist;
* `Holds.checked_add`, `Holds.checked_renew`, `Holds.checked_remove`: **an order of use that holds a
  list never leaves the array**, and does what the unchecked operation does;
* `Holds.walk_eq`: a walk along the chain ends after one call more than there are entries.
-/
import ReplicatedCache.Proofs.Cache.Order

namespace ReplicatedCache.UseOrder

variable {α : Type}

namespace Checked

/-- Changes slot `i`, which has to exist. -/
def write (slots : Array (Slot α)) (i : Nat) (f : Slot α → Slot α) : Option (Array (Slot α)) :=
  if i < slots.size then some (slots.modify i f) else none

/-- Chains the neighbours of slot `i` to each other. -/
def unlink (slots : Array (Slot α)) (i : Nat) : Option (Array (Slot α)) := do
  let s ← slots[i]?
  let slots ← write slots s.newer fun t => { t with older := s.older }
  write slots s.older fun t => { t with newer := s.newer }

/-- Chains slot `i` between the front end and the entry that was first so far. -/
def linkFirst (slots : Array (Slot α)) (i : Nat) : Option (Array (Slot α)) := do
  let h ← slots[head]?
  let slots ← write slots i fun s => { s with newer := head, older := h.older }
  let slots ← write slots h.older fun s => { s with newer := i }
  write slots head fun s => { s with older := i }

/-- Adds `a` as the most recently used entry and returns its handle. -/
def add (l : UseOrder α) (a : α) : Option (Nat × UseOrder α) :=
  match l.free with
  | i :: free => do
      let slots ← write l.slots i fun s => { s with entry := some a }
      let slots ← linkFirst slots i
      return (i, { slots, free, length := l.length + 1 })
  | [] => do
      let i := l.slots.size
      let slots ← linkFirst (l.slots.push ⟨some a, head, head⟩) i
      return (i, { slots, free := [], length := l.length + 1 })

/-- The handle of the most recently used entry. -/
def newest? (l : UseOrder α) : Option (Option Nat) := do
  let s ← l.slots[head]?
  return if s.older = tail then none else some s.older

/-- The handle of the least recently used entry. -/
def oldest? (l : UseOrder α) : Option (Option Nat) := do
  let s ← l.slots[tail]?
  return if s.newer = head then none else some s.newer

/-- Makes the entry with handle `i` the most recently used one. -/
def renew (l : UseOrder α) (i : Nat) : Option (UseOrder α) := do
  let h ← l.slots[head]?
  if h.older = i then
    return l
  else
    let slots ← unlink l.slots i
    let slots ← linkFirst slots i
    return { l with slots }

/-- Takes the entry with handle `i` out; a handle that names no entry changes nothing. -/
def remove (l : UseOrder α) (i : Nat) : Option (Option α × UseOrder α) :=
  if i = head ∨ i = tail then some (none, l)
  else match l.get? i with
    | none => some (none, l)
    | some a => do
        let slots ← unlink (l.slots.modify i fun s => { s with entry := none }) i
        if l.length = 0 then none
        else return (some a, { slots, free := i :: l.free, length := l.length - 1 })

/-- Takes out the least recently used entry. -/
def popOldest (l : UseOrder α) : Option (Option α × UseOrder α) := do
  match ← oldest? l with
  | some i => remove l i
  | none => return (none, l)

/-- Forgets all entries and all handles. -/
def clear (l : UseOrder α) : Option (UseOrder α) := do
  let slots ← write (l.slots.take 2) head fun s => { s with older := tail }
  let slots ← write slots tail fun s => { s with newer := head }
  return { slots, free := [], length := 0 }

/-- What a walk that stands at slot `i` yields next, and the slot it goes on to. -/
def next (slots : Array (Slot α)) (i : Nat) : Option (Option (Nat × α) × Nat) :=
  if i = tail then some (none, i)
  else do
    let s ← slots[i]?
    return (s.entry.map (i, ·), s.older)

/-- What a walk from slot `i` on yields, if it has ended after `calls` calls. -/
def walkFrom (slots : Array (Slot α)) : (calls : Nat) → (i : Nat) → Option (List (Nat × α))
  | 0, _ => none
  | calls + 1, i => do
      match ← next slots i with
      | (none, _) => return []
      | (some x, j) => return x :: (← walkFrom slots calls j)

/-- What a walk from the most recently used entry on yields. -/
def walk (l : UseOrder α) (calls : Nat) : Option (List (Nat × α)) := do
  let h ← l.slots[head]?
  walkFrom l.slots calls h.older

variable {slots : Array (Slot α)} {i : Nat}

lemma write_eq (f : Slot α → Slot α) (hi : i < slots.size) :
    write slots i f = some (slots.modify i f) :=
  if_pos hi

/-- A slot between two others is taken out inside the array. -/
lemma unlink_eq {a b : Nat} (ha : Adjacent slots a i) (hb : Adjacent slots i b) :
    unlink slots i = some (UseOrder.unlink slots i) := by
  obtain ⟨s, hs, rfl⟩ := Option.map_eq_some_iff.mp hb.1
  obtain ⟨s', hs', rfl⟩ := Option.map_eq_some_iff.mp ha.2
  obtain rfl : s = s' := Option.some.inj (hs.symm.trans hs')
  have hnewer : s.newer < slots.size := lt_size_of_olderOf ha.1
  have holder : s.older < slots.size := lt_size_of_newerOf hb.2
  simp only [unlink, hs, Option.bind_eq_bind, Option.bind_some, write_eq _ hnewer]
  rw [write_eq _ (by simpa using holder), UseOrder.unlink, hs]
  rfl

/-- A slot is put behind the front end inside the array. -/
lemma linkFirst_eq {first : Nat} (h : Adjacent slots head first) (hi : i < slots.size) :
    linkFirst slots i = some (UseOrder.linkFirst slots i) := by
  obtain ⟨s, hs, rfl⟩ := Option.map_eq_some_iff.mp h.1
  have hfirst : s.older < slots.size := lt_size_of_newerOf h.2
  have hhead : head < slots.size := lt_size_of_olderOf h.1
  simp only [linkFirst, hs, Option.bind_eq_bind, Option.bind_some, write_eq _ hi]
  rw [write_eq _ (by simpa using hfirst), Option.bind_some, write_eq _ (by simpa using hhead),
    UseOrder.linkFirst, hs]
  rfl

end Checked

/-! ### Neighbours on a chain -/

/-- The front end of a chain has a slot behind it. -/
lemma exists_adjacent_head {slots : Array (Slot α)} {p : List Nat} (hp : p ≠ [])
    (h : (head :: p).IsChain (Adjacent slots)) : ∃ first, Adjacent slots head first := by
  obtain ⟨first, q, rfl⟩ := List.exists_cons_of_ne_nil hp
  exact ⟨first, (List.isChain_cons_cons.mp h).1⟩

/-- A slot inside a chain has a neighbour on either side. -/
lemma exists_adjacent {slots : Array (Slot α)} {p q : List Nat} {i : Nat} (hp : p ≠ [])
    (hq : q ≠ []) (h : (p ++ i :: q).IsChain (Adjacent slots)) :
    ∃ newer older, Adjacent slots newer i ∧ Adjacent slots i older := by
  obtain ⟨us, newer, rfl⟩ := List.eq_nil_or_concat' p |>.resolve_left hp
  obtain ⟨older, vs, rfl⟩ := List.exists_cons_of_ne_nil hq
  rw [List.append_assoc, List.singleton_append] at h
  obtain ⟨-, h⟩ := List.isChain_split.mp h
  obtain ⟨hnewer, h⟩ := List.isChain_cons_cons.mp h
  exact ⟨newer, older, hnewer, (List.isChain_cons_cons.mp h).1⟩

namespace Holds

variable {l : UseOrder α} {xs us vs : List (Nat × α)} {i : Nat} {a : α}

lemma checked_newest? (h : l.Holds xs) : Checked.newest? l = some l.newest? := by
  have hhead := h.head_lt_size
  simp only [Checked.newest?, UseOrder.newest?, Array.getElem?_eq_getElem hhead,
    Option.bind_eq_bind, Option.bind_some]
  rfl

lemma checked_oldest? (h : l.Holds xs) : Checked.oldest? l = some l.oldest? := by
  have htail := h.tail_lt_size
  simp only [Checked.oldest?, UseOrder.oldest?, Array.getElem?_eq_getElem htail,
    Option.bind_eq_bind, Option.bind_some]
  rfl

/-- An entry is added inside the array, on a freed slot as on a new one. -/
lemma checked_add (h : l.Holds xs) (a : α) : Checked.add l a = some (l.add a) := by
  rw [Checked.add, UseOrder.add]
  cases hf : l.free with
  | cons i free =>
      have hi : i < l.slots.size := ((h.free_iff i).mp (by simp [hf])).1
      obtain ⟨first, hfirst⟩ := exists_adjacent_head (by simp)
        (chain_modify i (f := fun s => { s with entry := some a }) (by simp) h.chained)
      simp only [Checked.write_eq _ hi, Option.bind_eq_bind, Option.bind_some]
      rw [Checked.linkFirst_eq hfirst (by simpa using hi)]
      rfl
  | nil =>
      obtain ⟨first, hfirst⟩ := exists_adjacent_head (by simp)
        (chain_push ⟨some a, head, head⟩ (fun k => h.lt_size) h.chained)
      have hi : l.slots.size < (l.slots.push ⟨some a, head, head⟩).size := by simp
      simp only [Checked.linkFirst_eq hfirst hi, Option.bind_eq_bind, Option.bind_some]
      rfl

/-- An entry stands in neither of the two ends. -/
lemma ne_ends (h : l.Holds (us ++ (i, a) :: vs)) : i ≠ head ∧ i ≠ tail := by
  have hd := h.nodup_ends
  simp only [List.map_append, List.map_cons, List.nodup_cons, List.mem_cons, List.mem_append,
    not_or] at hd
  exact ⟨Ne.symm hd.1.2.2.1, Ne.symm hd.2.1.2.1⟩

/-- An entry is renewed inside the array. -/
lemma checked_renew (h : l.Holds (us ++ (i, a) :: vs)) :
    Checked.renew l i = some (l.renew i) := by
  have hhead := h.head_lt_size
  have hi : i < l.slots.size := h.lt_size (mem_path_of_mem (a := a) (by simp))
  have hne : i ≠ tail := h.ne_ends.2
  have hfirst : l.newest? = some i ↔ l.slots[head].older = i := by
    rw [UseOrder.newest?, Array.getElem?_eq_getElem hhead]
    grind
  simp only [Checked.renew, Array.getElem?_eq_getElem hhead, Option.bind_eq_bind,
    Option.bind_some, UseOrder.renew, hfirst]
  split
  · rfl
  · have hd := h.distinct
    have hc := h.chained
    rw [path_split] at hd hc
    obtain ⟨newer, older, hnewer, holder⟩ := exists_adjacent (by simp) (by simp) hc
    obtain ⟨first, hfirst⟩ := exists_adjacent_head (by simp)
      (chain_unlink (by simp) (by simp) hd hc)
    rw [Checked.unlink_eq hnewer holder, Option.bind_some,
      Checked.linkFirst_eq hfirst (by simpa using hi)]
    rfl

/-- An entry is taken out inside the array, and it was counted. -/
lemma checked_remove (h : l.Holds (us ++ (i, a) :: vs)) :
    Checked.remove l i = some (l.remove i) := by
  have hget := h.get?_eq (i := i) (a := a) (by simp)
  have hends : ¬(i = head ∨ i = tail) := not_or.mpr h.ne_ends
  have hlength : l.length ≠ 0 := by
    rw [h.length_eq]
    simp
  have hc := h.chained
  rw [path_split] at hc
  -- the pointers of the slot are still there after its entry has been taken
  obtain ⟨newer, older, hnewer, holder⟩ := exists_adjacent (by simp) (by simp)
    (chain_modify i (f := fun s => { s with entry := none }) (by simp) hc)
  simp only [Checked.remove, if_neg hends, hget, Checked.unlink_eq hnewer holder,
    Option.bind_eq_bind, Option.bind_some, if_neg hlength, UseOrder.remove]
  rfl

/-- Any other handle, of an end, of a freed slot or of no slot at all, takes nothing out. -/
lemma checked_remove_other (h : l.Holds xs) (hi : i ∉ xs.map Prod.fst) :
    Checked.remove l i = some (none, l) := by
  rw [Checked.remove, h.get?_eq_none_iff.mpr hi]
  split <;> rfl

/-- The least recently used entry is taken out inside the array. -/
lemma checked_popOldest (h : l.Holds xs) : Checked.popOldest l = some l.popOldest := by
  simp only [Checked.popOldest, h.checked_oldest?, Option.bind_eq_bind, Option.bind_some,
    UseOrder.popOldest, h.oldest?_eq]
  rcases List.eq_nil_or_concat' xs with rfl | ⟨ys, ⟨i, a⟩, rfl⟩
  · rfl
  · simpa using h.checked_remove

/-- All entries are forgotten inside the array. -/
lemma checked_clear (h : l.Holds xs) : Checked.clear l = some l.clear := by
  have hsize : (l.slots.take 2).size = 2 := h.size_take_ends
  simp only [Checked.clear, Option.bind_eq_bind]
  rw [Checked.write_eq _ (by rw [hsize]; decide), Option.bind_some,
    Checked.write_eq _ (by rw [Array.size_modify, hsize]; decide)]
  rfl

/-! ### Walking the chain, call by call -/

/-- A walk from behind slot `i` on ends, and yields all entries of the chain. -/
lemma walkFrom_eq {slots : Array (Slot α)} : ∀ {xs : List (Nat × α)} {calls i : Nat},
    (i :: (xs.map Prod.fst ++ [tail])).IsChain (Adjacent slots) →
    (∀ x ∈ xs, entryOf slots x.1 = some x.2) → tail ∉ xs.map Prod.fst → xs.length < calls →
    ∀ j, olderOf slots i = some j → Checked.walkFrom slots calls j = some xs := by
  intro xs
  induction xs with
  | nil =>
      intro calls i hc _ _ hcalls j hj
      obtain ⟨⟨ho, -⟩, -⟩ := List.isChain_cons_cons.mp hc
      obtain rfl : tail = j := Option.some.inj (ho.symm.trans hj)
      obtain ⟨calls, rfl⟩ := Nat.exists_eq_add_one_of_ne_zero (Nat.ne_of_gt hcalls)
      rw [Checked.walkFrom, Checked.next, if_pos rfl]
      rfl
  | cons x xs ih =>
      intro calls i hc he ht hcalls j hj
      obtain ⟨⟨ho, -⟩, hrest⟩ := List.isChain_cons_cons.mp hc
      obtain rfl : x.1 = j := Option.some.inj (ho.symm.trans hj)
      obtain ⟨calls, rfl⟩ := Nat.exists_eq_add_one_of_ne_zero (Nat.ne_of_gt (by omega : 0 < calls))
      simp only [List.map_cons, List.mem_cons, not_or] at ht
      obtain ⟨s, hs, hentry⟩ := Option.bind_eq_some_iff.mp (he x (by simp))
      have hnext : Checked.next slots x.1 = some (some x, s.older) := by
        rw [Checked.next, if_neg (Ne.symm ht.1), hs]
        simp [hentry]
      have hend : Checked.walkFrom slots calls s.older = some xs :=
        ih hrest (fun y hy => he y (by simp [hy])) ht.2 (by simpa using hcalls) s.older
          (by simp [olderOf, hs])
      rw [Checked.walkFrom, hnext]
      simp [hend]

/-- A walk yields the handles and entries held and ends. -/
lemma walk_eq (h : l.Holds xs) {calls : Nat} (hcalls : xs.length < calls) :
    Checked.walk l calls = some xs := by
  have hhead := h.head_lt_size
  have htail : tail ∉ xs.map Prod.fst := (List.nodup_cons.mp h.nodup_ends.of_cons).1
  simp only [Checked.walk, Array.getElem?_eq_getElem hhead, Option.bind_eq_bind, Option.bind_some]
  exact walkFrom_eq h.chained (fun x hx => (h.entry_iff _ _).mpr hx) htail hcalls _
    (by rw [olderOf, Array.getElem?_eq_getElem hhead, Option.map_some])

end Holds

end ReplicatedCache.UseOrder
