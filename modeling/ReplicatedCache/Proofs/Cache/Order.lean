/-
What an order of use holds: a list of handles and entries, most recently used first.

* `UseOrder.path`: the handles from the front end to the back end, both ends included;
* `UseOrder.Holds`: **the invariant**: the slots on the chain have the entries of the list, and
  every slot off the chain is free exactly once;
* `Holds.add`, `Holds.renew`, `Holds.remove`, `Holds.popOldest`, `Holds.update`, `Holds.clear`:
  what each operation does to the list;
* `Holds.toList_eq`, `Holds.toListReversed_eq`: walking the chain from either end gives the list
  back.
-/
import Mathlib.Data.List.Perm.Subperm
import ReplicatedCache.Proofs.Cache.Chain

namespace ReplicatedCache.UseOrder

variable {α : Type}

/-- The handles from the front end to the back end. -/
def path (handles : List Nat) : List Nat := head :: (handles ++ [tail])

/-- **The invariant of an order of use**: it holds the handles and entries `xs`, most recently
used first. They stand on one chain between the two ends, no other slot has an entry, and the
slots off the chain are the free ones, each once. -/
structure Holds (l : UseOrder α) (xs : List (Nat × α)) : Prop where
  chained : (path (xs.map Prod.fst)).IsChain (Adjacent l.slots)
  distinct : (path (xs.map Prod.fst)).Nodup
  entry_iff : ∀ i a, entryOf l.slots i = some a ↔ (i, a) ∈ xs
  free_iff : ∀ i, i ∈ l.free ↔ i < l.slots.size ∧ i ∉ path (xs.map Prod.fst)
  free_nodup : l.free.Nodup
  length_eq : l.length = xs.length

lemma mem_path_of_mem {xs : List (Nat × α)} {i : Nat} {a : α} (h : (i, a) ∈ xs) :
    i ∈ path (xs.map Prod.fst) := by
  rw [path]
  simp only [List.mem_cons, List.mem_append, List.mem_map]
  exact .inr (.inl ⟨_, h, rfl⟩)

/-- Only the entry that is changed is another one. -/
lemma entryOf_update (l : UseOrder α) (i k : Nat) (f : α → α) :
    entryOf (l.update i f).slots k =
      if k = i then (entryOf l.slots k).map f else entryOf l.slots k := by
  simp only [entryOf, update, Array.getElem?_modify]
  by_cases hk : k = i
  · simp only [hk, if_pos]
    cases l.slots[i]? <;> rfl
  · simp [hk, Ne.symm hk]

lemma holds_empty : (empty : UseOrder α).Holds [] where
  chained := by
    refine List.isChain_cons_cons.mpr ⟨⟨rfl, rfl⟩, List.isChain_singleton _⟩
  distinct := by simp [path, head, tail]
  entry_iff i a := by
    match i with
    | 0 | 1 | _ + 2 => simp [entryOf, empty]
  free_iff i := by
    match i with
    | 0 | 1 | _ + 2 => simp [empty, path, head, tail]
  free_nodup := List.nodup_nil
  length_eq := rfl

namespace Holds

variable {l : UseOrder α} {xs us vs : List (Nat × α)} {i : Nat} {a : α}

lemma lt_size (h : l.Holds xs) {k : Nat} (hk : k ∈ path (xs.map Prod.fst)) :
    k < l.slots.size :=
  chain_lt_size (by simp [path]) h.chained k hk

/-- The two ends are there. -/
lemma head_lt_size (h : l.Holds xs) : head < l.slots.size := h.lt_size (by simp [path])

lemma tail_lt_size (h : l.Holds xs) : tail < l.slots.size := h.lt_size (by simp [path])

lemma get?_eq (h : l.Holds xs) (hi : (i, a) ∈ xs) : l.get? i = some a := by
  rw [get?_eq_entryOf, h.entry_iff]
  exact hi

/-- The most recently used entry is the first one. -/
lemma newest?_eq (h : l.Holds xs) : l.newest? = xs.head?.map Prod.fst := by
  have hsize := h.head_lt_size
  have hd := h.distinct
  have hc := h.chained
  rw [newest?, Array.getElem?_eq_getElem hsize]
  cases xs with
  | nil =>
      obtain ⟨⟨ho, -⟩, -⟩ := List.isChain_cons_cons.mp hc
      simp only [olderOf, Array.getElem?_eq_getElem hsize, Option.map_some, Option.some.injEq] at ho
      simp [ho]
  | cons x xs =>
      obtain ⟨⟨ho, -⟩, -⟩ := List.isChain_cons_cons.mp hc
      simp only [olderOf, Array.getElem?_eq_getElem hsize, Option.map_some, Option.some.injEq] at ho
      have hne : x.1 ≠ tail := fun e => by simp [path, e] at hd
      simp [ho, hne]

/-- The least recently used entry is the last one. -/
lemma oldest?_eq (h : l.Holds xs) : l.oldest? = xs.getLast?.map Prod.fst := by
  have hsize := h.tail_lt_size
  have hd := h.distinct
  have hc := h.chained
  rw [oldest?, Array.getElem?_eq_getElem hsize]
  rcases List.eq_nil_or_concat' xs with rfl | ⟨ys, x, rfl⟩
  · obtain ⟨⟨-, hn⟩, -⟩ := List.isChain_cons_cons.mp hc
    simp only [newerOf, Array.getElem?_eq_getElem hsize, Option.map_some, Option.some.injEq] at hn
    simp [hn]
  · have hx : path ((ys ++ [x]).map Prod.fst) = head :: ys.map Prod.fst ++ x.1 :: [tail] := by
      simp [path]
    rw [hx] at hc hd
    obtain ⟨-, hc⟩ := List.isChain_split.mp hc
    obtain ⟨⟨-, hn⟩, -⟩ := List.isChain_cons_cons.mp hc
    simp only [newerOf, Array.getElem?_eq_getElem hsize, Option.map_some, Option.some.injEq] at hn
    have hne : x.1 ≠ head := fun e => by simp [e] at hd
    simp [hn, hne]

/-- Handles name one entry each, and none of them is an end. -/
lemma nodup_ends (h : l.Holds xs) : (head :: tail :: xs.map Prod.fst).Nodup :=
  ((List.perm_append_singleton tail _).cons head).nodup_iff.mp h.distinct

/-- A handle is live exactly as long as it is one of the list. -/
lemma get?_eq_none_iff (h : l.Holds xs) : l.get? i = none ↔ i ∉ xs.map Prod.fst := by
  rw [get?_eq_entryOf, Option.eq_none_iff_forall_ne_some]
  constructor
  · rintro hnone hm
    obtain ⟨⟨_, b⟩, hb, rfl⟩ := List.mem_map.mp hm
    exact hnone b ((h.entry_iff _ _).mpr hb)
  · intro hm b hb
    exact hm (List.mem_map_of_mem (f := Prod.fst) ((h.entry_iff i b).mp hb))

/-! ### Operations on the list held -/

/-- Putting slot `i` behind the front end, once it has its entry and is off the chain. -/
lemma link {slots : Array (Slot α)} {free : List Nat} (h : l.Holds xs)
    (hchain : (path (xs.map Prod.fst)).IsChain (Adjacent slots)) (hi : i < slots.size)
    (hpath : i ∉ path (xs.map Prod.fst))
    (hentry : ∀ k, entryOf slots k = if k = i then some a else entryOf l.slots k)
    (hfree : ∀ k, k ∈ free ↔ k ≠ i ∧ k < slots.size ∧ k ∉ path (xs.map Prod.fst))
    (hnodup : free.Nodup) :
    Holds ⟨linkFirst slots i, free, l.length + 1⟩ ((i, a) :: xs) := by
  have hhead : i ≠ head := fun e => hpath (by simp [path, e])
  have hrest : i ∉ xs.map Prod.fst ++ [tail] := fun hm => hpath (List.mem_cons_of_mem _ hm)
  have hd : (path (i :: xs.map Prod.fst)).Nodup := by
    have := h.distinct
    simp only [path, List.cons_append, List.nodup_cons, List.mem_cons, not_or] at this ⊢
    exact ⟨⟨hhead.symm, this.1⟩, hrest, this.2⟩
  refine ⟨chain_linkFirst (by simp) hi hd hchain, hd, ?_, ?_, hnodup, ?_⟩
  · intro k b
    rw [entryOf_linkFirst, hentry, List.mem_cons, Prod.mk.injEq]
    by_cases hk : k = i
    · subst hk
      have hnot : (k, b) ∉ xs := fun hm => hpath (mem_path_of_mem hm)
      simp [hnot, eq_comm]
    · simp [hk, h.entry_iff]
  · intro k
    rw [hfree, size_linkFirst]
    simp only [path, List.map_cons, List.cons_append, List.mem_cons, not_or]
    tauto
  · rw [h.length_eq, List.length_cons]

/-- A new entry comes first, under a handle that was not in use. -/
lemma add (h : l.Holds xs) (a : α) :
    (l.add a).2.Holds (((l.add a).1, a) :: xs) := by
  cases hf : l.free with
  | cons i free =>
      have hi := (h.free_iff i).mp (by simp [hf])
      have hn := h.free_nodup
      rw [hf, List.nodup_cons] at hn
      simp only [UseOrder.add, hf]
      refine h.link (chain_modify i (by simp) h.chained) (by simpa using hi.1) hi.2 ?_ ?_ hn.2
      · intro k
        by_cases hk : k = i
        · rw [if_pos hk, hk, entryOf, Array.getElem?_modify, if_pos rfl,
            Array.getElem?_eq_getElem hi.1]
          rfl
        · simp [entryOf, Array.getElem?_modify, hk, Ne.symm hk]
      · intro k
        have := h.free_iff k
        rw [hf, List.mem_cons] at this
        rw [Array.size_modify, ← this]
        constructor
        · exact fun hk => ⟨fun e => hn.1 (e ▸ hk), .inr hk⟩
        · exact fun hk => hk.2.resolve_left hk.1
  | nil =>
      have hlt : ∀ k ∈ path (xs.map Prod.fst), k < l.slots.size := fun k => h.lt_size
      simp only [UseOrder.add, hf]
      refine h.link (chain_push _ hlt h.chained) (by simp) (fun hm => (hlt _ hm).ne rfl)
        ?_ ?_ List.nodup_nil
      · intro k
        by_cases hk : k = l.slots.size
        · simp [entryOf, hk]
        · simp [entryOf, Array.getElem?_push, hk]
      · intro k
        have := h.free_iff k
        simp only [hf, List.not_mem_nil, false_iff, not_and, not_not] at this
        simp only [List.not_mem_nil, Array.size_push, false_iff, not_and, not_not]
        exact fun hne hk => this (by omega)

/-- The handles of a split list, with those of the two ends. -/
lemma path_split : path ((us ++ (i, a) :: vs).map Prod.fst) =
    (head :: us.map Prod.fst) ++ i :: (vs.map Prod.fst ++ [tail]) := by
  simp [path]

/-- An entry that is renewed comes first under its old handle. -/
lemma renew (h : l.Holds (us ++ (i, a) :: vs)) :
    (l.renew i).Holds ((i, a) :: (us ++ vs)) := by
  have hn := h.newest?_eq
  cases us with
  | nil =>
      rw [UseOrder.renew, if_pos (by simpa using hn)]
      exact h
  | cons u us =>
      have hd := h.distinct
      have hc := h.chained
      have hne : ¬ l.newest? = some i := by
        rw [hn]
        rintro e
        simp only [List.cons_append, List.head?_cons, Option.map_some, Option.some.injEq] at e
        simp [path, e] at hd
      rw [UseOrder.renew, if_neg hne]
      rw [path_split] at hd hc
      have hunlinked := chain_unlink (by simp) (by simp) hd hc
      have hnew : path (((i, a) :: (u :: us ++ vs)).map Prod.fst) =
          head :: i :: ((u :: us).map Prod.fst ++ (vs.map Prod.fst ++ [tail])) := by
        simp [path]
      have hperm : (path (((i, a) :: (u :: us ++ vs)).map Prod.fst)).Perm
          (path ((u :: us ++ (i, a) :: vs).map Prod.fst)) := by
        rw [hnew, path_split]
        exact List.Perm.cons head List.perm_middle.symm
      have hi := h.lt_size (mem_path_of_mem (i := i) (a := a) (by simp))
      refine ⟨?_, hperm.nodup_iff.mpr h.distinct, ?_, ?_, h.free_nodup, ?_⟩
      · rw [hnew]
        refine chain_linkFirst (by simp) (by simpa using hi) ?_ (by simpa using hunlinked)
        rw [← hnew]
        exact hperm.nodup_iff.mpr h.distinct
      · intro k b
        rw [entryOf_linkFirst, entryOf_unlink, h.entry_iff]
        exact List.perm_middle.mem_iff
      · intro k
        rw [size_linkFirst, size_unlink, hperm.mem_iff]
        exact h.free_iff k
      · rw [h.length_eq]
        simp
        omega

/-- An entry that is taken out leaves the others as they are. -/
lemma remove (h : l.Holds (us ++ (i, a) :: vs)) :
    (l.remove i).1 = some a ∧ (l.remove i).2.Holds (us ++ vs) := by
  have hget := h.get?_eq (i := i) (a := a) (by simp)
  have hi := h.lt_size (mem_path_of_mem (i := i) (a := a) (by simp))
  have hd := h.distinct
  have hc := h.chained
  have hold : path ((us ++ vs).map Prod.fst) =
      (head :: us.map Prod.fst) ++ (vs.map Prod.fst ++ [tail]) := by
    simp [path]
  rw [path_split] at hd hc
  have hmem : ∀ k, k ∈ path ((us ++ (i, a) :: vs).map Prod.fst) ↔
      k = i ∨ k ∈ path ((us ++ vs).map Prod.fst) := by
    intro k
    rw [path_split, hold, List.perm_middle.mem_iff, List.mem_cons]
  have hnotin : i ∉ path ((us ++ vs).map Prod.fst) := by
    rw [hold]
    exact (List.nodup_cons.mp (List.perm_middle.nodup_iff.mp hd)).1
  have hentry : ∀ k, entryOf (l.slots.modify i fun s => { s with entry := none }) k =
      if k = i then none else entryOf l.slots k := by
    intro k
    by_cases hk : k = i
    · rw [if_pos hk, hk, entryOf, Array.getElem?_modify, if_pos rfl, Array.getElem?_eq_getElem hi]
      rfl
    · simp [entryOf, Array.getElem?_modify, hk, Ne.symm hk]
  rw [UseOrder.remove, hget]
  refine ⟨rfl, ?_, ?_, ?_, ?_, ?_, ?_⟩
  · rw [hold]
    exact chain_unlink (by simp) (by simp) hd (chain_modify i (by simp) hc)
  · rw [hold]
    exact (List.nodup_cons.mp (List.perm_middle.nodup_iff.mp hd)).2
  · intro k b
    rw [entryOf_unlink, hentry]
    by_cases hk : k = i
    · rw [if_pos hk, hk]
      simpa using fun hm => hnotin (mem_path_of_mem hm)
    · rw [if_neg hk, h.entry_iff, List.perm_middle.mem_iff, List.mem_cons, Prod.mk.injEq]
      tauto
  · intro k
    have := h.free_iff k
    rw [hmem] at this
    rw [size_unlink, Array.size_modify, List.mem_cons]
    constructor
    · rintro (rfl | hk)
      · exact ⟨hi, hnotin⟩
      · obtain ⟨h1, h2⟩ := this.mp hk
        exact ⟨h1, fun hm => h2 (.inr hm)⟩
    · rintro ⟨h1, h2⟩
      by_cases hk : k = i
      · exact .inl hk
      · exact .inr (this.mpr ⟨h1, fun hm => hm.elim hk h2⟩)
  · refine List.nodup_cons.mpr ⟨fun hm => ?_, h.free_nodup⟩
    exact ((h.free_iff i).mp hm).2 ((hmem i).mpr (.inl rfl))
  · rw [h.length_eq]
    simp

/-- Taking out the least recently used entry. -/
lemma popOldest (h : l.Holds (us ++ [(i, a)])) :
    l.popOldest = (some a, (l.remove i).2) ∧ (l.remove i).2.Holds us := by
  obtain ⟨hr, hu⟩ := h.remove
  have ho := h.oldest?_eq
  rw [List.getLast?_concat, Option.map_some] at ho
  rw [List.append_nil] at hu
  refine ⟨?_, hu⟩
  rw [UseOrder.popOldest, ho]
  exact Prod.ext hr rfl

lemma popOldest_nil (h : l.Holds []) : l.popOldest = (none, l) := by
  have ho := h.oldest?_eq
  rw [List.getLast?_nil, Option.map_none] at ho
  rw [UseOrder.popOldest, ho]

/-- An entry that is changed keeps its handle and its place. -/
lemma update (h : l.Holds (us ++ (i, a) :: vs)) (f : α → α) :
    (l.update i f).Holds (us ++ (i, f a) :: vs) := by
  have hi := h.lt_size (mem_path_of_mem (i := i) (a := a) (by simp))
  have hhandles : path ((us ++ (i, f a) :: vs).map Prod.fst) =
      path ((us ++ (i, a) :: vs).map Prod.fst) := by
    rw [path_split, path_split]
  have hother : ∀ b, (i, b) ∉ us ++ vs := by
    intro b hb
    have hd := h.distinct
    rw [path_split, List.perm_middle.nodup_iff, List.nodup_cons] at hd
    refine hd.1 ?_
    simp only [List.mem_append] at hb
    rcases hb with hb | hb
    · simp [List.mem_map_of_mem (f := Prod.fst) hb]
    · simp [List.mem_map_of_mem (f := Prod.fst) hb]
  refine ⟨?_, hhandles ▸ h.distinct, ?_, ?_, h.free_nodup, ?_⟩
  · rw [hhandles]
    exact chain_modify i (by simp) h.chained
  · intro k b
    have hk := h.entry_iff k b
    rw [List.perm_middle.mem_iff, List.mem_cons, Prod.mk.injEq] at hk ⊢
    by_cases hki : k = i
    · subst hki
      have ha : entryOf l.slots k = some a := (h.entry_iff k a).mpr (by simp)
      have hnew : entryOf (l.update k f).slots k = some (f a) := by
        rw [entryOf_update, if_pos rfl, ha, Option.map_some]
      simp [hnew, hother b, eq_comm]
    · have hnew : entryOf (l.update i f).slots k = entryOf l.slots k := by
        rw [entryOf_update, if_neg hki]
      rw [hnew, hk]
      simp [hki]
  · intro k
    rw [hhandles]
    simpa [UseOrder.update] using h.free_iff k
  · rw [UseOrder.update, h.length_eq]
    simp

lemma remove_other (h : l.Holds xs) (hi : i ∉ xs.map Prod.fst) : l.remove i = (none, l) := by
  rw [UseOrder.remove, h.get?_eq_none_iff.mpr hi]

lemma update_other (h : l.Holds xs) (f : α → α) (hi : i ∉ xs.map Prod.fst) :
    (l.update i f).Holds xs := by
  have hentry : ∀ k, entryOf (l.update i f).slots k = entryOf l.slots k := by
    intro k
    rw [entryOf_update]
    split
    · next hk =>
        have hnone := h.get?_eq_none_iff.mpr hi
        rw [get?_eq_entryOf, ← hk] at hnone
        rw [hnone, Option.map_none]
    · rfl
  refine ⟨chain_modify i (by simp) h.chained, h.distinct, ?_, ?_, h.free_nodup, h.length_eq⟩
  · intro k b
    rw [hentry, h.entry_iff]
  · intro k
    simpa [UseOrder.update] using h.free_iff k

/-- Both ends are kept when all entries are forgotten. -/
lemma size_take_ends (h : l.Holds xs) : (l.slots.take 2).size = 2 := by
  have htail := h.tail_lt_size
  simp only [tail] at htail
  rw [Array.take_eq_extract, Array.size_extract]
  omega

/-- Nothing is held once all entries are forgotten. -/
lemma clear (h : l.Holds xs) : l.clear.Holds [] := by
  have hsize := h.size_take_ends
  have hends : ∀ k < 2, entryOf l.slots k = none := by
    intro k hk
    rw [← get?_eq_entryOf, h.get?_eq_none_iff]
    intro hm
    have hd := h.nodup_ends
    obtain rfl | rfl : k = head ∨ k = tail :=
      Nat.le_one_iff_eq_zero_or_eq_one.mp (Nat.le_of_lt_succ hk)
    · exact (List.nodup_cons.mp hd).1 (List.mem_cons_of_mem _ hm)
    · exact (List.nodup_cons.mp hd.of_cons).1 hm
  have hentry : ∀ k, entryOf l.clear.slots k = none := by
    intro k
    rw [UseOrder.clear, entryOf_setNewer, entryOf_setOlder, entryOf, Array.take_eq_extract,
      Array.getElem?_extract]
    split
    · rw [Nat.zero_add]
      exact hends k (by omega)
    · rfl
  have hadjacent : Adjacent l.clear.slots head tail := by
    constructor
    · rw [UseOrder.clear, olderOf_setNewer, olderOf_setOlder_self]
      simp [hsize, head]
    · rw [UseOrder.clear, newerOf_setNewer_self]
      simp [hsize, tail]
  refine ⟨List.isChain_cons_cons.mpr ⟨hadjacent, List.isChain_singleton _⟩, ?_, ?_, ?_,
    List.nodup_nil, rfl⟩
  · simp [path, head, tail]
  · intro k b
    simp [hentry]
  · intro k
    have hslots : l.clear.slots.size = 2 := by
      rw [UseOrder.clear, size_setNewer, size_setOlder, hsize]
    rw [hslots]
    rcases k with _ | _ | k <;> simp [UseOrder.clear, path, head, tail]

/-! ### Walking the chain -/

/-- Each entry has a slot of its own. -/
lemma length_le_size (h : l.Holds xs) : xs.length ≤ l.slots.size := by
  have hsub : path (xs.map Prod.fst) ⊆ List.range l.slots.size := fun k hk =>
    List.mem_range.mpr (h.lt_size hk)
  have := (List.subperm_of_subset h.distinct hsub).length_le
  simp [path] at this
  omega

/-- The walk towards the older end lists the entries of the chain. -/
lemma chainFrom_eq {slots : Array (Slot α)} : ∀ {xs : List (Nat × α)} {fuel i : Nat},
    (i :: (xs.map Prod.fst ++ [tail])).IsChain (Adjacent slots) →
    (∀ x ∈ xs, entryOf slots x.1 = some x.2) → tail ∉ xs.map Prod.fst → xs.length ≤ fuel →
    ∀ j, olderOf slots i = some j → chainFrom slots fuel j = xs := by
  intro xs
  induction xs with
  | nil =>
      intro fuel i hc _ _ _ j hj
      obtain ⟨⟨ho, -⟩, -⟩ := List.isChain_cons_cons.mp hc
      obtain rfl : tail = j := Option.some.inj (ho.symm.trans hj)
      cases fuel <;> simp [chainFrom]
  | cons x xs ih =>
      intro fuel i hc he ht hf j hj
      obtain ⟨⟨ho, -⟩, hrest⟩ := List.isChain_cons_cons.mp hc
      obtain rfl : x.1 = j := Option.some.inj (ho.symm.trans hj)
      obtain ⟨fuel, rfl⟩ := Nat.exists_eq_add_one_of_ne_zero (n := fuel) (by grind)
      simp only [List.map_cons, List.mem_cons, not_or] at ht
      have hx := he x (by simp)
      rw [entryOf, Option.bind_eq_some_iff] at hx
      obtain ⟨s, hs, hentry⟩ := hx
      obtain ⟨entry, newer, older⟩ := s
      simp only at hentry
      subst hentry
      rw [chainFrom, if_neg (Ne.symm ht.1), hs]
      refine congrArg (x :: ·) ?_
      exact ih hrest (fun y hy => he y (by simp [hy])) ht.2 (by simpa using hf) older
        (by simp [olderOf, hs])

/-- The handles and entries listed are the ones held. -/
lemma toList_eq (h : l.Holds xs) : l.toList = xs := by
  have hhead := h.head_lt_size
  have htail : tail ∉ xs.map Prod.fst := (List.nodup_cons.mp h.nodup_ends.of_cons).1
  rw [toList, Array.getElem?_eq_getElem hhead]
  exact chainFrom_eq h.chained (fun x hx => (h.entry_iff _ _).mpr hx) htail h.length_le_size _
    (by rw [olderOf, Array.getElem?_eq_getElem hhead, Option.map_some])

/-- The walk towards the newer end lists the entries of the chain, the last one first. -/
lemma chainBackFrom_eq {slots : Array (Slot α)} {xs : List (Nat × α)} : ∀ {fuel i : Nat},
    (head :: (xs.map Prod.fst ++ [i])).IsChain (Adjacent slots) →
    (∀ x ∈ xs, entryOf slots x.1 = some x.2) → head ∉ xs.map Prod.fst → xs.length ≤ fuel →
    ∀ j, newerOf slots i = some j → chainBackFrom slots fuel j = xs.reverse := by
  induction xs using List.reverseRecOn with
  | nil =>
      intro fuel i hc _ _ _ j hj
      obtain ⟨⟨-, hn⟩, -⟩ := List.isChain_cons_cons.mp hc
      obtain rfl : head = j := Option.some.inj (hn.symm.trans hj)
      cases fuel <;> simp [chainBackFrom]
  | append_singleton xs x ih =>
      intro fuel i hc he ht hf j hj
      rw [List.map_append, List.append_assoc, ← List.cons_append] at hc
      obtain ⟨hrest, hc⟩ := List.isChain_split.mp hc
      obtain ⟨⟨-, hn⟩, -⟩ := List.isChain_cons_cons.mp hc
      obtain rfl : x.1 = j := Option.some.inj (hn.symm.trans hj)
      simp only [List.map_append, List.mem_append, List.map_cons, List.map_nil,
        List.mem_singleton, not_or] at ht
      obtain ⟨fuel, rfl⟩ := Nat.exists_eq_add_one_of_ne_zero (n := fuel) (by grind)
      obtain ⟨s, hs, hentry⟩ := Option.bind_eq_some_iff.mp (he x (by simp))
      obtain ⟨entry, newer, older⟩ := s
      simp only at hentry
      subst hentry
      rw [chainBackFrom, if_neg (Ne.symm ht.2), hs, List.reverse_concat']
      refine congrArg (x :: ·) ?_
      exact ih hrest (fun y hy => he y (by simp [hy])) ht.1 (by simpa using hf) newer
        (by simp [newerOf, hs])

/-- From the other end the same handles and entries are listed the other way round. -/
lemma toListReversed_eq (h : l.Holds xs) : l.toListReversed = xs.reverse := by
  have htail := h.tail_lt_size
  have hhead : head ∉ xs.map Prod.fst :=
    fun hm => (List.nodup_cons.mp h.nodup_ends).1 (List.mem_cons_of_mem _ hm)
  rw [toListReversed, Array.getElem?_eq_getElem htail]
  exact chainBackFrom_eq h.chained (fun x hx => (h.entry_iff _ _).mpr hx) hhead h.length_le_size _
    (by rw [newerOf, Array.getElem?_eq_getElem htail, Option.map_some])

lemma entries_eq (h : l.Holds xs) : l.entries = xs.map Prod.snd := by
  rw [entries, h.toList_eq]

end Holds

end ReplicatedCache.UseOrder
