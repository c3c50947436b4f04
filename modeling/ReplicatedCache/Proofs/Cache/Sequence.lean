/-
An order of use as a sequence of handles and entries.

* `UseOrder.Command`, `UseOrder.run`: calls made one after the other, and what they return;
* `UseOrder.Acts`, `UseOrder.Follows`: what a call, and a run of calls, does to a list of handles
  and entries;
* `UseOrder.Shows`: all that can be read from an order of use is what a list says;
* `Holds.step`: one call keeps the invariant, stays inside the array and acts on the list held;
* `run_refines`: **every run from an empty order of use stays inside the array and follows a
  list of handles and entries**, in which a handle keeps naming its entry until that is taken out.
-/
import ReplicatedCache.Proofs.Cache.Bounds

namespace ReplicatedCache.UseOrder

variable {α : Type}

/-! ### Calls -/

/-- A call to an order of use. -/
inductive Command (α : Type) where
  | add (a : α)
  | renew (i : Nat)
  | remove (i : Nat)
  | popOldest
  | read (i : Nat)
  | change (i : Nat) (f : α → α)
  | clear

/-- What a call returns. -/
inductive Reply (α : Type) where
  | handle (i : Nat)
  | entry (a : Option α)
  | done

/-- Carries a call out. -/
def step (l : UseOrder α) : Command α → Reply α × UseOrder α
  | .add a => (.handle (l.add a).1, (l.add a).2)
  | .renew i => (.done, l.renew i)
  | .remove i => (.entry (l.remove i).1, (l.remove i).2)
  | .popOldest => (.entry l.popOldest.1, l.popOldest.2)
  | .read i => (.entry (l.get? i), l)
  | .change i f => (.entry (l.get? i), l.update i f)
  | .clear => (.done, l.clear)

/-- Carries calls out one after the other. -/
def run (l : UseOrder α) : List (Command α) → List (Reply α) × UseOrder α
  | [] => ([], l)
  | c :: cs => ((l.step c).1 :: ((l.step c).2.run cs).1, ((l.step c).2.run cs).2)

namespace Checked

/-- Carries a call out, with each access to a slot checked. -/
def step (l : UseOrder α) : Command α → Option (Reply α × UseOrder α)
  | .add a => (add l a).map fun r => (.handle r.1, r.2)
  | .renew i => (renew l i).map fun l => (.done, l)
  | .remove i => (remove l i).map fun r => (.entry r.1, r.2)
  | .popOldest => (popOldest l).map fun r => (.entry r.1, r.2)
  | .read i => some (.entry (l.get? i), l)
  | .change i f => some (.entry (l.get? i), l.update i f)
  | .clear => (clear l).map fun l => (.done, l)

/-- Carries calls out one after the other, with each access to a slot checked. -/
def run (l : UseOrder α) : List (Command α) → Option (List (Reply α) × UseOrder α)
  | [] => some ([], l)
  | c :: cs => do
      let (r, l) ← step l c
      let (rs, l) ← run l cs
      return (r :: rs, l)

end Checked

/-- A call that renews a handle finds an entry there. -/
def Renews (l : UseOrder α) : Command α → Prop
  | .renew i => (l.get? i).isSome
  | _ => True

/-- Every handle that is renewed along a run names an entry at that time. -/
def RenewsLive : UseOrder α → List (Command α) → Prop
  | _, [] => True
  | l, c :: cs => l.Renews c ∧ RenewsLive (l.step c).2 cs

/-- A call takes out the entry with handle `i`. -/
def TakesOut (l : UseOrder α) (i : Nat) (c : Command α) : Prop :=
  c = .remove i ∨ (c = .popOldest ∧ l.oldest? = some i) ∨ c = .clear

/-- No call of a run takes out the entry with handle `i`. -/
def Spares (i : Nat) : UseOrder α → List (Command α) → Prop
  | _, [] => True
  | l, c :: cs => ¬l.TakesOut i c ∧ Spares i (l.step c).2 cs

/-- What a call makes of the entry with handle `i`, if it leaves it in. -/
def Command.changed (i : Nat) (a : α) : Command α → α
  | .change j f => if j = i then f a else a
  | _ => a

/-! ### Lists of handles and entries -/

/-- What a call does to a list of handles and entries, most recently used first, and returns. -/
inductive Acts : List (Nat × α) → Command α → Reply α → List (Nat × α) → Prop
  /-- A new handle is neither an end nor in use, and its entry comes first. -/
  | add {xs i a} : i ≠ head → i ≠ tail → i ∉ xs.map Prod.fst →
      Acts xs (.add a) (.handle i) ((i, a) :: xs)
  | renew {us i a vs} : Acts (us ++ (i, a) :: vs) (.renew i) .done ((i, a) :: (us ++ vs))
  | remove {us i a vs} :
      Acts (us ++ (i, a) :: vs) (.remove i) (.entry (some a)) (us ++ vs)
  | removeOther {xs i} : i ∉ xs.map Prod.fst → Acts xs (.remove i) (.entry none) xs
  | popOldest {us i a} : Acts (us ++ [(i, a)]) .popOldest (.entry (some a)) us
  | popNone : Acts [] .popOldest (.entry none) []
  | read {us i a vs} :
      Acts (us ++ (i, a) :: vs) (.read i) (.entry (some a)) (us ++ (i, a) :: vs)
  | readOther {xs i} : i ∉ xs.map Prod.fst → Acts xs (.read i) (.entry none) xs
  | change {us i a vs f} :
      Acts (us ++ (i, a) :: vs) (.change i f) (.entry (some a)) (us ++ (i, f a) :: vs)
  | changeOther {xs i f} : i ∉ xs.map Prod.fst → Acts xs (.change i f) (.entry none) xs
  | clear {xs} : Acts xs .clear .done []

/-- What a run of calls does to a list of handles and entries, and returns. -/
inductive Follows : List (Nat × α) → List (Command α) → List (Reply α) → List (Nat × α) → Prop
  | nil {xs} : Follows xs [] [] xs
  | cons {xs ys zs c cs r rs} : Acts xs c r ys → Follows ys cs rs zs →
      Follows xs (c :: cs) (r :: rs) zs

/-- All that can be read from an order of use is what the list `xs` says. -/
structure Shows (l : UseOrder α) (xs : List (Nat × α)) : Prop where
  /-- A walk ends inside the array, after one call more than there are entries. -/
  walk : ∀ calls, xs.length < calls → Checked.walk l calls = some xs
  toList : l.toList = xs
  toListReversed : l.toListReversed = xs.reverse
  length : l.length = xs.length
  isEmpty : l.isEmpty = xs.isEmpty
  newest : l.newest? = xs.head?.map Prod.fst ∧ Checked.newest? l = some l.newest?
  oldest : l.oldest? = xs.getLast?.map Prod.fst ∧ Checked.oldest? l = some l.oldest?
  get : ∀ i a, l.get? i = some a ↔ (i, a) ∈ xs
  handles : (head :: tail :: xs.map Prod.fst).Nodup

/-- An entry that a call does not take out keeps its handle. -/
lemma Acts.mem {xs ys : List (Nat × α)} {c : Command α} {r : Reply α} {i : Nat} {a : α}
    (h : Acts xs c r ys) (hd : (xs.map Prod.fst).Nodup) (hi : (i, a) ∈ xs)
    (hremove : c ≠ .remove i) (hpop : c = .popOldest → xs.getLast?.map Prod.fst ≠ some i)
    (hclear : c ≠ .clear) : (i, c.changed i a) ∈ ys := by
  cases h with
  | add => exact List.mem_cons_of_mem _ hi
  | renew => exact List.perm_middle.mem_iff.mp hi
  | @remove us j b vs =>
      have hne : i ≠ j := fun e => hremove (e ▸ rfl)
      exact List.mem_of_ne_of_mem (by simp [hne]) (List.perm_middle.mem_iff.mp hi)
  | @popOldest us j b =>
      have hne : i ≠ j := fun e => hpop rfl (by simp [e])
      simpa [hne, Command.changed] using hi
  | @change us j b vs f =>
      rw [List.perm_middle.mem_iff, List.mem_cons, Prod.mk.injEq] at hi ⊢
      by_cases hj : j = i
      · subst hj
        have hother : (j, a) ∉ us ++ vs := by
          intro hm
          rw [List.map_append, List.map_cons, List.perm_middle.nodup_iff, List.nodup_cons,
            ← List.map_append] at hd
          have hj : j ∈ (us ++ vs).map Prod.fst := List.mem_map_of_mem (f := Prod.fst) hm
          exact hd.1 hj
        obtain ⟨-, rfl⟩ := hi.resolve_right hother
        exact .inl ⟨rfl, if_pos rfl⟩
      · rw [Command.changed, if_neg hj]
        exact .inr (hi.resolve_left fun e => hj e.1.symm)
  | clear => exact absurd rfl hclear
  | @changeOther _ j f hj =>
      have hne : j ≠ i := fun e => hj (e ▸ List.mem_map_of_mem (f := Prod.fst) hi)
      rwa [Command.changed, if_neg hne]
  | popNone | removeOther | read | readOther => exact hi

/-! ### Steps and runs -/

namespace Holds

variable {l : UseOrder α} {xs : List (Nat × α)}

/-- A handle either names one of the entries held or none. -/
lemma exists_split (xs : List (Nat × α)) (i : Nat) :
    (∃ us a vs, xs = us ++ (i, a) :: vs) ∨ i ∉ xs.map Prod.fst := by
  by_cases hi : i ∈ xs.map Prod.fst
  · obtain ⟨⟨_, a⟩, ha, rfl⟩ := List.mem_map.mp hi
    obtain ⟨us, vs, rfl⟩ := List.append_of_mem ha
    exact .inl ⟨us, a, vs, rfl⟩
  · exact .inr hi

/-- A handle that is given out is new, and is not an end. -/
lemma acts_add (h : l.Holds xs) (a : α) :
    Acts xs (.add a) (.handle (l.add a).1) (((l.add a).1, a) :: xs) := by
  have hd := (h.add a).nodup_ends
  simp only [List.map_cons, List.nodup_cons, List.mem_cons, not_or] at hd
  exact .add (Ne.symm hd.1.2.1) (Ne.symm hd.2.1.1) hd.2.2.1

/-- **One call** stays inside the array and acts on the list that is held. -/
lemma step (h : l.Holds xs) (c : Command α) (hc : l.Renews c) :
    ∃ ys, Checked.step l c = some (l.step c) ∧ Acts xs c (l.step c).1 ys ∧
      (l.step c).2.Holds ys := by
  cases c with
  | add a => exact ⟨_, by rw [Checked.step, h.checked_add]; rfl, h.acts_add a, h.add a⟩
  | renew i =>
      rcases exists_split xs i with ⟨us, a, vs, rfl⟩ | hi
      · exact ⟨_, by rw [Checked.step, h.checked_renew]; rfl, .renew, h.renew⟩
      · rw [Renews, h.get?_eq_none_iff.mpr hi] at hc
        exact absurd hc (by simp)
  | remove i =>
      rcases exists_split xs i with ⟨us, a, vs, rfl⟩ | hi
      · obtain ⟨hr, hl⟩ := h.remove
        refine ⟨us ++ vs, by rw [Checked.step, h.checked_remove]; rfl, ?_, hl⟩
        rw [UseOrder.step, hr]
        exact .remove
      · refine ⟨xs, by rw [Checked.step, h.checked_remove_other hi, UseOrder.step,
          h.remove_other hi]; rfl, ?_, ?_⟩
        · rw [UseOrder.step, h.remove_other hi]
          exact .removeOther hi
        · rw [UseOrder.step, h.remove_other hi]
          exact h
  | popOldest =>
      have hchecked : Checked.step l .popOldest = some (l.step .popOldest) := by
        rw [Checked.step, h.checked_popOldest]
        rfl
      rcases List.eq_nil_or_concat' xs with rfl | ⟨us, ⟨i, a⟩, rfl⟩
      · rw [hchecked, UseOrder.step, h.popOldest_nil]
        exact ⟨[], rfl, .popNone, h⟩
      · obtain ⟨hp, hl⟩ := h.popOldest
        rw [hchecked, UseOrder.step, hp]
        exact ⟨us, rfl, .popOldest, hl⟩
  | read i =>
      rcases exists_split xs i with ⟨us, a, vs, rfl⟩ | hi
      · refine ⟨_, rfl, ?_, h⟩
        rw [UseOrder.step, h.get?_eq (a := a) (by simp)]
        exact .read
      · refine ⟨_, rfl, ?_, h⟩
        rw [UseOrder.step, h.get?_eq_none_iff.mpr hi]
        exact .readOther hi
  | change i f =>
      rcases exists_split xs i with ⟨us, a, vs, rfl⟩ | hi
      · refine ⟨_, rfl, ?_, h.update f⟩
        rw [UseOrder.step, h.get?_eq (a := a) (by simp)]
        exact .change
      · refine ⟨_, rfl, ?_, h.update_other f hi⟩
        rw [UseOrder.step, h.get?_eq_none_iff.mpr hi]
        exact .changeOther hi
  | clear => exact ⟨[], by rw [Checked.step, h.checked_clear]; rfl, .clear, h.clear⟩

/-- **A run of calls** stays inside the array and follows the list that is held. -/
lemma run {cs : List (Command α)} (h : l.Holds xs) (hc : l.RenewsLive cs) :
    ∃ ys, Checked.run l cs = some (l.run cs) ∧ Follows xs cs (l.run cs).1 ys ∧
      (l.run cs).2.Holds ys := by
  induction cs generalizing l xs with
  | nil => exact ⟨xs, rfl, .nil, h⟩
  | cons c cs ih =>
      obtain ⟨ys, hstep, hacts, hys⟩ := h.step c hc.1
      obtain ⟨zs, hrun, hfollows, hzs⟩ := ih hys hc.2
      refine ⟨zs, ?_, .cons hacts hfollows, hzs⟩
      simp only [Checked.run, hstep, hrun, Option.bind_eq_bind, Option.bind_some]
      rfl

/-- A handle keeps naming its entry as long as that is left in. -/
lemma get?_run {cs : List (Command α)} {i : Nat} {a : α} (h : l.Holds xs) (hc : l.RenewsLive cs)
    (hs : l.Spares i cs) (hi : l.get? i = some a) :
    (l.run cs).2.get? i = some (cs.foldl (fun a c => c.changed i a) a) := by
  induction cs generalizing l xs a with
  | nil => exact hi
  | cons c cs ih =>
      obtain ⟨ys, -, hacts, hys⟩ := h.step c hc.1
      obtain ⟨hspares, hs⟩ := hs
      simp only [TakesOut, not_or, not_and] at hspares
      obtain ⟨hremove, hpop, hclear⟩ := hspares
      rw [get?_eq_entryOf, h.entry_iff] at hi
      rw [h.oldest?_eq] at hpop
      have hmem := hacts.mem h.nodup_ends.of_cons.of_cons hi hremove hpop hclear
      exact ih hys hc.2 hs (hys.get?_eq hmem)

/-- An order of use that holds a list shows that list. -/
lemma shows (h : l.Holds xs) : l.Shows xs where
  walk _ := h.walk_eq
  toList := h.toList_eq
  toListReversed := h.toListReversed_eq
  length := h.length_eq
  isEmpty := by
    rw [isEmpty, h.length_eq]
    cases xs <;> rfl
  newest := ⟨h.newest?_eq, h.checked_newest?⟩
  oldest := ⟨h.oldest?_eq, h.checked_oldest?⟩
  get i a := by
    rw [get?_eq_entryOf]
    exact h.entry_iff i a
  handles := h.nodup_ends

end Holds

lemma holds_withRoom (room : Nat) : (withRoom room : UseOrder α).Holds [] := holds_empty

/-- **Every run from an empty order of use follows a list of handles and entries**, whatever
room was made for it: no access leaves the array and the length never goes below zero, what is
returned is what the list says, and so is what can be read at the end. A handle that names no
entry takes nothing out, and one that does keeps naming its entry until that is taken out. -/
theorem run_refines (room : Nat) (cs : List (Command α)) (hc : (withRoom room).RenewsLive cs) :
    let l := ((withRoom room).run cs).2
    ∃ xs, Checked.run (withRoom room) cs = some ((withRoom room).run cs) ∧
      Follows [] cs ((withRoom room).run cs).1 xs ∧ l.Shows xs ∧
      (∀ i, i ∉ xs.map Prod.fst → Checked.remove l i = some (none, l) ∧ l.remove i = (none, l)) ∧
      ∀ more i a, l.RenewsLive more → l.Spares i more → l.get? i = some a →
        (l.run more).2.get? i = some (more.foldl (fun a c => c.changed i a) a) := by
  intro l
  obtain ⟨xs, hrun, hfollows, hxs⟩ := (holds_withRoom room).run hc
  refine ⟨xs, hrun, hfollows, hxs.shows, ?_, ?_⟩
  · intro i hi
    exact ⟨hxs.checked_remove_other hi, hxs.remove_other hi⟩
  · intro more i a hmore hspares hi
    exact hxs.get?_run hmore hspares hi

/-- A slot is freed, freed again in vain and used for another entry, while the entry beside it is
renewed and changed and still found under its handle later on. -/
theorem run_refines_slot_used_again :
    let cs : List (Command Nat) := [.add 7, .add 8, .renew 2, .remove 3, .remove 3, .remove 1,
      .add 9, .change 2 (· + 10), .renew 2]
    let more : List (Command Nat) := [.add 5, .remove 3, .change 2 (· + 100)]
    let l := ((withRoom 0).run cs).2
    (withRoom 0).RenewsLive cs ∧ Checked.run (withRoom 0) cs = some ((withRoom 0).run cs) ∧
      ((withRoom 0).run cs).1 = [.handle 2, .handle 3, .done, .entry (some 8), .entry none,
        .entry none, .handle 3, .entry (some 7), .done] ∧
      l.Shows [(2, 17), (3, 9)] ∧ Checked.remove l 4 = some (none, l) ∧
      l.RenewsLive more ∧ l.Spares 2 more ∧ (l.run more).2.get? 2 = some 117 := by
  intro cs more l
  have hc : (withRoom 0).RenewsLive cs :=
    ⟨trivial, trivial, rfl, trivial, trivial, trivial, trivial, trivial, rfl, trivial⟩
  have hmore : l.RenewsLive more := ⟨trivial, trivial, trivial, trivial⟩
  have hspares : l.Spares 2 more := by simp [more, Spares, TakesOut]
  obtain ⟨xs, hrun, -, hshows, hremove, hget⟩ := run_refines 0 cs hc
  obtain rfl : [(2, 17), (3, 9)] = xs := hshows.toList
  exact ⟨hc, hrun, rfl, hshows, (hremove 4 (by decide)).1, hmore, hspares,
    hget more 2 17 hmore hspares rfl⟩

end ReplicatedCache.UseOrder
