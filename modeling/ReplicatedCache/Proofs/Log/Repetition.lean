/-
Replaying a log into a cache that holds something already, and replaying it again. Nothing expires
in these caches.

The warm cache holds what a cold one would hold, and behind it a first part of its old contents. As
long as any of these are left, only they have to make room: the cold cache still has places free.

* `Contents.untouched`: the contents under keys that no operation names;
* `Contents.put_beside`: a put that leaves alone what is behind the contents;
* `Contents.put_append`, `Contents.apply_append`: **one operation** on contents with others behind
  them;
* `Contents.applyAll_behind`: **several operations**; what they leave behind stays if they are
  applied again;
* `Contents.applyAll_twice`: on no contents, several operations do the same as twice in a row;
* `Log.replay_into`: **replaying into old contents**;
* `Log.replay_twice_drops`: the second replay may drop an old entry that the first one left.
-/
import ReplicatedCache.Proofs.Cache.Expiry
import ReplicatedCache.Proofs.Log.Meaning

namespace ReplicatedCache

namespace Contents

/-- The contents under keys that no operation names. -/
def untouched (ps : Contents) (ops : List Operation) : Contents :=
  ps.filter fun p => ∀ op ∈ ops, op.key ≠ p.1

variable {capacity : Nat} {ps qs kept : Contents} {ops : List Operation} {op : Operation}
  {key value : String}

lemma length_without_lt (h : key ∈ ps.map Prod.fst) : (ps.without key).length < ps.length := by
  obtain ⟨p, hp, rfl⟩ := List.mem_map.mp h
  exact List.length_filter_lt_length_iff_exists.mpr ⟨p, hp, by simp⟩

lemma without_of_not_mem (h : key ∉ ps.map Prod.fst) : ps.without key = ps := by
  rw [without, List.filter_eq_self]
  intro p hp
  simp only [ne_eq, decide_eq_true_eq]
  exact fun hk => h (hk ▸ List.mem_map_of_mem hp)

lemma not_mem_keys_without (ps : Contents) (key : String) :
    key ∉ (ps.without key).map Prod.fst := by
  intro h
  obtain ⟨p, hp, hk⟩ := List.mem_map.mp h
  exact absurd hk (by simpa using (List.mem_filter.mp hp).2)

lemma without_append (ps qs : Contents) (key : String) :
    (ps ++ qs).without key = ps.without key ++ qs.without key :=
  List.filter_append _ _

lemma untouched_cons (ps : Contents) (op : Operation) (ops : List Operation) :
    (ps.without op.key).untouched ops = ps.untouched (op :: ops) := by
  rw [untouched, without, untouched, List.filter_filter]
  refine List.filter_congr fun p _ => ?_
  have hkey : p.1 ≠ op.key ↔ op.key ≠ p.1 := ne_comm
  simp only [List.forall_mem_cons, hkey, Bool.decide_and, Bool.and_comm]

/-- No operation makes the contents larger than the capacity. -/
lemma length_apply_le (hpos : 0 < capacity) (h : ps.length ≤ capacity) (op : Operation) :
    (ps.apply capacity op).length ≤ capacity := by
  cases op with
  | put key value =>
      rw [apply, put]
      split
      next hkey =>
          have hlt := length_without_lt hkey
          rw [List.length_cons]
          omega
      next =>
          split
          · rw [List.length_cons, List.length_dropLast]
            omega
          · rw [List.length_cons]
            omega
  | delete key => exact (List.length_filter_le _ _).trans h

/-! ### One operation on contents with others behind them -/

/-- **A put leaves alone what is behind the contents**, if that does not have the key, and if the key
is no new one, or nothing is behind, or there is a free place. -/
lemma put_beside (hkey : key ∉ qs.map Prod.fst)
    (hroom : key ∈ ps.map Prod.fst ∨ qs = [] ∨ (ps ++ qs).length < capacity) :
    (ps ++ qs).put capacity key value = ps.put capacity key value ++ qs := by
  by_cases hps : key ∈ ps.map Prod.fst
  · have hboth : key ∈ (ps ++ qs).map Prod.fst := by
      rw [List.map_append]
      exact List.mem_append_left _ hps
    rw [put, put, if_pos hps, if_pos hboth, without_append, without_of_not_mem hkey]
    rfl
  · have hboth : key ∉ (ps ++ qs).map Prod.fst := by
      rw [List.map_append, List.mem_append]
      exact fun h => h.elim hps hkey
    rcases hroom.resolve_left hps with rfl | hfree
    · rw [List.append_nil, List.append_nil]
    · have hlength : ps.length ≤ (ps ++ qs).length := by
        rw [List.length_append]
        omega
      rw [put, put, if_neg hps, if_neg hboth, if_neg (by omega), if_neg (by omega)]
      rfl

/-- **A put** does to the contents what it would do without others behind them. Of these it leaves a
first part, without the key; and where it leaves any and had to add the key, there is a place free
for it if they are behind the same contents again. -/
lemma put_append (h : (ps ++ qs).length ≤ capacity) (key value : String) :
    ∃ kept, kept <+: qs.without key ∧
      (ps ++ qs).put capacity key value = ps.put capacity key value ++ kept ∧
      (key ∈ ps.map Prod.fst ∨ kept = [] ∨ (ps ++ kept).length < capacity) := by
  have hwithout := not_mem_keys_without qs key
  by_cases hps : key ∈ ps.map Prod.fst
  · have hboth : key ∈ (ps ++ qs).map Prod.fst := by
      rw [List.map_append]
      exact List.mem_append_left _ hps
    refine ⟨qs.without key, List.prefix_rfl, ?_, .inl hps⟩
    rw [put, put, if_pos hps, if_pos hboth, without_append]
    rfl
  rw [List.length_append] at h
  by_cases hqs : key ∈ qs.map Prod.fst
  · -- the key moves to the front, and its place behind the contents is free
    have hlt := length_without_lt hqs
    have hboth : key ∈ (ps ++ qs).map Prod.fst := by
      rw [List.map_append]
      exact List.mem_append_right _ hqs
    refine ⟨qs.without key, List.prefix_rfl, ?_, .inr (.inr ?_)⟩
    · rw [put, put, if_neg hps, if_pos hboth, without_append, without_of_not_mem hps,
        if_neg (by omega)]
      rfl
    · rw [List.length_append]
      omega
  by_cases hfull : qs = [] ∨ (ps ++ qs).length < capacity
  · exact ⟨qs, (without_of_not_mem hqs).symm ▸ List.prefix_rfl, put_beside hqs (.inr hfull),
      .inr hfull⟩
  · -- the last entry makes room, and it is one of those behind the contents
    obtain ⟨hne, hle⟩ := not_or.mp hfull
    have hboth : key ∉ (ps ++ qs).map Prod.fst := by
      rw [List.map_append, List.mem_append]
      exact fun h => h.elim hps hqs
    have hpos := List.length_pos_iff.mpr hne
    rw [List.length_append] at hle
    refine ⟨qs.dropLast, ?_, ?_, .inr (.inr ?_)⟩
    · rw [without_of_not_mem hqs]
      exact List.dropLast_prefix qs
    · rw [put, put, if_neg hps, if_neg hboth, List.length_append, if_pos (Nat.le_of_not_lt hle),
        if_neg (by omega), List.dropLast_append_of_ne_nil hne]
      rfl
    · rw [List.length_append, List.length_dropLast]
      omega

/-- **One operation** does to the contents what it would do without others behind them. Of these it
leaves a first part, without its key, and of any part of that it would leave everything. -/
lemma apply_append (h : (ps ++ qs).length ≤ capacity) (op : Operation) :
    ∃ kept, kept <+: qs.without op.key ∧
      (ps ++ qs).apply capacity op = ps.apply capacity op ++ kept ∧
      ∀ rest, rest.Sublist kept →
        (ps ++ rest).apply capacity op = ps.apply capacity op ++ rest := by
  have hwithout := not_mem_keys_without qs op.key
  cases op with
  | put key value =>
      obtain ⟨kept, hkept, hput, hroom⟩ := put_append h key value
      refine ⟨kept, hkept, hput, fun rest hrest => put_beside (fun hkey => hwithout ?_) ?_⟩
      · exact ((hrest.trans hkept.sublist).map Prod.fst).subset hkey
      · refine hroom.imp_right (Or.imp ?_ ?_)
        · rintro rfl
          exact List.sublist_nil.mp hrest
        · intro hlt
          have hle := hrest.length_le
          rw [List.length_append] at hlt ⊢
          omega
  | delete key =>
      refine ⟨qs.without key, List.prefix_rfl, without_append ps qs key, fun rest hrest => ?_⟩
      have hkey : key ∉ rest.map Prod.fst := fun hkey => hwithout ((hrest.map _).subset hkey)
      rw [apply, apply, without_append, without_of_not_mem hkey]

/-! ### Several operations -/

/-- **Several operations** do to the contents what they would do without others behind them. Of these
they leave a first part of those under untouched keys, and of this part they would leave
everything. -/
lemma applyAll_behind (hpos : 0 < capacity) (h : (ps ++ qs).length ≤ capacity)
    (ops : List Operation) :
    ∃ kept, kept <+: qs.untouched ops ∧
      (ps ++ qs).applyAll capacity ops = ps.applyAll capacity ops ++ kept ∧
      (ps ++ kept).applyAll capacity ops = ps.applyAll capacity ops ++ kept := by
  induction ops generalizing ps qs with
  | nil => exact ⟨qs, by simp [untouched], rfl, rfl⟩
  | cons op ops ih =>
      obtain ⟨first, hfirst, happly, hagain⟩ := apply_append h op
      have hlength := length_apply_le hpos h op
      rw [happly] at hlength
      obtain ⟨kept, hkept, hall, hstays⟩ := ih hlength
      have huntouched : untouched first ops <+: qs.untouched (op :: ops) := by
        rw [← untouched_cons]
        exact hfirst.filter _
      have hpart : kept.Sublist first := hkept.sublist.trans List.filter_sublist
      refine ⟨kept, hkept.trans huntouched, ?_, ?_⟩
      · rw [applyAll, List.foldl_cons, happly]
        exact hall
      · rw [applyAll, List.foldl_cons, hagain kept hpart]
        exact hstays

/-- An operation adds nothing but its own key. -/
lemma mem_apply {p : String × String} (hp : p ∈ ps.apply capacity op) : p ∈ ps ∨ op.key = p.1 := by
  cases op with
  | put key value =>
      rw [apply, put] at hp
      split at hp
      · rcases List.mem_cons.mp hp with rfl | hp
        · exact .inr rfl
        · exact .inl (List.mem_of_mem_filter hp)
      · rcases List.mem_cons.mp hp with rfl | hp
        · exact .inr rfl
        · split at hp
          · exact .inl ((List.dropLast_subset ps) hp)
          · exact .inl hp
  | delete key => exact .inl (List.mem_of_mem_filter hp)

/-- Several operations add nothing but their own keys. -/
lemma mem_applyAll {p : String × String} (hp : p ∈ ps.applyAll capacity ops) :
    p ∈ ps ∨ ∃ op ∈ ops, op.key = p.1 := by
  induction ops generalizing ps with
  | nil => exact .inl hp
  | cons op ops ih =>
      rcases ih hp with hp | ⟨op', hop', hkey⟩
      · exact (mem_apply hp).imp_right fun hkey => ⟨op, List.mem_cons_self, hkey⟩
      · exact .inr ⟨op', List.mem_cons_of_mem _ hop', hkey⟩

/-- **On no contents**, several operations do the same as twice in a row: all that they have left
there the first time is under keys that they name. -/
lemma applyAll_twice (hpos : 0 < capacity)
    (hlength : (applyAll capacity [] ops).length ≤ capacity) :
    applyAll capacity (applyAll capacity [] ops) ops = applyAll capacity [] ops := by
  have hbehind : ([] ++ applyAll capacity [] ops).length ≤ capacity := hlength
  obtain ⟨kept, hkept, htwice, -⟩ := applyAll_behind hpos hbehind ops
  have hnone : untouched (applyAll capacity [] ops) ops = [] := by
    rw [untouched, List.filter_eq_nil_iff]
    intro p hp
    obtain ⟨op, hop, hkey⟩ := (mem_applyAll hp).resolve_left (List.not_mem_nil)
    simpa using ⟨op, hop, hkey⟩
  rw [hnone] at hkept
  obtain rfl : kept = [] := List.prefix_nil.mp hkept
  rwa [List.append_nil] at htwice

end Contents

/-- The contents of a cache have their place in it. -/
lemma Cache.Stores.length_le {c : Cache} {capacity : Nat} {ps : Contents}
    (h : c.Stores capacity ps) : ps.length ≤ capacity := by
  rw [← h.contents_eq, ← h.capacity_eq, FlatCache.pairs, List.length_map]
  exact h.consistent.length_le

namespace Log

open Contents (applyAll_behind applyAll_twice)

variable {c : Cache} {capacity : Nat} {old : Contents}

/-- **Replaying into old contents**: let a cache in which nothing expires hold some old contents, and
let a cold one with the same capacity be empty. A log is replayed into both, again and again, at any
moments.

* After the first replay, the entries of the warm cache are those of the cold one and, behind them, a
  first part of the old ones under keys that no record of the log names.
* The second replay leaves a first part of that part, and the third one changes nothing more.
* In the cold cache, the second replay changes nothing. -/
theorem replay_into (log : Bytes) (h : c.Stores (max capacity 1) old) (now now' now'' t : Moment) :
    let cold := (replay log (Cache.empty capacity none) now).2
    let once := (replay log c now).2
    let twice := (replay log once now').2
    (∃ kept kept' : Contents,
      once.entries t = cold.entries t ++ kept ∧ kept <+: old.untouched (records log) ∧
      twice.entries t = cold.entries t ++ kept' ∧ kept' <+: kept) ∧
    (replay log twice now'').2.entries t = twice.entries t ∧
    (replay log cold now').2.entries t = cold.entries t := by
  intro cold once twice
  have hpos : 0 < max capacity 1 := by omega
  have hcold := stores_replay (Cache.stores_empty capacity) log now
  have honce := stores_replay h log now
  have htwice := stores_replay honce log now'
  have hthrice := stores_replay htwice log now''
  have hcoldTwice := stores_replay hcold log now'
  -- what the log makes of nothing stays as it is
  have hstill := applyAll_twice hpos hcold.length_le
  have hbehind : ([] ++ old).length ≤ max capacity 1 := h.length_le
  obtain ⟨kept, hkept, hold, -⟩ := applyAll_behind hpos hbehind (records log)
  rw [List.nil_append] at hold
  rw [hold] at honce htwice hthrice
  obtain ⟨kept', hkept', hagain, hstays⟩ := applyAll_behind hpos honce.length_le (records log)
  rw [hstill] at hagain hstays hcoldTwice
  rw [hagain] at htwice hthrice
  rw [hstays] at hthrice
  have huntouched : Contents.untouched kept (records log) = kept := by
    rw [Contents.untouched, List.filter_eq_self]
    exact fun p hp => (List.mem_filter.mp (hkept.subset hp)).2
  rw [huntouched] at hkept'
  rw [honce.entries_eq t, htwice.entries_eq t, hthrice.entries_eq t, hcold.entries_eq t,
    hcoldTwice.entries_eq t]
  exact ⟨⟨kept, kept', rfl, hkept, rfl, hkept'⟩, rfl, rfl⟩

/-- An old entry under a key that the log puts, and two others, one of which is gone after the second
replay. -/
theorem replay_into_old_entries :
    let log := Utf8.encode "PUT,a,1\nDEL,a\nrubbish\nPUT,b,2\n"
    let old := [("y", "1"), ("x", "0"), ("b", "old")]
    let c := (Cache.empty 3 none).applyAll [.put "b" "old", .put "x" "0", .put "y" "1"] 0
    let once := (replay log c 1).2
    let twice := (replay log once 2).2
    c.Stores (max 3 1) old ∧
      (∃ kept kept' : Contents, once.entries 4 = ("b", "2") :: kept ∧
        kept <+: [("y", "1"), ("x", "0")] ∧ twice.entries 4 = ("b", "2") :: kept' ∧
        kept' <+: kept) ∧
      once.entries 4 = [("b", "2"), ("y", "1"), ("x", "0")] ∧
      (replay log twice 3).2.entries 4 = twice.entries 4 ∧
      twice.entries 4 = [("b", "2"), ("y", "1")] := by
  intro log old c once twice
  have hstores : c.Stores (max 3 1) old :=
    (Cache.stores_empty 3).applyAll [.put "b" "old", .put "x" "0", .put "y" "1"] 0
  have hcold : (replay log (Cache.empty 3 none) 1).2.entries 4 = [("b", "2")] := by decide
  have huntouched : Contents.untouched old (records log) = [("y", "1"), ("x", "0")] := by decide
  obtain ⟨hkept, hthrice, -⟩ := replay_into log hstores 1 2 3 4
  rw [hcold, huntouched] at hkept
  exact ⟨hstores, hkept, by decide, hthrice, by decide⟩

/-- **The second replay may drop what the first one left**: where there is room for two, an old entry
stays behind the last put of a log the first time, and the second time makes room for a key that the
log puts and deletes while the entry of its last put is still there. -/
theorem replay_twice_drops :
    let log := Utf8.encode "PUT,a,1\nDEL,a\nPUT,b,2\n"
    let c := (Cache.empty 2 none).put "x" "0" 0
    let once := (replay log c 0).2
    let twice := (replay log once 0).2
    c.Stores 2 [("x", "0")] ∧ once.entries 0 = [("b", "2"), ("x", "0")] ∧
      twice.entries 0 = [("b", "2")] ∧ twice.entries 0 ≠ once.entries 0 := by
  intro log c once twice
  have hstores : c.Stores 2 [("x", "0")] := (Cache.stores_empty 2).apply (.put "x" "0") 0
  exact ⟨hstores, by decide, by decide, by decide⟩

end Log

end ReplicatedCache
