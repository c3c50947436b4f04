/-
A key that was used recently is found.

* `CacheInterface.Occurrence`, `CacheInterface.history`: the accesses of a run with their answers
  and their moments;
* `Occurrence.uses`, `Occurrence.asks`: a key is put or found; it is put or read, found or not;
* `usedSince`: the keys that are used after the last occurrence of some kind;
* `NeverIdle`: a key is asked for again and again before it can expire;
* `FlatCache.Kept`: **the invariant**: an entry still has its place behind the keys used since its
  own last use, or these keys have filled the capacity;
* `Cache.IsConsistent.kept_step`, `Cache.IsConsistent.kept_after`: an access and a run keep it;
* `Cache.get_of_recentUse`: **a key that was used recently is found**;
* `Cache.get_after_vain_read`: a read in vain is no use.
-/
import Mathlib.Data.Finset.Option
import ReplicatedCache.Proofs.Cache.Survival

namespace ReplicatedCache

/-! ### The history of a run -/

namespace CacheInterface

variable {σ : Type}

/-- An access of a run with the answer to it and its moment. -/
structure Occurrence where
  access : Access
  answer : Answer
  moment : Moment
  deriving DecidableEq, Repr

/-- The accesses of a run, with their answers and moments. -/
def history (m : CacheInterface σ) : σ → Moment → List Access → List Occurrence
  | _, _, [] => []
  | s, now, a :: run =>
      ⟨a, (m.step s now a).1, now⟩ ::
        m.history (m.step s now a).2.1 (m.step s now a).2.2 run

lemma after_append (m : CacheInterface σ) (s : σ) (now : Moment) (run rest : List Access) :
    m.after s now (run ++ rest) =
      m.after (m.after s now run).1 (m.after s now run).2 rest := by
  induction run generalizing s now with
  | nil => rfl
  | cons a run ih => exact ih _ _

/-- The last access of a run is made in the state after the ones before it. -/
lemma history_concat (m : CacheInterface σ) (s : σ) (now : Moment) (run : List Access)
    (a : Access) :
    m.history s now (run ++ [a]) = m.history s now run ++
      [⟨a, (m.step (m.after s now run).1 (m.after s now run).2 a).1, (m.after s now run).2⟩] := by
  induction run generalizing s now with
  | nil => rfl
  | cons b run ih => exact congrArg (_ :: ·) (ih _ _)

/-- Time does not go back. -/
lemma le_step (m : CacheInterface σ) (s : σ) (now : Moment) (a : Access) :
    now ≤ (m.step s now a).2.2 := by
  cases a with
  | wait nanos => exact Nat.le_add_right now nanos
  | _ => exact Nat.le_refl now

namespace Occurrence

/-- The key that is used: one that is put, or found by a read. -/
def usedKey? (o : Occurrence) : Option String :=
  match o.access, o.answer with
  | .put key _, _ => some key
  | .get key, .value (some _) => some key
  | _, _ => none

/-- Whether a key is put, or found by a read. -/
def uses (key : String) (o : Occurrence) : Bool := o.usedKey? = some key

/-- Whether a key is put, or read, found or not. -/
def asks (key : String) (o : Occurrence) : Bool :=
  match o.access with
  | .put key' _ => key' = key
  | .get key' => key' = key
  | _ => false

end Occurrence

end CacheInterface

open CacheInterface (Access Answer Occurrence)

variable {key value : String} {ttl : Option Nat} {history : List Occurrence} {o : Occurrence}

/-- The keys that are used after the last occurrence of some kind, or at all if there is none. -/
def usedSince (last : Occurrence → Bool) (history : List Occurrence) : Finset String :=
  ((history.reverse.takeWhile fun o => !last o).filterMap Occurrence.usedKey?).toFinset

lemma usedSince_concat (last : Occurrence → Bool) (history : List Occurrence) (o : Occurrence) :
    usedSince last (history ++ [o]) =
      if last o then ∅ else o.usedKey?.toFinset ∪ usedSince last history := by
  rw [usedSince, List.reverse_concat']
  cases hlast : last o with
  | true => simp [hlast]
  | false =>
      rw [List.takeWhile_cons_of_pos (by simp [hlast]), List.filterMap_cons, usedSince]
      cases o.usedKey? with
      | none => simp
      | some key => simp

section Uses

variable {other : String}

/-- A use of the key itself. -/
lemma usedSince_self (huse : o.usedKey? = some key) :
    usedSince (Occurrence.uses key) (history ++ [o]) = ∅ := by
  have huses : o.uses key = true := decide_eq_true huse
  rw [usedSince_concat, if_pos huses]

/-- A use of another key. -/
lemma usedSince_other (huse : o.usedKey? = some other) (hne : other ≠ key) :
    usedSince (Occurrence.uses key) (history ++ [o]) =
      insert other (usedSince (Occurrence.uses key) history) := by
  have huses : o.uses key = false := by simp [Occurrence.uses, huse, hne]
  rw [usedSince_concat, huses, if_neg (by simp), huse, Option.toFinset_some, Finset.insert_eq]

/-- No use. -/
lemma usedSince_none (huse : o.usedKey? = none) :
    usedSince (Occurrence.uses key) (history ++ [o]) =
      usedSince (Occurrence.uses key) history := by
  have huses : o.uses key = false := by simp [Occurrence.uses, huse]
  rw [usedSince_concat, huses, if_neg (by simp), huse, Option.toFinset_none, Finset.empty_union]

/-- A read of a key, which is a use of it if it finds something. -/
lemma usedSince_get (other : String) (found : Option String) (now : Moment) :
    usedSince (Occurrence.uses key) (history ++ [⟨.get other, .value found, now⟩]) =
      if found.isSome then
        if other = key then ∅ else insert other (usedSince (Occurrence.uses key) history)
      else usedSince (Occurrence.uses key) history := by
  cases found with
  | none => exact usedSince_none rfl
  | some value =>
      rw [Option.isSome_some, if_pos rfl]
      split
      next heq => exact usedSince_self (congrArg some heq)
      next hne => exact usedSince_other rfl hne

end Uses

/-- The moments when a key is put or read. -/
def askedAt (key : String) (history : List Occurrence) : List Moment :=
  (history.filter (Occurrence.asks key)).map Occurrence.moment

lemma askedAt_concat (key : String) (history : List Occurrence) (o : Occurrence) :
    askedAt key (history ++ [o]) =
      askedAt key history ++ if o.asks key then [o.moment] else [] := by
  rw [askedAt, List.filter_append, List.map_append, askedAt]
  cases hasks : o.asks key with
  | true => simp [hasks]
  | false => simp [hasks]

/-- From one put or read of a key to the next, and from the last one until now, no more time
passes than the time to live. -/
def NeverIdle (key : String) (ttl : Option Nat) (history : List Occurrence) (now : Moment) : Prop :=
  (askedAt key history ++ [now]).IsChain fun s t => ∀ limit ∈ ttl, t - s ≤ limit

instance (key : String) (ttl : Option Nat) (history : List Occurrence) (now : Moment) :
    Decidable (NeverIdle key ttl history now) :=
  inferInstanceAs (Decidable (List.IsChain _ _))

namespace NeverIdle

/-- What holds at the end of a run has held before its last access. -/
lemma of_concat {later : Moment} (h : NeverIdle key ttl (history ++ [o]) later)
    (hlater : o.moment ≤ later) : NeverIdle key ttl history o.moment := by
  rw [NeverIdle, askedAt_concat] at h
  cases hasks : o.asks key with
  | true =>
      rw [hasks, if_pos rfl] at h
      exact h.left_of_append
  | false =>
      rw [hasks, if_neg (by simp), List.append_nil, List.isChain_append] at h
      obtain ⟨hasked, -, hlast⟩ := h
      refine List.isChain_append.mpr ⟨hasked, List.isChain_singleton _, ?_⟩
      rintro s hs t ⟨⟩ limit hlimit
      exact (Nat.sub_le_sub_right hlater s).trans (hlast s hs later rfl limit hlimit)

/-- The entry that was stamped last is not expired. -/
lemma live {now t : Moment} (h : NeverIdle key ttl history now)
    (ht : (askedAt key history).getLast? = some t) :
    (Entry.mk key value t).expired ttl now = false := by
  cases ttl with
  | none => rfl
  | some limit =>
      obtain ⟨-, -, hlast⟩ := List.isChain_append.mp h
      exact decide_eq_false (hlast t ht now rfl limit rfl).not_gt

end NeverIdle

/-! ### The place of an entry -/

namespace FlatCache

/-- **The invariant**: an entry stands behind some of the given keys, or it is gone and these keys
have filled the capacity. -/
def Kept (es : List Entry) (capacity : Nat) (e : Entry) (keys : Finset String) : Prop :=
  Behind es e keys ∨ e.key ∉ es.map Entry.key ∧ capacity ≤ keys.card

namespace Kept

variable {c : FlatCache} {e : Entry} {keys : Finset String} {now : Moment}
  (h : Kept c.order c.capacity e keys) (hd : (c.order.map Entry.key).Nodup)

include h hd in
/-- **A put** of another key adds that key to those in front. -/
lemma put (hkey : key ≠ e.key) (value : String) (now : Moment) :
    Kept (c.put key value now).order c.capacity e (insert key keys) := by
  rcases h with hbehind | ⟨hgone, hfull⟩
  · exact hbehind.put hd hkey value now
  · refine .inr ⟨fun hm => ?_, hfull.trans (Finset.card_le_card (Finset.subset_insert key keys))⟩
    obtain ⟨f, hf, hfkey⟩ := List.mem_map.mp hm
    rcases mem_put hf with rfl | ⟨hf, -⟩
    · exact hkey hfkey
    · exact hgone (hfkey ▸ List.mem_map_of_mem hf)

include h in
/-- **A read** of another key adds that key if it finds it. -/
lemma get_other (hkey : key ≠ e.key) (now : Moment) :
    Kept (c.get key now).2.order c.capacity e
      (if (c.get key now).1.isSome then insert key keys else keys) := by
  rcases h with hbehind | ⟨hgone, hfull⟩
  · have hdropped := hbehind.dropExpired hkey now
    rw [FlatCache.get]
    split
    · exact .inl ((hdropped.without hkey).cons _)
    · exact .inl hdropped
  · refine .inr ⟨fun hm => ?_, ?_⟩
    · obtain ⟨f, hf, hfkey⟩ := List.mem_map.mp hm
      obtain ⟨f', hf', hfkey', -⟩ := (mem_get c key now).1 f hf
      exact hgone (hfkey ▸ hfkey' ▸ List.mem_map_of_mem hf')
    · split
      · exact hfull.trans (Finset.card_le_card (Finset.subset_insert key keys))
      · exact hfull

include h hd in
/-- **A read** of the entry itself brings it to the front if it finds it. -/
lemma get_self (hlive : e.expired c.ttl now = false) :
    Kept (c.get e.key now).2.order c.capacity (e.touch now)
      (if (c.get e.key now).1.isSome then ∅ else keys) := by
  obtain ⟨order, capacity, ttl⟩ := c
  rcases h with ⟨us, vs, rfl, -⟩ | ⟨hgone, hfull⟩
  · rw [get_live hd hlive]
    exact .inl (Behind.front _ _)
  · rw [get_absent hgone]
    exact .inr ⟨hgone, hfull⟩

include h in
/-- **A removal** of another key. -/
lemma remove (hkey : key ≠ e.key) : Kept (c.remove key).2.order c.capacity e keys := by
  rcases h with hbehind | ⟨hgone, hfull⟩
  · exact .inl (hbehind.without hkey)
  · refine .inr ⟨fun hm => hgone ?_, hfull⟩
    exact ((without_sublist c.order key).map Entry.key).subset hm

end Kept

end FlatCache

/-! ### Runs of the cache -/

namespace Cache

open FlatCache (Behind Kept)

/-- **The invariant of a run**: an entry with this key and value, stamped when the key was last asked
for, has its place behind the keys that are used since its own last use. -/
def Remembers (c : Cache) (key value : String) (history : List Occurrence) : Prop :=
  ∃ t, (askedAt key history).getLast? = some t ∧
    Kept c.order.entries c.capacity ⟨key, value, t⟩ (usedSince (Occurrence.uses key) history)

variable {c : Cache} {now : Moment} {a : Access}

/-- **One access** that neither puts nor removes the key, and at which the entry is not expired. -/
lemma IsConsistent.kept_step (hc : c.IsConsistent) {t : Moment}
    (h : Kept c.order.entries c.capacity ⟨key, value, t⟩ (usedSince (Occurrence.uses key) history))
    (hlive : (Entry.mk key value t).expired c.ttl now = false) (hremove : a ≠ .remove key)
    (hput : ∀ value, a ≠ .put key value) (ho : o = ⟨a, (interface.step c now a).1, now⟩) :
    Kept (interface.step c now a).2.1.order.entries c.capacity
      ⟨key, value, if o.asks key then now else t⟩
      (usedSince (Occurrence.uses key) (history ++ [o])) := by
  have hd := hc.keys_nodup
  cases a with
  | put other value' =>
      have hother : other ≠ key := fun heq => hput value' (heq ▸ rfl)
      have hasks : o.asks key = false := by rw [ho]; exact decide_eq_false hother
      have huse : o.usedKey? = some other := by rw [ho]; rfl
      have hkept := Kept.put (c := c.flat) h hd hother value' now
      rw [(hc.put other value' now).2] at hkept
      rw [hasks, usedSince_other huse hother]
      exact hkept
  | get other =>
      have ho : o = ⟨.get other, .value (c.get other now).1, now⟩ := ho
      have hasks : o.asks key = decide (other = key) := by rw [ho]; rfl
      rw [hasks, ho, usedSince_get]
      by_cases hother : other = key
      · obtain rfl := hother
        have hkept : Kept (c.flat.get other now).2.order c.capacity ⟨other, value, now⟩ _ :=
          Kept.get_self (c := c.flat) h hd hlive
        rw [(hc.get other now).2] at hkept
        rw [decide_eq_true rfl, if_pos rfl, if_pos rfl]
        exact hkept
      · have hkept := Kept.get_other (c := c.flat) h hother now
        rw [(hc.get other now).2] at hkept
        rw [decide_eq_false hother, if_neg hother]
        exact hkept
  | remove other =>
      have hother : other ≠ key := fun heq => hremove (heq ▸ rfl)
      have hkept := Kept.remove (c := c.flat) h hother
      rw [(hc.remove other).2] at hkept
      obtain rfl := ho
      rw [usedSince_none rfl]
      exact hkept
  | contains other | keys | entries | size | wait nanos =>
      obtain rfl := ho
      rw [usedSince_none rfl]
      exact h

/-- **One access** keeps the invariant, if it neither puts nor removes the key. -/
lemma Remembers.step (h : c.Remembers key value history) (hc : c.IsConsistent)
    (hidle : NeverIdle key c.ttl history now) (hremove : a ≠ .remove key)
    (hput : ∀ value, a ≠ .put key value) :
    (interface.step c now a).2.1.Remembers key value
      (history ++ [⟨a, (interface.step c now a).1, now⟩]) := by
  obtain ⟨t, ht, hkept⟩ := h
  have hstep := hc.kept_step hkept (hidle.live ht) hremove hput rfl
  rw [← (hc.settings_step now a).1] at hstep
  refine ⟨_, ?_, hstep⟩
  rw [askedAt_concat]
  split
  next => exact List.getLast?_concat
  next => rwa [List.append_nil]

/-- What is put is remembered. -/
lemma IsConsistent.remembers_put (hc : c.IsConsistent) (key value : String) (now : Moment) :
    (c.put key value now).Remembers key value [⟨.put key value, .done, now⟩] := by
  have hfront := Behind.put_self c.flat key value now
  rw [(hc.put key value now).2] at hfront
  have hself : usedSince (Occurrence.uses key) ([] ++ [⟨.put key value, .done, now⟩]) = ∅ :=
    usedSince_self rfl
  refine ⟨now, ?_, ?_⟩
  · simp [askedAt, Occurrence.asks]
  · rw [← List.nil_append [_], hself]
    exact .inl hfront

/-- **A run** that starts with a put remembers it, as long as its key is neither put again nor
removed and is never idle for too long. -/
lemma IsConsistent.remembers_after (hc : c.IsConsistent) {run : List Access}
    (hremove : ∀ a ∈ run, a ≠ .remove key) (hput : ∀ a ∈ run, ∀ value, a ≠ .put key value)
    (hidle : NeverIdle key c.ttl (interface.history c now (.put key value :: run))
      (interface.after c now (.put key value :: run)).2) :
    (interface.after c now (.put key value :: run)).1.Remembers key value
      (interface.history c now (.put key value :: run)) := by
  induction run using List.reverseRecOn with
  | nil => exact hc.remembers_put key value now
  | append_singleton run a ih =>
      have hrun : Access.put key value :: (run ++ [a]) = (.put key value :: run) ++ [a] := rfl
      rw [hrun, CacheInterface.history_concat, CacheInterface.after_append] at hidle ⊢
      have hbefore := hidle.of_concat (CacheInterface.le_step _ _ _ _)
      have hlast : a ∈ run ++ [a] := List.mem_append_right _ List.mem_cons_self
      have hrest := ih (fun b hb => hremove b (List.mem_append_left _ hb))
        (fun b hb => hput b (List.mem_append_left _ hb)) hbefore
      refine hrest.step (hc.after now _) ?_ (hremove a hlast) (hput a hlast)
      rwa [(hc.settings_after now _).2]

/-- **A key that was used recently is found**: on a run of a new cache, of any capacity and with
any time to live, let a value be put for a key that is neither put again nor removed after it. If
the key is asked for again and again before it can expire, and fewer other keys than the capacity
are used since its own last use, then a read of it finds the value. -/
theorem get_of_recentUse (capacity : Nat) (ttl : Option Nat) (start : Moment)
    (before after : List Access) (key value : String)
    (hremove : ∀ a ∈ after, a ≠ .remove key)
    (hput : ∀ a ∈ after, ∀ value, a ≠ .put key value) :
    let state := interface.after (empty capacity ttl) start before
    let since := interface.history state.1 state.2 (.put key value :: after)
    let last := interface.after (empty capacity ttl) start (before ++ .put key value :: after)
    NeverIdle key ttl since last.2 →
      (usedSince (Occurrence.uses key) since).card < max capacity 1 →
        (last.1.get key last.2).1 = some value := by
  intro state since last hidle hfew
  have hempty : (empty capacity ttl).IsConsistent := ⟨[], consistent_empty capacity ttl⟩
  have hbefore : state.1.IsConsistent := hempty.after start before
  obtain ⟨hcapacity, httl⟩ : state.1.capacity = max capacity 1 ∧ state.1.ttl = ttl :=
    hempty.settings_after start before
  have hlast : last = interface.after state.1 state.2 (.put key value :: after) :=
    CacheInterface.after_append _ _ _ _ _
  obtain ⟨hcapacity', httl'⟩ := hbefore.settings_after state.2 (.put key value :: after)
  rw [hlast] at hidle ⊢
  obtain ⟨t, ht, hkept⟩ := hbefore.remembers_after hremove hput (by rwa [httl])
  have hlive : (Entry.mk key value t).expired ttl _ = false := hidle.live ht
  rcases hkept with hbehind | ⟨-, hfull⟩
  · refine get_of_mem (hbefore.after _ _) hbehind.mem ?_
    rw [httl', httl]
    exact hlive
  · rw [hcapacity', hcapacity] at hfull
    exact absurd hfull hfew.not_ge

/-- A key is read in time, and another one takes the free place after that. -/
theorem get_of_recentUse_read_in_time :
    let before : List Access := [.put "k" "old", .put "a" "1"]
    let after : List Access := [.put "b" "2", .wait 4, .get "k", .get "c", .put "d" "3", .wait 5]
    let last := interface.after (empty 2 (some 5)) 0 (before ++ .put "k" "new" :: after)
    (last.1.get "k" last.2).1 = some "new" :=
  get_of_recentUse 2 (some 5) 0 [.put "k" "old", .put "a" "1"]
    [.put "b" "2", .wait 4, .get "k", .get "c", .put "d" "3", .wait 5] "k" "new" (by decide)
    (by simp) (by decide) (by decide)

/-- **A read in vain is no use**: the only place goes to another key, and a read of the first key
that finds nothing does not bring it back, although no other key is used after that read. -/
theorem get_after_vain_read :
    let after : List Access := [.put "a" "1", .get "k"]
    let since := interface.history (empty 1 none) 0 (.put "k" "v" :: after)
    let last := interface.after (empty 1 none) 0 (.put "k" "v" :: after)
    (∀ a ∈ after, a ≠ .remove "k" ∧ ∀ value, a ≠ .put "k" value) ∧
      NeverIdle "k" none since last.2 ∧
      (usedSince (Occurrence.asks "k") since).card < max 1 1 ∧
      (last.1.get "k" last.2).1 ≠ some "v" := by
  intro after since last
  refine ⟨by simp [after], by decide, by decide, by decide⟩

end Cache

end ReplicatedCache
