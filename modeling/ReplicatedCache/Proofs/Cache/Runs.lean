/-
Runs of accesses: whatever is asked of a cache, and whenever, it answers as the plain list does.

* `CacheInterface.Access`, `CacheInterface.Answer`: what a cache can be asked, the passing of time
  included, and what it says;
* `CacheInterface.answers`, `CacheInterface.after`: the answers of a run and the state after it, for
any way to implement a cache;
* `answers_eq_flat`: **refinement**: from the start, the cache and the plain list give the same
  answers.
-/
import ReplicatedCache.Proofs.Cache.Refinement

namespace ReplicatedCache

namespace CacheInterface

/-- What a cache can be asked. -/
inductive Access where
  | put (key value : String)
  | get (key : String)
  | remove (key : String)
  | contains (key : String)
  | keys
  | entries
  | size
  /-- Nothing is asked for so many nanoseconds. -/
  | wait (nanos : Nat)
  deriving DecidableEq, Repr

/-- What a cache answers. -/
inductive Answer where
  | done
  | value (found : Option String)
  | flag (holds : Bool)
  | keys (keys : List String)
  | entries (entries : List (String × String))
  | count (n : Nat)
  deriving DecidableEq, Repr

end CacheInterface

/-- A way to implement a cache with states in `σ`. -/
structure CacheInterface (σ : Type) where
  get : σ → String → Moment → Option String × σ
  put : σ → String → String → Moment → σ
  remove : σ → String → Bool × σ
  contains : σ → String → Bool
  keys : σ → Moment → List String
  entries : σ → Moment → List (String × String)
  size : σ → Nat

namespace CacheInterface

variable {σ τ : Type}

/-- The answer to one access, and the state and the moment after it. -/
def step (m : CacheInterface σ) (s : σ) (now : Moment) : Access → Answer × σ × Moment
  | .put key value => (.done, m.put s key value now, now)
  | .get key => (.value (m.get s key now).1, (m.get s key now).2, now)
  | .remove key => (.flag (m.remove s key).1, (m.remove s key).2, now)
  | .contains key => (.flag (m.contains s key), s, now)
  | .keys => (.keys (m.keys s now), s, now)
  | .entries => (.entries (m.entries s now), s, now)
  | .size => (.count (m.size s), s, now)
  | .wait nanos => (.done, s, now + nanos)

/-- The answers to the accesses of a run, one after the other. -/
def answers (m : CacheInterface σ) : σ → Moment → List Access → List Answer
  | _, _, [] => []
  | s, now, a :: run =>
      (m.step s now a).1 :: m.answers (m.step s now a).2.1 (m.step s now a).2.2 run

/-- The state and the moment after a run. -/
def after (m : CacheInterface σ) : σ → Moment → List Access → σ × Moment
  | s, now, [] => (s, now)
  | s, now, a :: run => m.after (m.step s now a).2.1 (m.step s now a).2.2 run

/-- Two implementations whose related states answer every access alike, and are related after it,
give the same answers on every run. -/
lemma answers_eq_of_step {m : CacheInterface σ} {m' : CacheInterface τ} (related : σ → τ → Prop)
    (hstep : ∀ s t now a, related s t →
      (m.step s now a).1 = (m'.step t now a).1 ∧
      (m.step s now a).2.2 = (m'.step t now a).2.2 ∧
      related (m.step s now a).2.1 (m'.step t now a).2.1)
    {s : σ} {t : τ} (h : related s t) (now : Moment) (run : List Access) :
    m.answers s now run = m'.answers t now run := by
  induction run generalizing s t now with
  | nil => rfl
  | cons a run ih =>
      obtain ⟨hanswer, hnow, hrelated⟩ := hstep s t now a h
      rw [answers, answers, hanswer, hnow, ih hrelated]

end CacheInterface

/-- The cache with its index and its chained slots. -/
def Cache.interface : CacheInterface Cache :=
  ⟨Cache.get, Cache.put, Cache.remove, Cache.contains, Cache.keys, Cache.entries, Cache.size⟩

/-- The cache that is one plain list. -/
def FlatCache.interface : CacheInterface FlatCache where
  get := FlatCache.get
  put := FlatCache.put
  remove := FlatCache.remove
  contains := FlatCache.contains
  keys := FlatCache.keys
  entries := FlatCache.entries
  size := FlatCache.size

namespace Cache

open CacheInterface (Access Answer)

/-- A cache that keeps its invariant and its plain list. -/
def Refines (c : Cache) (f : FlatCache) : Prop := c.IsConsistent ∧ c.flat = f

lemma refines_empty (capacity : Nat) (ttl : Option Nat) :
    (empty capacity ttl).Refines (FlatCache.empty capacity ttl) := by
  refine ⟨⟨[], consistent_empty capacity ttl⟩, ?_⟩
  rw [(consistent_empty capacity ttl).flat_eq, FlatCache.empty]
  have hcapacity : (empty capacity ttl).capacity = if capacity = 0 then 1 else capacity := by
    simp only [empty]
    split <;> omega
  rw [hcapacity]
  rfl

/-- One access: the answer is that of the plain list, and so is the state after it. -/
lemma Refines.step {c : Cache} {f : FlatCache} (h : c.Refines f) (now : Moment) (a : Access) :
    (interface.step c now a).1 = (FlatCache.interface.step f now a).1 ∧
      (interface.step c now a).2.2 = (FlatCache.interface.step f now a).2.2 ∧
      (interface.step c now a).2.1.Refines (FlatCache.interface.step f now a).2.1 := by
  obtain ⟨h, rfl⟩ := h
  cases a with
  | put key value =>
      obtain ⟨hnew, hflat⟩ := h.put key value now
      exact ⟨rfl, rfl, hnew, hflat.symm⟩
  | get key =>
      obtain ⟨hnew, hflat⟩ := h.get key now
      refine ⟨?_, rfl, hnew, ?_⟩
      · show Answer.value (c.get key now).1 = Answer.value (c.flat.get key now).1
        rw [hflat]
      · show (c.get key now).2.flat = (c.flat.get key now).2
        rw [hflat]
  | remove key =>
      obtain ⟨hnew, hflat⟩ := h.remove key
      refine ⟨?_, rfl, hnew, ?_⟩
      · show Answer.flag (c.remove key).1 = Answer.flag (c.flat.remove key).1
        rw [hflat]
      · show (c.remove key).2.flat = (c.flat.remove key).2
        rw [hflat]
  | contains key => exact ⟨congrArg Answer.flag (h.contains_eq key).symm, rfl, h, rfl⟩
  | keys => exact ⟨rfl, rfl, h, rfl⟩
  | entries => exact ⟨rfl, rfl, h, rfl⟩
  | size => exact ⟨congrArg Answer.count h.size_eq.symm, rfl, h, rfl⟩
  | wait nanos => exact ⟨rfl, rfl, h, rfl⟩

/-- One access keeps the invariant. -/
lemma IsConsistent.step {c : Cache} (h : c.IsConsistent) (now : Moment) (a : Access) :
    (interface.step c now a).2.1.IsConsistent :=
  (Refines.step ⟨h, rfl⟩ now a).2.2.1

/-- A run keeps the invariant. -/
lemma IsConsistent.after {c : Cache} (h : c.IsConsistent) (now : Moment) (run : List Access) :
    (interface.after c now run).1.IsConsistent := by
  induction run generalizing c now with
  | nil => exact h
  | cons a run ih => exact ih (h.step now a) _

/-- **Refinement**: a new cache of any capacity and time to live gives on every run, with time
passing in between as it may, the answers of the plain list. -/
theorem answers_eq_flat (capacity : Nat) (ttl : Option Nat) (start : Moment)
    (run : List Access) :
    interface.answers (empty capacity ttl) start run =
      FlatCache.interface.answers (FlatCache.empty capacity ttl) start run :=
  CacheInterface.answers_eq_of_step Refines (fun _ _ now a h => h.step now a)
    (refines_empty capacity ttl) start run

end Cache

end ReplicatedCache
