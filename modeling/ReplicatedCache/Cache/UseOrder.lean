/-
Entries in the order of their last use, each with a handle that stays the same while it is kept.

They live in slots of an array and are chained by handles. Slot `0` stands in front of the most
recently used entry and slot `1` behind the least recently used one; neither holds an entry. The
slot of a removed entry is used again, the last one freed first.

* `UseOrder.add`: adds an entry as the most recently used one and returns its handle;
* `UseOrder.renew`: makes an entry the most recently used one;
* `UseOrder.remove`, `UseOrder.popOldest`: take an entry out;
* `UseOrder.toList`: handles and entries, most recently used first;
* `UseOrder.toListReversed`: the same chain, walked from the other end.
-/
namespace ReplicatedCache

/-- One place in the chain: its entry, if it holds one, and the handles of its neighbours. -/
structure Slot (α : Type) where
  entry : Option α
  newer : Nat
  older : Nat

/-- Entries ordered by their last use. -/
structure UseOrder (α : Type) where
  slots : Array (Slot α)
  /-- Freed slots, the last one freed first. -/
  free : List Nat
  length : Nat

namespace UseOrder

variable {α : Type}

/-- The slot in front of the most recently used entry. -/
def head : Nat := 0

/-- The slot behind the least recently used entry. -/
def tail : Nat := 1

/-- No entries: only the two end slots, chained to each other. -/
def empty : UseOrder α where
  slots := #[⟨none, head, tail⟩, ⟨none, head, tail⟩]
  free := []
  length := 0

/-- No entries, and room for `room` of them before the array has to grow. -/
def withRoom (room : Nat) : UseOrder α where
  slots := ((Array.emptyWithCapacity (room + 2)).push ⟨none, head, tail⟩).push ⟨none, head, tail⟩
  free := []
  length := 0

/-- Whether no entry is held. -/
def isEmpty (l : UseOrder α) : Bool := l.length == 0

/-- Lets the slot `i` point at `j` on its newer side. -/
def setNewer (slots : Array (Slot α)) (i j : Nat) : Array (Slot α) :=
  slots.modify i fun s => { s with newer := j }

/-- Lets the slot `i` point at `j` on its older side. -/
def setOlder (slots : Array (Slot α)) (i j : Nat) : Array (Slot α) :=
  slots.modify i fun s => { s with older := j }

/-- Chains the neighbours of slot `i` to each other. -/
def unlink (slots : Array (Slot α)) (i : Nat) : Array (Slot α) :=
  match slots[i]? with
  | none => slots
  | some s => setNewer (setOlder slots s.newer s.older) s.older s.newer

/-- Chains slot `i` between the front end and the entry that was first so far. -/
def linkFirst (slots : Array (Slot α)) (i : Nat) : Array (Slot α) :=
  match slots[head]? with
  | none => slots
  | some h =>
      let first := h.older
      let slots := slots.modify i fun s => { s with newer := head, older := first }
      setOlder (setNewer slots first i) head i

/-- The entry with handle `i`. -/
def get? (l : UseOrder α) (i : Nat) : Option α :=
  match l.slots[i]? with
  | some s => s.entry
  | none => none

/-- Changes the entry with handle `i` in place; a handle that names no entry changes nothing. -/
def update (l : UseOrder α) (i : Nat) (f : α → α) : UseOrder α :=
  { l with slots := l.slots.modify i fun s => { s with entry := s.entry.map f } }

/-- Adds `a` as the most recently used entry and returns its handle. -/
def add (l : UseOrder α) (a : α) : Nat × UseOrder α :=
  match l.free with
  | i :: free =>
      let slots := l.slots.modify i fun s => { s with entry := some a }
      (i, { slots := linkFirst slots i, free, length := l.length + 1 })
  | [] =>
      let i := l.slots.size
      let slots := l.slots.push ⟨some a, head, head⟩
      (i, { slots := linkFirst slots i, free := [], length := l.length + 1 })

/-- The handle of the most recently used entry. -/
def newest? (l : UseOrder α) : Option Nat :=
  match l.slots[head]? with
  | some s => if s.older = tail then none else some s.older
  | none => none

/-- The handle of the least recently used entry. -/
def oldest? (l : UseOrder α) : Option Nat :=
  match l.slots[tail]? with
  | some s => if s.newer = head then none else some s.newer
  | none => none

/-- Makes the entry with handle `i` the most recently used one; `i` must name an entry. -/
def renew (l : UseOrder α) (i : Nat) : UseOrder α :=
  if l.newest? = some i then l
  else { l with slots := linkFirst (unlink l.slots i) i }

/-- Takes the entry with handle `i` out; a handle that names no entry changes nothing. -/
def remove (l : UseOrder α) (i : Nat) : Option α × UseOrder α :=
  match l.get? i with
  | none => (none, l)
  | some a =>
      let slots := l.slots.modify i fun s => { s with entry := none }
      (some a, { slots := unlink slots i, free := i :: l.free, length := l.length - 1 })

/-- Takes out the least recently used entry. -/
def popOldest (l : UseOrder α) : Option α × UseOrder α :=
  match l.oldest? with
  | some i => l.remove i
  | none => (none, l)

/-- Forgets all entries and all handles. -/
def clear (l : UseOrder α) : UseOrder α :=
  { slots := setNewer (setOlder (l.slots.take 2) head tail) tail head, free := [], length := 0 }

/-- The chain from slot `i` on towards the older end, at most `fuel` entries of it. -/
def chainFrom (slots : Array (Slot α)) : (fuel : Nat) → (i : Nat) → List (Nat × α)
  | 0, _ => []
  | fuel + 1, i =>
      if i = tail then []
      else match slots[i]? with
        | some ⟨some a, _, older⟩ => (i, a) :: chainFrom slots fuel older
        | _ => []

/-- Handles and entries, most recently used first. -/
def toList (l : UseOrder α) : List (Nat × α) :=
  match l.slots[head]? with
  | some s => chainFrom l.slots l.slots.size s.older
  | none => []

/-- The chain from slot `i` on towards the newer end, at most `fuel` entries of it. -/
def chainBackFrom (slots : Array (Slot α)) : (fuel : Nat) → (i : Nat) → List (Nat × α)
  | 0, _ => []
  | fuel + 1, i =>
      if i = head then []
      else match slots[i]? with
        | some ⟨some a, newer, _⟩ => (i, a) :: chainBackFrom slots fuel newer
        | _ => []

/-- Handles and entries, least recently used first. -/
def toListReversed (l : UseOrder α) : List (Nat × α) :=
  match l.slots[tail]? with
  | some s => chainBackFrom l.slots l.slots.size s.newer
  | none => []

/-- The entries, most recently used first. -/
def entries (l : UseOrder α) : List α :=
  l.toList.map Prod.snd

end UseOrder

end ReplicatedCache
