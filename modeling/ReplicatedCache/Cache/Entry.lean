/-
One entry of the cache and the rule by which it expires:

* `Entry`: a key, its value and the moment of its last use;
* `Entry.idle`: the time since then;
* `Entry.expired`: whether that time exceeds a limit.

Moments and durations are in nanoseconds of a clock that never goes back.
-/
namespace ReplicatedCache

/-- A moment of the monotonic clock, in nanoseconds. -/
abbrev Moment := Nat

/-- A key with its value and the moment of its last read or write. -/
structure Entry where
  key : String
  value : String
  lastAccess : Moment
  deriving DecidableEq, Repr

namespace Entry

/-- The entry as used at `now`. -/
def touch (e : Entry) (now : Moment) : Entry := { e with lastAccess := now }

/-- The time since the last use. -/
def idle (e : Entry) (now : Moment) : Nat := now - e.lastAccess

/-- Whether the entry has been idle for longer than `limit`; without a limit it never is, and
at the limit it is not yet. -/
def expired (e : Entry) (limit : Option Nat) (now : Moment) : Bool :=
  match limit with
  | some ttl => decide (ttl < e.idle now)
  | none => false

end Entry

end ReplicatedCache
