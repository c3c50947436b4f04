/-
A mutation of the cache, in the one form in which it is logged, queued for replication and
sent to replicas:

* `Operation`: a put of a key and a value, or a delete of a key;
* `Operation.Kind`: which of the two it is, under the name it bears in messages;
* `Operation.summary`: the short form used in diagnostics, which leaves the value out.
-/
namespace ReplicatedCache

/-- A change of one key. -/
inductive Operation where
  | put (key value : String)
  | delete (key : String)
  deriving DecidableEq, Repr

namespace Operation

/-- Which change an operation makes. -/
inductive Kind where
  | put
  | delete
  deriving DecidableEq, Repr

/-- The name of a kind in messages. -/
def Kind.name : Kind → String
  | .put => "PUT"
  | .delete => "DELETE"

/-- The kinds a message may name; `DEL` is a second name for a delete. -/
def Kind.ofName? : String → Option Kind
  | "PUT" => some .put
  | "DELETE" => some .delete
  | "DEL" => some .delete
  | _ => none

theorem Kind.ofName?_name (k : Kind) : Kind.ofName? k.name = some k := by
  cases k <;> rfl

def kind : Operation → Kind
  | put _ _ => .put
  | delete _ => .delete

def key : Operation → String
  | put k _ => k
  | delete k => k

/-- What diagnostics say about an operation. -/
def summary : Operation → String
  | put k _ => "PUT key=" ++ k
  | delete k => "DEL key=" ++ k

end Operation

end ReplicatedCache
