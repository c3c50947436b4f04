/-
The JSON bodies of requests.

* `StoreRequest`: asks for a value to be stored under a key;
* `ReplicateRequest`: asks a replica to carry out an operation of its primary;
* `ReplicateRequest.ofOperation`, `ReplicateRequest.toOperation`: what is sent for an operation,
  and what is done for a request;
* `shape` of each: how it is read, `ReplicateRequest.json`: how it is written.
-/
import ReplicatedCache.Json.Record
import ReplicatedCache.Json.Value
import ReplicatedCache.Operation.Limits

namespace ReplicatedCache

/-- Asks for a value to be stored under a key. -/
structure StoreRequest where
  key : String
  value : String
  deriving DecidableEq, Repr

namespace StoreRequest

/-- The members of a store request read so far. -/
structure Draft where
  key : Option String := none
  value : Option String := none

/-- Both members must be given. -/
def shape : Json.RecordShape Draft StoreRequest where
  blank := {}
  fields :=
    [.of "key" Json.readText Draft.key fun d s => { d with key := some s },
     .of "value" Json.readText Draft.value fun d s => { d with value := some s }]
  finish
    | ⟨some key, some value⟩ => some ⟨key, value⟩
    | _ => none

def toOperation (r : StoreRequest) : Operation := .put r.key r.value

/-- The first rule that the request breaks. -/
def check (r : StoreRequest) : Option Violation := r.toOperation.check

end StoreRequest

/-- Asks a replica to carry out an operation. The value of a delete has no meaning. -/
structure ReplicateRequest where
  kind : Operation.Kind
  key : String
  value : String
  deriving DecidableEq, Repr

namespace ReplicateRequest

/-- The members of a replicate request read so far. -/
structure Draft where
  kind : Option Operation.Kind := none
  key : Option String := none
  value : Option String := none

/-- The value may be missing and is empty then. -/
def shape : Json.RecordShape Draft ReplicateRequest where
  blank := {}
  fields :=
    [.of "op_type" (Json.readName Operation.Kind.ofName?) Draft.kind
       fun d k => { d with kind := some k },
     .of "key" Json.readText Draft.key fun d s => { d with key := some s },
     .of "value" Json.readText Draft.value fun d s => { d with value := some s }]
  finish
    | ⟨some kind, some key, value⟩ => some ⟨kind, key, value.getD ""⟩
    | _ => none

/-- The operation that is asked for. -/
def toOperation (r : ReplicateRequest) : Operation :=
  match r.kind with
  | .put => .put r.key r.value
  | .delete => .delete r.key

/-- The request for an operation. -/
def ofOperation : Operation → ReplicateRequest
  | .put key value => ⟨.put, key, value⟩
  | .delete key => ⟨.delete, key, ""⟩

theorem toOperation_ofOperation (op : Operation) : (ofOperation op).toOperation = op := by
  cases op <;> rfl

/-- The first rule that the request breaks. -/
def check (r : ReplicateRequest) : Option Violation := r.toOperation.check

def json (r : ReplicateRequest) : Json :=
  .obj [("op_type", .str r.kind.name), ("key", .str r.key), ("value", .str r.value)]

end ReplicateRequest

end ReplicatedCache
