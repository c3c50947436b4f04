/-
The ways in which a request or the start of a node can fail:

* `Fault`: the cause, with the detail that belongs to it;
* `Fault.message`: the text shown for it.
-/
namespace ReplicatedCache

/-- Why something was not done. -/
inductive Fault where
  /-- The key is not in the cache, or has been idle for too long. -/
  | notFound (key : String)
  /-- The request asks for something that is not allowed. -/
  | invalidRequest (reason : String)
  /-- The log could not be opened or written, so nothing was changed. -/
  | durability (detail : String)
  /-- The log could not be read when the node started. -/
  | recovery (detail : String)
  /-- A line of the log is no record. -/
  | malformedRecord (line : Nat) (reason : String)
  /-- One attempt to reach a replica failed. -/
  | replication (detail : String)
  | internal (detail : String)
  deriving DecidableEq, Repr

/-- The text shown for a fault. -/
def Fault.message : Fault → String
  | notFound key => "Key not found: " ++ key
  | invalidRequest reason => "Invalid request: " ++ reason
  | durability detail => "Durability error: " ++ detail
  | recovery detail => "Recovery error: " ++ detail
  | malformedRecord line reason =>
      "Malformed WAL record at line " ++ line.repr ++ ": " ++ reason
  | replication detail => "Replication error: " ++ detail
  | internal detail => "Internal error: " ++ detail

end ReplicatedCache
