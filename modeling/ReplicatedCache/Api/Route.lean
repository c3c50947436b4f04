/-
The paths that a node answers.

* `Route`: what a path asks for;
* `Route.ofPath?`: the route of a path;
* `Route.accepts`, `Route.methods`: the methods of a route.
-/
import ReplicatedCache.Http.Message

namespace ReplicatedCache

/-- What a path asks for. A key is still written as in the path. -/
inductive Route where
  | store
  | read (segment : List Char)
  | delete (segment : List Char)
  | replicate
  | stats
  | entries
  | health
  deriving DecidableEq, Repr

namespace Route

/-- The rest of a path behind its first characters, if it starts with them. -/
def behind? : (front path : List Char) → Option (List Char)
  | [], path => some path
  | _ :: _, [] => none
  | f :: front, c :: path => if c = f then behind? front path else none

/-- The single segment behind the first characters of a path; it is not empty. -/
def segment? (front path : List Char) : Option (List Char) :=
  match behind? front path with
  | some segment => if segment = [] ∨ '/' ∈ segment then none else some segment
  | none => none

/-- The route of a path. -/
def ofPath? (path : List Char) : Option Route :=
  if path = "/set".toList then some .store
  else if path = "/replicate".toList then some .replicate
  else if path = "/stats".toList then some .stats
  else if path = "/entries".toList then some .entries
  else if path = "/health".toList then some .health
  else match segment? "/get/".toList path with
    | some segment => some (.read segment)
    | none => (segment? "/del/".toList path).map .delete

/-- Whether a route answers a method. What can be read can also be asked for without its body. -/
def accepts (route : Route) (method : String) : Bool :=
  match route with
  | store => method = "PUT"
  | delete _ => method = "DELETE"
  | replicate => method = "POST"
  | read _ | stats | entries | health => method = "GET" || method = "HEAD"

/-- The methods of a route, as the header of a refusal lists them. -/
def methods : Route → String
  | store => "PUT"
  | delete _ => "DELETE"
  | replicate => "POST"
  | read _ | stats | entries | health => "GET,HEAD"

end Route

end ReplicatedCache
