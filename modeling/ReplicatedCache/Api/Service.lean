/-
How a node answers requests. What is decided before a route is reached, and in which order (the
path, the method, the type of the body, its size), follows the documented behaviour of the HTTP
framework.

* `Notice`: the refusals that are put into words rather than JSON;
* `Answer`: what is said to a request, before it is made a response;
* `Host.answer`: what each route does;
* `Host.serve`: the response to a request, and the node after it.
-/
import ReplicatedCache.Api.Reply
import ReplicatedCache.Api.Request
import ReplicatedCache.Api.Route
import ReplicatedCache.Http.MediaType
import ReplicatedCache.Http.Percent
import ReplicatedCache.Node.Basic

namespace ReplicatedCache

/-- A request that is refused before the node is asked. -/
inductive Notice where
  /-- The key in the path is not UTF-8. -/
  | unreadableKey
  | notJson
  | bodyTooLarge
  | badBody (defect : Json.Defect)
  deriving DecidableEq, Repr

namespace Notice

def status : Notice → Nat
  | unreadableKey => 400
  | notJson => 415
  | bodyTooLarge => 413
  | badBody .mistyped => 422
  | badBody _ => 400

def message : Notice → String
  | unreadableKey => "The key in the path is not UTF-8"
  | notJson => "The content type must be that of JSON"
  | bodyTooLarge => "The body is too large"
  | badBody .mistyped => "The body does not describe such a request"
  | badBody _ => "The body is not JSON"

end Notice

/-- What is said to a request. -/
inductive Answer where
  | json (status : Nat) (value : Json)
  | notice (n : Notice)

namespace Answer

def ok (value : Json) : Answer := .json 200 value

/-- The answer to a request that failed. -/
def fault (f : Fault) : Answer := .json f.status (Reply.fault f)

/-- The answer to a request that breaks a rule. -/
def refusal (v : Violation) : Answer := fault (.invalidRequest v.message)

/-- The response that carries an answer. -/
def response : Answer → Http.Response
  | json status value =>
      { status, contentType := some "application/json", body := value.text }
  | notice n =>
      { status := n.status, contentType := some "text/plain; charset=utf-8", body := n.message }

end Answer

/-- The largest body that is read, in bytes. -/
def maxBodySize : Nat := 2097152

/-- Whether the headers of a request say that its body is JSON. -/
def saysJson (r : Http.Request) : Bool :=
  match (r.header? "content-type").bind MediaType.parse? with
  | some mediaType => mediaType.isJson
  | none => false

/-- Reads the body of a request. Whatever follows the value is ignored. -/
def readBody {σ α : Type} (shape : Json.RecordShape σ α) (r : Http.Request) : Except Notice α :=
  if !saysJson r then .error .notJson
  else if maxBodySize < r.body.length then .error .bodyTooLarge
  else match shape.readLeading r.body with
    | .ok a => .ok a
    | .error defect => .error (.badBody defect)

/-- The key that a segment of a path spells. -/
def keyOfSegment? (segment : List Char) : Option String :=
  Utf8.decode (Percent.decode (Utf8.encode (String.ofList segment)))

namespace Host

/-- Stores a value for a client. -/
def answerStore (h : Host) (now : Moment) (r : Http.Request) : Answer × Host :=
  match readBody StoreRequest.shape r with
  | .error notice => (.notice notice, h)
  | .ok request =>
      match request.check with
      | some violation => (.refusal violation, h)
      | none =>
          match h.put request.key request.value now with
          | (.ok (), h) => (.ok (Reply.stored request.key), h)
          | (.error fault, h) => (.fault fault, h)

/-- Reads a key for a client. No rule is checked: a key that breaks one is never found. -/
def answerRead (h : Host) (now : Moment) (segment : List Char) : Answer × Host :=
  match keyOfSegment? segment with
  | none => (.notice .unreadableKey, h)
  | some key =>
      match h.get key now with
      | (some value, h) => (.ok (Reply.entry key value), h)
      | (none, h) => (.fault (.notFound key), h)

/-- Deletes a key for a client. -/
def answerDelete (h : Host) (now : Moment) (segment : List Char) : Answer × Host :=
  match keyOfSegment? segment with
  | none => (.notice .unreadableKey, h)
  | some key =>
      match checkKey key with
      | some violation => (.refusal violation, h)
      | none =>
          match h.delete key now with
          | (.ok (), h) => (.ok (Reply.deleted key), h)
          | (.error fault, h) => (.fault fault, h)

/-- Carries out an operation for a primary. A fault of the log is reported in the answer. -/
def answerReplicate (h : Host) (now : Moment) (r : Http.Request) : Answer × Host :=
  match readBody ReplicateRequest.shape r with
  | .error notice => (.notice notice, h)
  | .ok request =>
      match request.check with
      | some violation => (.refusal violation, h)
      | none =>
          let (result, h) := h.receive request.toOperation now
          let success := match result with
            | .ok () => true
            | .error _ => false
          (.ok (ReplicateReply.json ⟨success⟩), h)

/-- Reports the counters. -/
def answerStats (h : Host) : Answer :=
  .ok (Reply.stats h.node.role h.node.cache.capacity h.node.cache.counters
    (h.node.replication.map ReplicationCounters.summary))

/-- Lists the entries. -/
def answerEntries (h : Host) (now : Moment) : Answer :=
  .ok (Reply.entries (h.node.cache.entries now))

/-- Says that the node is alive. -/
def answerHealth (h : Host) (clock : Timestamp) : Answer := .ok (Reply.health h.node.role clock)

/-- What a route does with a request whose method it accepts. -/
def answer (h : Host) (now : Moment) (clock : Timestamp) (r : Http.Request) :
    Route → Answer × Host
  | .store => h.answerStore now r
  | .read segment => h.answerRead now segment
  | .delete segment => h.answerDelete now segment
  | .replicate => h.answerReplicate now r
  | .stats => (h.answerStats, h)
  | .entries => (h.answerEntries now, h)
  | .health => (h.answerHealth clock, h)

/-- The response to a request, and the node after it. -/
def serve (h : Host) (now : Moment) (clock : Timestamp) (r : Http.Request) :
    Http.Response × Host :=
  let route := Route.ofPath? r.path
  if r.method = "OPTIONS" then
    ({ status := 200, allow := route.map Route.methods, preflight := true }, h)
  else
    match route with
    | none => ({ status := 404 }, h)
    | some route =>
        if route.accepts r.method then
          let (answer, h) := h.answer now clock r route
          let response := answer.response
          (if r.method = "HEAD" then { response with body := "" } else response, h)
        else ({ status := 405, allow := some route.methods }, h)

end Host

end ReplicatedCache
