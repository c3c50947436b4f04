/-
Sending one operation to one replica over HTTP.

* `Address.url`: where the replica at an address takes operations;
* `ReplicaClient.destination`: the URL that takes the operations of a replica;
* `ReplicaClient.request`: the request for an operation;
* `NetworkReply`: what comes back, if anything does;
* `ReplicaClient.judge`: whether the replica has confirmed the operation, and if not, why.
-/
import ReplicatedCache.Api.Reply
import ReplicatedCache.Api.Request
import ReplicatedCache.Http.Message
import ReplicatedCache.Http.Url

namespace ReplicatedCache

namespace Address

/-- The characters of an address without the slashes at its end. -/
def dropSlashes (address : List Char) : List Char :=
  (address.reverse.dropWhile (· = '/')).reverse

/-- Whether an address is the start of a URL. -/
def hasScheme (address : List Char) : Bool :=
  "http://".toList.isPrefixOf address || "https://".toList.isPrefixOf address

/-- Where the replica at an address, a host with a port or the start of a URL, takes
operations. -/
def url (address : String) : String :=
  let base := dropSlashes address.toList
  (if hasScheme base then String.ofList base else "http://" ++ String.ofList base) ++ "/replicate"

end Address

/-- What comes back for a request. -/
inductive NetworkReply where
  /-- No connection, or something that is not HTTP. -/
  | unreachable
  /-- A response, of which `complete` says whether all announced bytes of its body arrived. -/
  | response (status : Nat) (body : Bytes) (complete : Bool)
  deriving DecidableEq, Repr

namespace ReplicaClient

/-- The body that is sent for an operation. -/
def body (op : Operation) : Bytes := Utf8.encode (ReplicateRequest.ofOperation op).json.text

/-- The fault of a request that was not answered. -/
def notAnswered (reason : String) : Fault := .replication ("transport error: " ++ reason)

/-- The fault of an address that belongs to no URL. -/
def unbuildable : Fault := notAnswered "builder error"

/-- The fault of a URL that no request can name. -/
def unsendable (url : Http.Url) : Fault :=
  notAnswered ("builder error for url (" ++ url.text ++ ")")

/-- The fault of a request that did not get through to a URL. -/
def unreachable (url : Http.Url) : Fault :=
  notAnswered ("error sending request for url (" ++ url.text ++ ")")

/-- Where the replica at an address takes operations, without credentials. -/
def destination (address : String) : Except Fault Http.Url :=
  match Http.Url.parse? (Address.url address) with
  | none => .error unbuildable
  | some url =>
      let url := url.withoutCredentials
      if url.isSendable then .ok url else .error (unsendable url)

/-- The request for an operation to a replica. -/
def request (url : Http.Url) (op : Operation) : Http.Request where
  method := "POST"
  target := String.ofList url.target
  headers := [("content-type", "application/json")]
  body := body op

/-- The fault of a response that does not report a success. -/
def refused (status : Nat) : Fault :=
  .replication ("replica answered HTTP " ++ Http.Status.text status)

/-- The fault of a response whose body says nothing. -/
def unreadable : Fault :=
  .replication "invalid replica reply: error decoding response body"

/-- The fault of a replica that did not apply the operation. -/
def notApplied : Fault := .replication "replica failed to apply operation"

/-- The number of a response that has no body. -/
def noContent : Nat := 204

/-- What the reply from a URL says about the operation. -/
def judge (url : Http.Url) : NetworkReply → Except Fault Unit
  | .unreachable => .error (unreachable url)
  | .response status body complete =>
      if !Http.Status.isSuccess status then .error (refused status)
      else if !complete then .error unreadable
      else match ReplicateReply.shape.readAll (if status = noContent then [] else body) with
        | .ok reply => if reply.success then .ok () else .error notApplied
        | .error _ => .error unreadable

end ReplicaClient

end ReplicatedCache
