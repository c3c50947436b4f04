/-
What a primary accepts over HTTP, and what a replica makes of it over HTTP.

* `Http.Request.IsWrite`: a request for a change of a key;
* `StoreRequest.toHttp`: the request for a put, as a client writes it;
* `quotes`: a value that takes twice its length in a body;
* `Host.serve_write`: a write that is answered with success stores and queues one operation that
  breaks no rule;
* `Host.serve_request`, `Host.serve_replicate`: what a replica does with the request that is sent for
  an operation: it carries the operation out, unless that breaks a rule or the body of the request
  is too large to be read;
* `Host.length_body_le`: where the body of a write has room to spare, that of the request fits;
* `Host.serve_toHttp`: a put that breaks no rule is stored, if its body may be read;
* `Host.write_replicated_iff`: **forwarding**: a replica takes over exactly the accepted writes
  whose replicate request fits;
* `Host.write_not_replicated_quotes`: there are accepted writes whose replicate request does not.
-/
import ReplicatedCache.Proofs.Api.Calls

namespace ReplicatedCache

open Json (inside)

/-- A request for a change of a key. -/
def Http.Request.IsWrite (r : Http.Request) : Prop :=
  (r.method = "PUT" ∧ Route.ofPath? r.path = some .store) ∨
    (r.method = "DELETE" ∧ ∃ segment, Route.ofPath? r.path = some (.delete segment))

/-- The path under which replicas take operations. -/
def replicatePath : List Char := "/replicate".toList

/-! ### Requests -/

/-- The path of a target that starts with a slash. -/
lemma Http.Request.path_of_target {r : Http.Request} {rest : List Char}
    (htarget : r.target.toList = '/' :: rest) : r.path = dropQuery ('/' :: rest) := by
  simp only [path, htarget]

namespace ReplicaClient

variable {url : Http.Url}

lemma path_request (hurl : url.target = replicatePath) (op : Operation) :
    (request url op).path = replicatePath := by
  have htarget : (request url op).target.toList = replicatePath := by
    rw [request, hurl]
    rfl
  rw [Http.Request.path_of_target htarget]
  rfl

lemma body_request (url : Http.Url) (op : Operation) : (request url op).body = body op := by
  simp only [request]

/-- What the reply of a replica says about an operation is taken as it is meant. -/
lemma judge_reply (url : Http.Url) (success : Bool) :
    judge url (.response 200 (Utf8.encode (ReplicateReply.json ⟨success⟩).text) true) =
      if success then .ok () else .error notApplied := by
  have hreply := ReplicateReply.readAll_json ⟨success⟩
  have hsuccess : Http.Status.isSuccess 200 = true := by decide
  have hcontent : 200 ≠ noContent := by decide
  simp only [judge, hsuccess, if_neg hcontent, hreply, Bool.not_true, Bool.false_eq_true, if_false]

end ReplicaClient

/-- The request that stores a value under a key. -/
def StoreRequest.toHttp (request : StoreRequest) : Http.Request where
  method := "PUT"
  target := "/set"
  headers := [("content-type", "application/json")]
  body := Utf8.encode (Json.obj request.members).text

lemma StoreRequest.route_toHttp (request : StoreRequest) :
    Route.ofPath? request.toHttp.path = some .store := by
  have htarget : request.toHttp.target.toList = "/set".toList := rfl
  rw [Http.Request.path_of_target htarget]
  decide

/-! ### Bodies -/

section Bodies

variable {σ α : Type} {shape : Json.RecordShape σ α} {r : Http.Request} {a : α}

/-- What is read from a body is what its bytes say. -/
lemma readLeading_of_readBody (h : readBody shape r = .ok a) :
    shape.readLeading r.body = .ok a := by
  rw [readBody] at h
  split at h
  next => cases h
  next =>
      split at h
      next => cases h
      next =>
          split at h
          next b hread =>
              rw [hread, Except.ok.inj h]
          next => cases h

/-- The body of a JSON request is read unless it is too large. -/
lemma readBody_eq (hjson : saysJson r = true) (hread : shape.readLeading r.body = .ok a) :
    readBody shape r = if maxBodySize < r.body.length then .error .bodyTooLarge else .ok a := by
  rw [readBody, hjson, hread]
  rfl

end Bodies

/-! ### A value that grows -/

/-- A value of quotes only, each of which takes two bytes in a body. -/
def quotes (n : Nat) : String := String.ofList (List.replicate n '"')

lemma encode_quotes (n : Nat) : Utf8.encode (quotes n) = List.replicate n Json.quoteByte := by
  rw [quotes, Utf8.encode_ofList]
  induction n with
  | zero => rfl
  | succ n ih =>
      rw [List.replicate_succ, List.flatMap_cons, ih]
      rfl

lemma length_inside_quotes (n : Nat) : (inside (quotes n)).length = 2 * n := by
  rw [Json.length_inside, encode_quotes, Json.weightOf, List.map_replicate, List.sum_replicate_nat]
  exact Nat.mul_comm n 2

lemma checkValue_quotes {n : Nat} (hn : n ≤ maxValueSize) : checkValue (quotes n) = none := by
  have hsize : (quotes n).utf8ByteSize = n := by
    rw [← Utf8.length_encode, encode_quotes, List.length_replicate]
  have hlines : (quotes n).toList.any isLineBreak = false := by
    rw [quotes, String.toList_ofList, List.any_eq_false]
    intro c hc
    rw [List.eq_of_mem_replicate hc]
    decide
  rw [checkValue, hsize, if_neg (Nat.not_lt.mpr hn), hlines]
  rfl

/-! ### Writes -/

namespace Host

variable {h g g₁ : Host} {now moment : Moment} {clock time : Timestamp} {r : Http.Request}
  {route : Route} {op : Operation} {url : Http.Url} {q : SendQueue}

/-- A request with a body is answered by the route that accepts it. -/
lemma serve_of_accepts (h : Host) (now : Moment) (clock : Timestamp) {method : String}
    (hroute : Route.ofPath? r.path = some route) (hmethod : r.method = method)
    (haccepts : route.accepts method = true) (hhead : method ≠ "HEAD") :
    h.serve now clock r =
      ((h.answer now clock r route).1.response, (h.answer now clock r route).2) := by
  subst hmethod
  rw [serve_accepted h now clock hroute haccepts, if_neg hhead]

/-- The request for a put fits where the body of the put leaves 31 bytes to spare. -/
lemma length_body_le {request : StoreRequest}
    (hread : StoreRequest.shape.readLeading r.body = .ok request)
    (hroom : r.body.length + 31 ≤ maxBodySize) :
    (ReplicaClient.body request.toOperation).length ≤ maxBodySize := by
  have hle := StoreRequest.le_of_readLeading hread
  rw [StoreRequest.toOperation, ReplicaClient.length_body_put]
  omega

/-- The request for a delete always fits. -/
lemma length_body_delete_le {key : String} (hcheck : checkKey key = none) :
    (ReplicaClient.body (.delete key)).length ≤ maxBodySize := by
  have hkey : key.utf8ByteSize ≤ maxKeyLength := by
    rw [checkKey] at hcheck
    split at hcheck
    next => cases hcheck
    next =>
        split at hcheck
        next => cases hcheck
        next hshort => exact Nat.le_of_not_lt hshort
  have hinside := Json.length_inside_le key
  rw [ReplicaClient.length_body_delete]
  simp only [maxKeyLength, maxBodySize] at hkey ⊢
  omega

/-- A write that is answered with success is confirmed. -/
lemma confirmedBy_of_isWrite {response : Http.Response} (hwrite : r.IsWrite)
    (hstatus : response.status = 200) : r.confirmedBy response = true := by
  rcases hwrite with ⟨hmethod, hroute⟩ | ⟨hmethod, segment, hroute⟩
  · exact (confirmedBy_eq hroute).mpr ⟨rfl, by rw [hmethod]; rfl, hstatus, fun h => by cases h⟩
  · exact (confirmedBy_eq hroute).mpr ⟨rfl, by rw [hmethod]; rfl, hstatus, fun h => by cases h⟩

/-- **A write that is answered with success** has carried out one operation, which breaks no
rule. -/
lemma serve_write (hwrite : r.IsWrite) (hstatus : (h.serve now clock r).1.status = 200) :
    ∃ op, op.check = none ∧
      h.carryOut (.ofClient op) now = (.ok (), (h.serve now clock r).2) ∧
      (r.method = "DELETE" ∨ r.body.length + 31 ≤ maxBodySize →
        (ReplicaClient.body op).length ≤ maxBodySize) := by
  obtain ⟨call, hcall, haccepted, hdone⟩ :=
    carryOut_of_confirmedBy (confirmedBy_of_isWrite hwrite hstatus)
  obtain ⟨route, hroute, -, hcall⟩ := call?_eq_some hcall
  rcases hwrite with ⟨hmethod, hstore⟩ | ⟨-, segment, hdelete⟩
  · obtain rfl := Option.some.inj (hroute.symm.trans hstore)
    obtain ⟨request, hbody, rfl⟩ := call?_store hcall
    refine ⟨request.toOperation, haccepted, hdone, fun hroom => ?_⟩
    rcases hroom with hdelete | hroom
    · rw [hmethod] at hdelete
      exact absurd hdelete (by decide)
    · exact length_body_le (readLeading_of_readBody hbody) hroom
  · obtain rfl := Option.some.inj (hroute.symm.trans hdelete)
    obtain ⟨key, -, rfl⟩ := Option.map_eq_some_iff.mp hcall
    exact ⟨.delete key, haccepted, hdone, fun _ => length_body_delete_le haccepted⟩

/-- An operation that is carried out for a client is queued. -/
lemma queue_of_carryOut {h' : Host} (hqueue : h.node.queue = some q)
    (hdone : h.carryOut (.ofClient op) now = (.ok (), h')) :
    h'.node.queue = some (q.enqueue op).2 := by
  rcases h.carryOut_cases (.ofClient op) now with ⟨h₁, -, hok⟩ | ⟨fault, h₁, -, herror⟩
  · rw [hdone, Call.forwards_ofClient, Call.op_ofClient, hqueue] at hok
    rw [(Prod.mk.inj hok).2]
    rfl
  · rw [hdone] at herror
    cases (Prod.mk.inj herror).1

/-! ### What a replica does -/

/-- The request for an operation reads as that operation, unless it is too large. -/
lemma readBody_request (url : Http.Url) (op : Operation) :
    readBody ReplicateRequest.shape (ReplicaClient.request url op) =
      if maxBodySize < (ReplicaClient.body op).length then .error .bodyTooLarge
      else .ok (.ofOperation op) := by
  have hjson : saysJson (ReplicaClient.request url op) = true := by
    have hheader : (ReplicaClient.request url op).header? "content-type" =
        some "application/json" := rfl
    rw [saysJson, hheader]
    decide
  rw [← ReplicaClient.body_request url op]
  exact readBody_eq hjson (by rw [ReplicaClient.body_request, ReplicaClient.readLeading_body])

/-- **What is done with the request** for an operation where operations are taken: the operation is
received, unless it breaks a rule or the request is too large. -/
lemma serve_request (g : Host) (moment : Moment) (time : Timestamp)
    (hroute : Route.ofPath? (ReplicaClient.request url op).path = some .replicate) :
    g.serve moment time (ReplicaClient.request url op) =
      if maxBodySize < (ReplicaClient.body op).length then
        ((Answer.notice .bodyTooLarge).response, g)
      else
        ((g.answerCall (.receive op) moment).1.response,
          (g.answerCall (.receive op) moment).2) := by
  have hbody := readBody_request url op
  rw [serve_of_accepts g moment time hroute (show _ = "POST" from rfl) rfl (by decide), answer]
  by_cases hlarge : maxBodySize < (ReplicaClient.body op).length
  · have hnotice := hbody.trans (if_pos hlarge)
    rw [if_pos hlarge, answerReplicate, hnotice]
  · have hread := hbody.trans (if_neg hlarge)
    rw [if_neg hlarge, answerReplicate_eq hread, ReplicateRequest.toOperation_ofOperation]

/-- **What a replica does** with an operation that breaks no rule, if it can log it: it carries the
operation out, unless the request is too large. -/
lemma serve_replicate (hurl : url.target = replicatePath) (hcheck : op.check = none)
    (hrecord : g.record op = (.ok (), g₁)) :
    g.serve moment time (ReplicaClient.request url op) =
      if maxBodySize < (ReplicaClient.body op).length then
        ((Answer.notice .bodyTooLarge).response, g)
      else
        ((Answer.ok (ReplicateReply.json ⟨true⟩)).response,
          ⟨⟨g.node.cache.apply op moment, g₁.node.log, g.node.queue⟩, g₁.disk⟩) := by
  have hroute : Route.ofPath? (ReplicaClient.request url op).path = some .replicate := by
    rw [ReplicaClient.path_request hurl]
    decide
  have hcheck' : (Call.receive op).op.check = none := hcheck
  have hrecord' : g.record (Call.receive op).op = (.ok (), g₁) := hrecord
  rw [serve_request g moment time hroute, answerCall, hcheck']
  simp only [carryOut_ok hrecord' moment]
  rfl

/-- A replica that reports a success has confirmed the operation. -/
lemma judge_applied (url : Http.Url) :
    ReplicaClient.judge url
      (.response 200 (Utf8.encode (ReplicateReply.json ⟨true⟩).text) true) = .ok () :=
  ReplicaClient.judge_reply url true

/-! ### Forwarding -/

/-- A value that breaks no rule is stored, if the node can log it and the request is not too
large. -/
lemma serve_toHttp {request : StoreRequest} (hcheck : request.check = none)
    (hfits : request.toHttp.body.length ≤ maxBodySize) {h₁ : Host}
    (hrecord : h.record request.toOperation = (.ok (), h₁)) :
    h.serve now clock request.toHttp =
      ((Answer.ok (Reply.stored request.key)).response,
        ⟨⟨h.node.cache.apply request.toOperation now, h₁.node.log,
          h.node.queue.map fun q => (q.enqueue request.toOperation).2⟩, h₁.disk⟩) := by
  have hjson : saysJson request.toHttp = true := by
    have hheader : request.toHttp.header? "content-type" = some "application/json" := rfl
    rw [saysJson, hheader]
    decide
  have hbody := readBody_eq hjson (by rw [StoreRequest.toHttp, request.readLeading_obj])
  have hread := hbody.trans (if_neg (Nat.not_lt.mpr hfits))
  have hrecord' : h.record (Call.put request.key request.value).op = (.ok (), h₁) := hrecord
  have hput : h.put request.key request.value now = (.ok (),
      ⟨⟨h.node.cache.apply request.toOperation now, h₁.node.log,
        h.node.queue.map fun q => (q.enqueue request.toOperation).2⟩, h₁.disk⟩) :=
    carryOut_ok hrecord' now
  rw [serve_of_accepts h now clock request.route_toHttp (show _ = "PUT" from rfl) rfl
    (by decide), answer, answerStore, hread]
  simp only [hcheck, hput]

/-- **Forwarding**: a write that a primary answers with success has queued one operation. The
request that is sent for this operation to a replica which can log it

* is answered with success, is taken as confirmed and has the replica carry out this very operation
  and nothing else, if and only if its body may be read, which holds for every delete, and for a put
  at least if its own body leaves 31 bytes to spare;
* else is refused as too large, and leaves the replica as it was. -/
theorem write_replicated_iff (h : Host) (now : Moment) (clock : Timestamp) (r : Http.Request)
    (q : SendQueue) (hqueue : h.node.queue = some q) (hwrite : r.IsWrite)
    (hstatus : (h.serve now clock r).1.status = 200) :
    ∃ op : Operation, op.check = none ∧
      (h.serve now clock r).2.node.queue = some (q.enqueue op).2 ∧
      (r.method = "DELETE" ∨ r.body.length + 31 ≤ maxBodySize →
        (ReplicaClient.body op).length ≤ maxBodySize) ∧
      ∀ (url : Http.Url) (g g₁ : Host) (moment : Moment) (time : Timestamp),
        url.target = replicatePath → g.record op = (.ok (), g₁) →
          let reply := g.serve moment time (ReplicaClient.request url op)
          (reply.1.status = 200 ∧ reply.1.body = (ReplicateReply.json ⟨true⟩).text ∧
            ReplicaClient.judge url
              (.response reply.1.status (Utf8.encode reply.1.body) true) = .ok () ∧
            reply.2 = ⟨⟨g.node.cache.apply op moment, g₁.node.log, g.node.queue⟩, g₁.disk⟩ ↔
              (ReplicaClient.body op).length ≤ maxBodySize) ∧
          (maxBodySize < (ReplicaClient.body op).length → reply.1.status = 413 ∧ reply.2 = g) := by
  obtain ⟨op, hcheck, hdone, hroom⟩ := serve_write hwrite hstatus
  refine ⟨op, hcheck, queue_of_carryOut hqueue hdone, hroom, ?_⟩
  intro url g g₁ moment time hurl hrecord reply
  have hreply : reply = _ := serve_replicate hurl hcheck hrecord
  by_cases hlarge : maxBodySize < (ReplicaClient.body op).length
  · rw [if_pos hlarge] at hreply
    have hrefused : reply.1.status = 413 ∧ reply.2 = g := by
      rw [hreply]
      exact ⟨rfl, rfl⟩
    refine ⟨⟨fun hok => ?_, fun hfits => absurd hlarge (Nat.not_lt.mpr hfits)⟩, fun _ => hrefused⟩
    have hcontra := hok.1.symm.trans hrefused.1
    exact absurd hcontra (by decide)
  · rw [if_neg hlarge] at hreply
    rw [hreply]
    exact ⟨⟨fun _ => Nat.le_of_not_lt hlarge, fun _ => ⟨rfl, rfl, judge_applied url, rfl⟩⟩,
      fun h => absurd h hlarge⟩

/-- A put to a primary, which a replica takes over. -/
theorem write_replicated_iff_put :
    let primary : Host := ⟨⟨.empty 2 none, none, some {}⟩, ⟨#[], #[[]]⟩⟩
    let replica : Host := ⟨⟨.empty 2 none, none, none⟩, ⟨#[], #[[]]⟩⟩
    let url : Http.Url := ⟨false, none, .domain "replica".toList, none, replicatePath, none, none⟩
    ∃ op, (primary.serve 0 ⟨0, 0⟩ (StoreRequest.toHttp ⟨"a", "1"⟩)).2.node.queue =
        some (SendQueue.enqueue {} op).2 ∧
      (replica.serve 1 ⟨1, 0⟩ (ReplicaClient.request url op)).1.status = 200 ∧
      (replica.serve 1 ⟨1, 0⟩ (ReplicaClient.request url op)).2.node.cache =
        replica.node.cache.apply op 1 := by
  intro primary replica url
  have hlength : (StoreRequest.toHttp ⟨"a", "1"⟩).body.length = 23 := by decide
  have hstatus : (primary.serve 0 ⟨0, 0⟩ (StoreRequest.toHttp ⟨"a", "1"⟩)).1.status = 200 := by
    have hlogged : primary.record (.put "a" "1") = (.ok (), primary) := rfl
    rw [serve_toHttp (by decide) (by rw [hlength]; decide) hlogged]
    rfl
  obtain ⟨op, -, hqueue, hroom, hreplica⟩ := write_replicated_iff primary 0 ⟨0, 0⟩
    (StoreRequest.toHttp ⟨"a", "1"⟩) {} rfl (.inl ⟨rfl, StoreRequest.route_toHttp _⟩) hstatus
  have hfits := hroom (.inr (by rw [hlength]; decide))
  obtain ⟨hok, -, -, hdone⟩ := (hreplica url replica replica 1 ⟨1, 0⟩ rfl rfl).1.mpr hfits
  exact ⟨op, hqueue, hok, by rw [hdone]⟩

/-- **Not every accepted write is replicated**: a value of 1048560 quotes is stored, and the request
that is sent for it, which names the operation too, is too large for a replica. -/
theorem write_not_replicated_quotes :
    let request : StoreRequest := ⟨"k", quotes 1048560⟩
    let primary : Host := ⟨⟨.empty 1 none, none, some {}⟩, ⟨#[], #[[]]⟩⟩
    let replica : Host := ⟨⟨.empty 1 none, none, none⟩, ⟨#[], #[[]]⟩⟩
    let url : Http.Url := ⟨false, none, .domain "replica".toList, none, replicatePath, none, none⟩
    request.toHttp.IsWrite ∧
      (primary.serve 0 ⟨0, 0⟩ request.toHttp).1.status = 200 ∧
      (primary.serve 0 ⟨0, 0⟩ request.toHttp).2.node.queue =
        some (SendQueue.enqueue {} request.toOperation).2 ∧
      replica.record request.toOperation = (.ok (), replica) ∧
      (replica.serve 0 ⟨0, 0⟩ (ReplicaClient.request url request.toOperation)).1.status = 413 := by
  intro request primary replica url
  have hkey : (inside request.key).length = 1 := by decide
  have hvalue : (inside request.value).length = 2097120 := length_inside_quotes 1048560
  have hcheck : request.check = none := by
    have hkeyCheck : checkKey request.key = none := by decide
    have hvalueCheck : checkValue request.value = none := checkValue_quotes (by decide)
    rw [StoreRequest.check, StoreRequest.toOperation, Operation.check, hkeyCheck, hvalueCheck]
    rfl
  have hfits : request.toHttp.body.length ≤ maxBodySize := by
    have hlength := request.length_obj
    rw [hkey, hvalue] at hlength
    rw [StoreRequest.toHttp, hlength]
    decide
  have hlarge : maxBodySize < (ReplicaClient.body request.toOperation).length := by
    rw [StoreRequest.toOperation, ReplicaClient.length_body_put, hkey, hvalue]
    decide
  have hlogged : primary.record request.toOperation = (.ok (), primary) := rfl
  have hrecorded : replica.record request.toOperation = (.ok (), replica) := rfl
  rw [serve_toHttp hcheck hfits hlogged, serve_replicate rfl hcheck hrecorded, if_pos hlarge]
  exact ⟨.inl ⟨rfl, request.route_toHttp⟩, rfl, rfl, rfl, rfl⟩

end Host

end ReplicatedCache
