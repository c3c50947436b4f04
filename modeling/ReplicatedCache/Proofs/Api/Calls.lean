/-
What requests ask of a node, and what it answers.

* `Http.Request.call?`: the call that a request asks for, as its path, method and body say;
* `Host.serve_of_call`: **a request for a call** is refused if it breaks a rule, and else the call
  is carried out and its result is the answer;
* `Host.serve_of_no_call`: **any other request** changes nothing, unless it reads a key;
* `Http.Request.confirmedBy`: a response that tells a client or a primary of a success;
* `Host.confirmedBy_serve`: this is said exactly of the calls that were carried out;
* `Host.serve_cases`: what a request can do at all.
-/
import ReplicatedCache.Api.Service
import ReplicatedCache.Proofs.Api.Bodies
import ReplicatedCache.Proofs.Node.Calls

namespace ReplicatedCache

/-! ### Calls -/

/-- Whether calls can be asked for on a route. -/
def Route.changes : Route → Bool
  | .store | .delete _ | .replicate => true
  | .read _ | .stats | .entries | .health => false

/-- The call that a request asks for on a route, if it can be read. -/
def Route.call? (r : Http.Request) : Route → Option Call
  | .store =>
      match readBody StoreRequest.shape r with
      | .ok request => some (.put request.key request.value)
      | .error _ => none
  | .delete segment => (keyOfSegment? segment).map .delete
  | .replicate =>
      match readBody ReplicateRequest.shape r with
      | .ok request => some (.receive request.toOperation)
      | .error _ => none
  | .read _ | .stats | .entries | .health => none

/-- The call that a request asks for, if it asks for one and can be read. -/
def Http.Request.call? (r : Http.Request) : Option Call :=
  match Route.ofPath? r.path with
  | some route => if route.accepts r.method then route.call? r else none
  | none => none

/-- What is said about a call that was carried out: a client is told of a fault by the status, and
a primary in the body. -/
def Call.answer : Call → Except Fault Unit → Answer
  | .put key _, .ok () => .ok (Reply.stored key)
  | .delete key, .ok () => .ok (Reply.deleted key)
  | .put _ _, .error fault | .delete _, .error fault => .fault fault
  | .receive _, .ok () => .ok (ReplicateReply.json ⟨true⟩)
  | .receive _, .error _ => .ok (ReplicateReply.json ⟨false⟩)

/-- Refuses a call that breaks a rule, and else carries it out. -/
def Host.answerCall (h : Host) (call : Call) (now : Moment) : Answer × Host :=
  match call.op.check with
  | some violation => (.refusal violation, h)
  | none => (call.answer (h.carryOut call now).1, (h.carryOut call now).2)

/-- Whether the body of a response says that an operation was carried out. -/
def Http.Response.saysSuccess (response : Http.Response) : Bool :=
  match ReplicateReply.shape.readAll (Utf8.encode response.body) with
  | .ok reply => reply.success
  | .error _ => false

/-- Whether a response tells a client, by its status, or a primary, by its body too, that the change
it asked for was made. -/
def Http.Request.confirmedBy (r : Http.Request) (response : Http.Response) : Bool :=
  match Route.ofPath? r.path with
  | some .store => r.method = "PUT" && response.status = 200
  | some (.delete _) => r.method = "DELETE" && response.status = 200
  | some .replicate => r.method = "POST" && response.status = 200 && response.saysSuccess
  | _ => false

/-! ### Statuses -/

lemma Notice.status_ne (n : Notice) : n.status ≠ 200 := by
  cases n with
  | unreadableKey => decide
  | notJson => decide
  | bodyTooLarge => decide
  | badBody defect =>
      cases defect with
      | malformed => decide
      | mistyped => decide
      | truncated => decide

lemma Fault.status_ne (f : Fault) : f.status ≠ 200 := by
  cases f with
  | notFound key => exact Nat.ne_of_beq_eq_false rfl
  | invalidRequest text => exact Nat.ne_of_beq_eq_false rfl
  | replication text => exact Nat.ne_of_beq_eq_false rfl
  | durability text => exact Nat.ne_of_beq_eq_false rfl
  | recovery text => exact Nat.ne_of_beq_eq_false rfl
  | malformedRecord line reason => exact Nat.ne_of_beq_eq_false rfl
  | internal text => exact Nat.ne_of_beq_eq_false rfl

/-- What a replica says about an operation reads as what it says. -/
lemma saysSuccess_replicate (b : Bool) :
    (Answer.ok (ReplicateReply.json ⟨b⟩)).response.saysSuccess = b := by
  have hreply := ReplicateReply.readAll_json ⟨b⟩
  simp only [Http.Response.saysSuccess, Answer.ok, Answer.response, hreply]

namespace Host

variable {h : Host} {now : Moment} {clock : Timestamp} {r : Http.Request} {route : Route}
  {call : Call}

/-! ### Routes -/

lemma answerStore_eq {request : StoreRequest}
    (hbody : readBody StoreRequest.shape r = .ok request) :
    h.answerStore now r = h.answerCall (.put request.key request.value) now := by
  have hcheck : request.check = (Call.put request.key request.value).op.check := rfl
  simp only [answerStore, hbody, answerCall, ← hcheck, carryOut]
  cases request.check with
  | some violation => rfl
  | none =>
      rcases h.put request.key request.value now with ⟨result, h'⟩
      cases result with
      | ok u => rfl
      | error fault => rfl

lemma answerDelete_eq {segment : List Char} {key : String}
    (hkey : keyOfSegment? segment = some key) :
    h.answerDelete now segment = h.answerCall (.delete key) now := by
  have hcheck : checkKey key = (Call.delete key).op.check := rfl
  simp only [answerDelete, hkey, answerCall, ← hcheck, carryOut]
  cases checkKey key with
  | some violation => rfl
  | none =>
      rcases h.delete key now with ⟨result, h'⟩
      cases result with
      | ok u => rfl
      | error fault => rfl

lemma answerReplicate_eq {request : ReplicateRequest}
    (hbody : readBody ReplicateRequest.shape r = .ok request) :
    h.answerReplicate now r = h.answerCall (.receive request.toOperation) now := by
  have hcheck : request.check = (Call.receive request.toOperation).op.check := rfl
  simp only [answerReplicate, hbody, answerCall, ← hcheck, carryOut]
  cases request.check with
  | some violation => rfl
  | none =>
      rcases h.receive request.toOperation now with ⟨result, h'⟩
      cases result with
      | ok u => rfl
      | error fault => rfl

lemma call?_store (hcall : Route.store.call? r = some call) :
    ∃ request, readBody StoreRequest.shape r = .ok request ∧
      call = .put request.key request.value := by
  simp only [Route.call?] at hcall
  split at hcall
  next request hbody => exact ⟨request, hbody, (Option.some.inj hcall).symm⟩
  next => cases hcall

lemma call?_replicate (hcall : Route.replicate.call? r = some call) :
    ∃ request, readBody ReplicateRequest.shape r = .ok request ∧
      call = .receive request.toOperation := by
  simp only [Route.call?] at hcall
  split at hcall
  next request hbody => exact ⟨request, hbody, (Option.some.inj hcall).symm⟩
  next => cases hcall

/-- **A route that is asked for a call** refuses it or carries it out. -/
lemma answer_of_call (hcall : route.call? r = some call) :
    h.answer now clock r route = h.answerCall call now := by
  cases route with
  | store =>
      obtain ⟨request, hbody, rfl⟩ := call?_store hcall
      exact answerStore_eq hbody
  | delete segment =>
      obtain ⟨key, hkey, rfl⟩ := Option.map_eq_some_iff.mp hcall
      exact answerDelete_eq hkey
  | replicate =>
      obtain ⟨request, hbody, rfl⟩ := call?_replicate hcall
      exact answerReplicate_eq hbody
  | read _ | stats | entries | health => cases hcall

/-- Where a call could have been asked for, the request cannot be read. -/
lemma answer_unreadable (h : Host) (now : Moment) (clock : Timestamp)
    (hchanges : route.changes = true) (hcall : route.call? r = none) :
    ∃ notice, h.answer now clock r route = (.notice notice, h) := by
  cases route with
  | store =>
      simp only [Route.call?] at hcall
      split at hcall
      next => cases hcall
      next notice hbody => exact ⟨notice, by rw [answer, answerStore, hbody]⟩
  | delete segment =>
      exact ⟨.unreadableKey, by rw [answer, answerDelete, Option.map_eq_none_iff.mp hcall]⟩
  | replicate =>
      simp only [Route.call?] at hcall
      split at hcall
      next => cases hcall
      next notice hbody => exact ⟨notice, by rw [answer, answerReplicate, hbody]⟩
  | read _ | stats | entries | health => cases hchanges

/-- Where no call can be asked for, nothing is changed, unless a key is read. -/
lemma answer_reading (hchanges : route.changes = false) :
    (h.answer now clock r route).2 = h ∨ ∃ segment key, route = .read segment ∧
      keyOfSegment? segment = some key ∧
      (h.answer now clock r route).2 = (h.get key now).2 := by
  cases route with
  | store | delete _ | replicate => cases hchanges
  | read segment =>
      rw [answer, answerRead]
      cases hkey : keyOfSegment? segment with
      | none => exact .inl rfl
      | some key =>
          refine .inr ⟨segment, key, rfl, hkey, ?_⟩
          rcases hget : h.get key now with ⟨value, h'⟩
          cases value with
          | none => simp only [hget]
          | some value => simp only [hget]
  | stats | entries | health => exact .inl rfl

/-! ### Requests -/

lemma not_accepts_options (route : Route) : route.accepts "OPTIONS" = false := by
  cases route <;> rfl

/-- A route that is asked for a call does not answer requests for the head alone. -/
lemma ne_head_of_call (haccepts : route.accepts r.method = true)
    (hcall : route.call? r = some call) : r.method ≠ "HEAD" := by
  intro hhead
  rw [hhead] at haccepts
  cases route with
  | store | delete _ | replicate => exact absurd haccepts (by simp [Route.accepts])
  | read _ | stats | entries | health => cases hcall

/-- A request whose method its route accepts is answered by the route. -/
lemma serve_accepted (h : Host) (now : Moment) (clock : Timestamp)
    (hroute : Route.ofPath? r.path = some route) (haccepts : route.accepts r.method = true) :
    h.serve now clock r =
      (if r.method = "HEAD" then { (h.answer now clock r route).1.response with body := "" }
        else (h.answer now clock r route).1.response, (h.answer now clock r route).2) := by
  have hoptions : r.method ≠ "OPTIONS" := by
    intro hoptions
    rw [hoptions, not_accepts_options] at haccepts
    cases haccepts
  rw [serve, hroute]
  simp only [if_neg hoptions, haccepts, if_true]

/-- A request that no route accepts changes nothing. -/
lemma serve_not_accepted (h : Host) (now : Moment) (clock : Timestamp)
    (hroute : ∀ route, Route.ofPath? r.path = some route → route.accepts r.method = false) :
    (h.serve now clock r).2 = h := by
  simp only [serve]
  cases hpath : Route.ofPath? r.path with
  | none => split <;> rfl
  | some route =>
      simp only [hroute route hpath]
      split <;> rfl

/-- A request for a call is one that the route of its path accepts. -/
lemma call?_eq_some (hcall : r.call? = some call) :
    ∃ route, Route.ofPath? r.path = some route ∧ route.accepts r.method = true ∧
      route.call? r = some call := by
  rw [Http.Request.call?] at hcall
  split at hcall
  next route hroute =>
      split at hcall
      next haccepts => exact ⟨route, hroute, haccepts, hcall⟩
      next => cases hcall
  next => cases hcall

/-- **A request for a call** is refused if the call breaks a rule; else the call is carried out, and
its result is the answer. -/
lemma serve_of_call (hcall : r.call? = some call) :
    h.serve now clock r = ((h.answerCall call now).1.response, (h.answerCall call now).2) := by
  obtain ⟨route, hroute, haccepts, hcall⟩ := call?_eq_some hcall
  rw [serve_accepted h now clock hroute haccepts, if_neg (ne_head_of_call haccepts hcall),
    answer_of_call hcall]

/-- **Any other request** changes nothing, unless it reads a key. -/
lemma serve_of_no_call (h : Host) (now : Moment) (clock : Timestamp) (hcall : r.call? = none) :
    (h.serve now clock r).2 = h ∨ ∃ segment key, Route.ofPath? r.path = some (.read segment) ∧
      keyOfSegment? segment = some key ∧ (h.serve now clock r).2 = (h.get key now).2 := by
  by_cases haccepted : ∃ route, Route.ofPath? r.path = some route ∧ route.accepts r.method = true
  · obtain ⟨route, hroute, haccepts⟩ := haccepted
    rw [Http.Request.call?, hroute] at hcall
    simp only [if_pos haccepts] at hcall
    rw [serve_accepted h now clock hroute haccepts]
    cases hchanges : route.changes with
    | true =>
        obtain ⟨notice, hanswer⟩ := answer_unreadable h now clock hchanges hcall
        rw [hanswer]
        exact .inl rfl
    | false =>
        rcases answer_reading hchanges with hsame | ⟨segment, key, rfl, hkey, hget⟩
        · exact .inl hsame
        · exact .inr ⟨segment, key, hroute, hkey, hget⟩
  · refine .inl (serve_not_accepted h now clock fun route hroute => ?_)
    rw [Bool.eq_false_iff]
    exact fun haccepts => haccepted ⟨route, hroute, haccepts⟩

/-! ### Confirmations -/

/-- **What is said about a call** is a success exactly if it breaks no rule and is carried out. -/
lemma answerCall_success (h : Host) (call : Call) (now : Moment) :
    ((h.answerCall call now).1.response.status = 200 ∧
        (call.forwards = false → (h.answerCall call now).1.response.saysSuccess = true)) ↔
      call.Accepted ∧ (h.carryOut call now).1 = .ok () := by
  rw [answerCall, Call.Accepted]
  cases call.op.check with
  | some violation =>
      have hstatus := Fault.status_ne (.invalidRequest violation.message)
      exact ⟨fun hok => absurd hok.1 hstatus, fun hok => by cases hok.1⟩
  | none =>
      cases (h.carryOut call now).1 with
      | ok u =>
          refine ⟨fun _ => ⟨rfl, rfl⟩, fun _ => ?_⟩
          cases call with
          | put key value => exact ⟨rfl, fun hforwards => by cases hforwards⟩
          | delete key => exact ⟨rfl, fun hforwards => by cases hforwards⟩
          | receive op => exact ⟨rfl, fun _ => saysSuccess_replicate true⟩
      | error fault =>
          refine ⟨fun hok => ?_, fun hok => by cases hok.2⟩
          cases call with
          | put key value => exact absurd hok.1 fault.status_ne
          | delete key => exact absurd hok.1 fault.status_ne
          | receive op =>
              have hfalse := (saysSuccess_replicate false).symm.trans (hok.2 rfl)
              cases hfalse

/-- Operations are received from a primary on a route of their own. -/
lemma forwards_of_call (hcall : route.call? r = some call) :
    call.forwards = false ↔ route = .replicate := by
  cases route with
  | store =>
      obtain ⟨request, -, rfl⟩ := call?_store hcall
      simp [Call.forwards]
  | delete segment =>
      obtain ⟨key, -, rfl⟩ := Option.map_eq_some_iff.mp hcall
      simp [Call.forwards]
  | replicate =>
      obtain ⟨request, -, rfl⟩ := call?_replicate hcall
      simp [Call.forwards]
  | read _ | stats | entries | health => cases hcall

/-- What confirms a change, on a route that accepts the request. -/
lemma confirmedBy_eq {response : Http.Response} (hroute : Route.ofPath? r.path = some route) :
    r.confirmedBy response = true ↔ route.changes = true ∧ route.accepts r.method = true ∧
      response.status = 200 ∧ (route = .replicate → response.saysSuccess = true) := by
  rw [Http.Request.confirmedBy, hroute]
  cases route with
  | store | delete _ | replicate => simp [Route.changes, Route.accepts, and_assoc]
  | read _ | stats | entries | health => simp [Route.changes]

/-- **Confirmed** is exactly a call that breaks no rule and is carried out. -/
lemma confirmedBy_serve (hcall : r.call? = some call) :
    r.confirmedBy (h.serve now clock r).1 = true ↔
      call.Accepted ∧ (h.carryOut call now).1 = .ok () := by
  rw [← answerCall_success, serve_of_call hcall]
  obtain ⟨route, hroute, haccepts, hcall⟩ := call?_eq_some hcall
  rw [confirmedBy_eq hroute, forwards_of_call hcall]
  have hchanges : route.changes = true := by
    cases route with
    | store | delete _ | replicate => rfl
    | read _ | stats | entries | health => cases hcall
  exact ⟨fun h => h.2.2, fun h => ⟨hchanges, haccepts, h⟩⟩

/-- A request that asks for no call is not confirmed. -/
lemma not_confirmedBy_serve (hcall : r.call? = none) :
    r.confirmedBy (h.serve now clock r).1 = false := by
  rw [Bool.eq_false_iff]
  intro hconfirmed
  cases hroute : Route.ofPath? r.path with
  | none =>
      rw [Http.Request.confirmedBy, hroute] at hconfirmed
      cases hconfirmed
  | some route =>
      obtain ⟨hchanges, haccepts, hstatus, -⟩ := (confirmedBy_eq hroute).mp hconfirmed
      rw [Http.Request.call?, hroute] at hcall
      simp only [if_pos haccepts] at hcall
      obtain ⟨notice, hanswer⟩ := answer_unreadable h now clock hchanges hcall
      rw [serve_accepted h now clock hroute haccepts, hanswer] at hstatus
      simp only at hstatus
      split at hstatus
      · exact notice.status_ne hstatus
      · exact notice.status_ne hstatus

/-- **What is confirmed was done**: the request asked for a call, which breaks no rule and was
carried out. -/
lemma carryOut_of_confirmedBy (hconfirmed : r.confirmedBy (h.serve now clock r).1 = true) :
    ∃ call, r.call? = some call ∧ call.Accepted ∧
      h.carryOut call now = (.ok (), (h.serve now clock r).2) := by
  cases hcall : r.call? with
  | none =>
      rw [not_confirmedBy_serve hcall] at hconfirmed
      cases hconfirmed
  | some call =>
      obtain ⟨haccepted, hok⟩ := (confirmedBy_serve hcall).mp hconfirmed
      refine ⟨call, rfl, haccepted, Prod.ext hok ?_⟩
      rw [serve_of_call hcall, answerCall, haccepted]

/-- **One request** carries out a call that breaks no rule; or it is not confirmed, and changes the
cache at most. -/
lemma serve_cases (h : Host) (now : Moment) (clock : Timestamp) (r : Http.Request) :
    (∃ call, r.call? = some call ∧ call.Accepted ∧
        (h.serve now clock r).2 = (h.carryOut call now).2) ∨
      ((∀ call, r.call? = some call → ¬call.Accepted) ∧
        r.confirmedBy (h.serve now clock r).1 = false ∧
        ∃ cache, (h.serve now clock r).2 = ⟨{ h.node with cache }, h.disk⟩) := by
  cases hcall : r.call? with
  | none =>
      refine .inr ⟨fun call h => (by cases h), not_confirmedBy_serve hcall, ?_⟩
      rcases serve_of_no_call h now clock hcall with hsame | ⟨segment, key, -, -, hget⟩
      · exact ⟨h.node.cache, hsame⟩
      · exact ⟨(h.node.cache.get key now).2, hget⟩
  | some call =>
      by_cases haccepted : call.Accepted
      · refine .inl ⟨call, rfl, haccepted, ?_⟩
        rw [serve_of_call hcall, answerCall, haccepted]
      · refine .inr ⟨fun call' h => Option.some.inj h ▸ haccepted, ?_, h.node.cache, ?_⟩
        · rw [Bool.eq_false_iff, ne_eq, confirmedBy_serve hcall]
          exact fun hdone => haccepted hdone.1
        · obtain ⟨violation, hviolation⟩ := Option.ne_none_iff_exists'.mp haccepted
          rw [serve_of_call hcall, answerCall, hviolation]

end Host

end ReplicatedCache
